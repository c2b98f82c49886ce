import LiquidationDrill.Value.Display

/-!
# Values as keys

A table tells its entries apart by keys: numbers and truth values by their exact number, texts and bytes by themselves.
Arrays and objects are no keys.

- `Value.key`: the key that a value is, or the `Value.Unhashable` that it is none;
- `Value.same_iff_key_eq`: values that are counted as the same are one key.
-/

namespace LiquidationDrill

namespace Value

/-- What the entries of a table are told apart by. -/
inductive Key where
  | null
  | number (exact : Number.Exact)
  | text (t : Text)
  | bytes (bs : List UInt8)
  deriving DecidableEq

/-- A value that can be no key. -/
structure Unhashable where
  value : Value

/-- The wording: the kind of the value. -/
def Unhashable.message (fault : Unhashable) : Text := "unhashable type: '" ++ fault.value.kind ++ "'"

/-- The key that a value is. False and true are the keys zero and one. -/
def key : Value → Except Unhashable Key
  | null => .ok .null
  | bool false => .ok (.number (Number.int 0).exact)
  | bool true => .ok (.number (Number.int 1).exact)
  | number n => .ok (.number n.exact)
  | string t => .ok (.text t)
  | bytes bs => .ok (.bytes bs)
  | array items => .error ⟨array items⟩
  | object members => .error ⟨object members⟩

/-- A text is its own key. -/
@[simp] theorem key_string (t : Text) : key (.string t) = .ok (.text t) := rfl

/-- Two values that can be keys are counted as the same exactly if they are one key. -/
theorem same_iff_key_eq {x y : Value} {k l : Key} (hx : x.key = .ok k) (hy : y.key = .ok l) :
    x.same y = true ↔ k = l := by
  match x, y with
  | array _, _ => simp [key] at hx
  | object _, _ => simp [key] at hx
  | _, array _ => simp [key] at hy
  | _, object _ => simp [key] at hy
  | null, y =>
    cases hx
    match y with
    | bool false | bool true | null | number _ | string _ | bytes _ =>
      cases hy
      simp [same, numeric?, number?]
  | bool false, y | bool true, y | number _, y | string _, y | bytes _, y =>
    cases hx
    match y with
    | bool false | bool true | null | number _ | string _ | bytes _ =>
      cases hy
      simp [same, numeric?, number?]

end Value

end LiquidationDrill
