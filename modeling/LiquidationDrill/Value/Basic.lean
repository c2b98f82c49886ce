import LiquidationDrill.Number.Basic

/-!
# Values

What logs carry and contracts answer: integers of any size, strings that may hold halves of surrogate pairs, bytes,
and objects that keep the order of their members. A value without bytes can be written as JSON.

- `Value.Members`: members of an object, with `get?` and `insert`;
- `Value.isTruthy`: the value is neither null, false, zero nor empty;
- `Value.same`: the value another one is counted as, whatever the order of members and the kind of its numbers;
- `Value.beq_iff_eq`: equality, which tells all these apart, is decidable.
-/

namespace LiquidationDrill

/-- A value of a log or of a contract. -/
inductive Value where
  | null
  | bool (b : Bool)
  | number (n : Number)
  | string (t : Text)
  | bytes (bs : List UInt8)
  | array (items : List Value)
  | object (members : List (Text × Value))

namespace Value

instance : Inhabited Value := ⟨null⟩

instance : Coe Text Value := ⟨string⟩

/-- An integer as a value. -/
def int (n : Int) : Value := number (.int n)

/-! ## Equality -/

mutual

/-- The values are equal. -/
def beq : Value → Value → Bool
  | null, null => true
  | bool a, bool b => a = b
  | number m, number n => m = n
  | string s, string t => s = t
  | bytes xs, bytes ys => xs = ys
  | array xs, array ys => beqItems xs ys
  | object xs, object ys => beqMembers xs ys
  | _, _ => false

/-- Two lists of values are equal. -/
def beqItems : List Value → List Value → Bool
  | [], [] => true
  | x :: xs, y :: ys => beq x y && beqItems xs ys
  | _, _ => false

/-- Two lists of members are equal. -/
def beqMembers : List (Text × Value) → List (Text × Value) → Bool
  | [], [] => true
  | (name, x) :: xs, (name', y) :: ys => name = name' && beq x y && beqMembers xs ys
  | _, _ => false

end

mutual

/-- Only equal values are told to be equal. -/
theorem beq_iff_eq (x y : Value) : beq x y = true ↔ x = y := by
  cases x <;> cases y <;> simp [beq, beqItems_iff_eq, beqMembers_iff_eq]

theorem beqItems_iff_eq (xs ys : List Value) : beqItems xs ys = true ↔ xs = ys := by
  match xs, ys with
  | [], [] => simp [beqItems]
  | [], _ :: _ => simp [beqItems]
  | _ :: _, [] => simp [beqItems]
  | x :: xs, y :: ys => simp [beqItems, beq_iff_eq x y, beqItems_iff_eq xs ys]

theorem beqMembers_iff_eq (xs ys : List (Text × Value)) : beqMembers xs ys = true ↔ xs = ys := by
  match xs, ys with
  | [], [] => simp [beqMembers]
  | [], _ :: _ => simp [beqMembers]
  | _ :: _, [] => simp [beqMembers]
  | (_, x) :: xs, (_, y) :: ys => simp [beqMembers, beq_iff_eq x y, beqMembers_iff_eq xs ys, and_assoc]

end

instance : DecidableEq Value := fun x y => decidable_of_iff _ (beq_iff_eq x y)

/-! ## Members -/

/-- Members of an object in the order of their names' first appearance. -/
abbrev Members := List (Text × Value)

namespace Members

/-- The value of a name. -/
def get? : Members → Text → Option Value
  | [], _ => none
  | (name, value) :: rest, key => if name = key then some value else get? rest key

/-- Gives a name a value, at its place if it has one and at the end otherwise. -/
def insert : Members → Text → Value → Members
  | [], key, value => [(key, value)]
  | (name, old) :: rest, key, value =>
    if name = key then (name, value) :: rest else (name, old) :: insert rest key value

/-- A name has the value that it was given. -/
theorem get?_insert_self (members : Members) (key : Text) (value : Value) :
    (members.insert key value).get? key = some value := by
  induction members with
  | nil => simp [insert, get?]
  | cons member rest ih =>
    obtain ⟨name, old⟩ := member
    by_cases h : name = key <;> simp [insert, get?, h, ih]

/-- The other names keep their values. -/
theorem get?_insert_of_ne (members : Members) {key other : Text} (value : Value) (h : key ≠ other) :
    (members.insert key value).get? other = members.get? other := by
  induction members with
  | nil => simp [insert, get?, h]
  | cons member rest ih =>
    obtain ⟨name, old⟩ := member
    by_cases hk : name = key
    · subst hk
      simp [insert, get?, h]
    · simp [insert, get?, hk, ih]

/-- A name that is there stays at its place. -/
theorem map_fst_insert_of_mem {members : Members} {key : Text} (value : Value) (h : key ∈ members.map Prod.fst) :
    (members.insert key value).map Prod.fst = members.map Prod.fst := by
  induction members with
  | nil => simp at h
  | cons member rest ih =>
    obtain ⟨name, old⟩ := member
    by_cases hk : name = key
    · simp [insert, hk]
    · have hr : key ∈ rest.map Prod.fst := by
        rcases List.mem_cons.mp h with e | hr
        · exact absurd e.symm hk
        · exact hr
      rw [insert, if_neg hk, List.map_cons, List.map_cons, ih hr]

/-- A new name comes last. -/
theorem insert_of_not_mem {members : Members} {key : Text} (value : Value) (h : key ∉ members.map Prod.fst) :
    members.insert key value = members ++ [(key, value)] := by
  induction members with
  | nil => rfl
  | cons member rest ih =>
    obtain ⟨name, old⟩ := member
    have hk : name ≠ key := fun e => h (by simp [e])
    have hr : key ∉ rest.map Prod.fst := fun hr => h (List.mem_cons_of_mem _ hr)
    rw [insert, if_neg hk, ih hr, List.cons_append]

/-- Members in the order in which they are written, where the last value of a repeated name counts. -/
def ofWritten (written : List (Text × Value)) : Members :=
  written.foldl (fun members (name, value) => members.insert name value) []

end Members

/-! ## What a value counts as -/

/-- The members of an object. -/
def members? : Value → Option Members
  | object members => some members
  | _ => none

/-- The value is neither null, false, zero nor empty. -/
def isTruthy : Value → Bool
  | null => false
  | bool b => b
  | number n => !n.isZero
  | string t => !t.isEmpty
  | bytes bs => !bs.isEmpty
  | array items => !items.isEmpty
  | object members => !members.isEmpty

/-- The number that a value counts as: false and true count as zero and one. -/
def number? : Value → Option Number
  | bool false => some (.int 0)
  | bool true => some (.int 1)
  | number n => some n
  | _ => none

/-- The exact value of the number that a value counts as. -/
def numeric? (x : Value) : Option Number.Exact := x.number?.map Number.exact

mutual

/-- Two values are counted as the same: numbers by their exact value, objects by their members in any order. -/
def same : Value → Value → Bool
  | null, null => true
  | string s, string t => s = t
  | bytes xs, bytes ys => xs = ys
  | array xs, array ys => sameItems xs ys
  | object xs, object ys => xs.length = ys.length && sameMembers xs ys
  | x, y => x.numeric?.isSome && x.numeric? = y.numeric?

/-- Two lists of values that are the same one by one. -/
def sameItems : List Value → List Value → Bool
  | [], [] => true
  | x :: xs, y :: ys => same x y && sameItems xs ys
  | _, _ => false

/-- Each of the members has the same value among the others. -/
def sameMembers : List (Text × Value) → List (Text × Value) → Bool
  | [], _ => true
  | (name, x) :: xs, ys =>
    (match Members.get? ys name with
      | some y => same x y
      | none => false) && sameMembers xs ys

end

/-- A value is the same as a text only if it is that text. -/
theorem same_string {x : Value} {t : Text} : x.same (.string t) = true ↔ x = .string t := by
  cases x with
  | string s => simp [same]
  | _ => simp [same, show numeric? (.string t) = none from rfl, Option.isSome_iff_ne_none]

/-- Integers are the same only if they are equal. -/
theorem same_int {m n : Int} : (int m).same (int n) = true ↔ m = n := by
  have h : Dyadic.ofInt m = Dyadic.ofInt n ↔ m = n := by
    rw [← Dyadic.toRat_inj]
    exact ⟨fun e => Rat.intCast_inj.mp (Dyadic.toRat_intCast m ▸ Dyadic.toRat_intCast n ▸ e),
      fun e => e ▸ rfl⟩
  simp [int, same, numeric?, number?, Number.exact, h]

end Value

end LiquidationDrill
