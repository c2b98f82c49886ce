import LiquidationDrill.Proofs.Json.Settled
import LiquidationDrill.Value.Key
import Mathlib.Data.List.Forall2
import Mathlib.Data.List.Perm.Subperm

/-!
# Values that are alike

What the comparison of values compares, said without it: numbers and truth values are alike if they are worth the same
(`Value.Worth`), whichever kind they are of; arrays if their items are, one by one; objects if they have the same names
and give each of them values that are alike (`Value.Alike`). A plain value, such as a text or a double that is no
number, is alike with itself only (`Value.alike_plain`). To be alike is symmetric and transitive (`Alike.symm`,
`Alike.trans`).

- `Value.Unambiguous`: no object in the value has a name twice, as after reading (`Json.Spells.unambiguous`);
- `Value.same_iff_alike`: such values are counted as the same iff they are alike;
- `Value.key_cases`: a value is a key, or it is an array or an object.
-/

namespace LiquidationDrill

/-- A double is the rational number that its exact value is. -/
theorem Double.toRat?_eq_some {x : Double} {q : Rat} :
    x.toRat? = some q ↔ ∃ d, (Number.float x).exact = .value d ∧ d.toRat = q := by
  cases x with
  | nan | infinity => simp [toRat?, Number.exact]
  | negativeZero =>
    have h0 : Dyadic.toRat 0 = 0 := Dyadic.toRat_intCast 0
    simp [toRat?, Number.exact, h0]
  | finite d => simp [toRat?, Number.exact]

namespace Value

/-! ## Definitions -/

/-- The rational number that a value is, whatever kind of number it is. -/
inductive Worth : Value → Rat → Prop
  | false : Worth (.bool false) 0
  | true : Worth (.bool true) 1
  | int (n : Int) : Worth (.number (.int n)) n
  | double {x : Double} {q : Rat} : x.toRat? = some q → Worth (.number (.float x)) q

/-- The value is neither made of others nor worth a number. -/
inductive Plain : Value → Prop
  | null : Plain .null
  | string (t : Text) : Plain (.string t)
  | bytes (bs : List UInt8) : Plain (.bytes bs)
  | double {x : Double} : x.toRat? = none → Plain (.number (.float x))

/-- The values are alike. -/
inductive Alike : Value → Value → Prop
  | plain {x : Value} : Plain x → Alike x x
  | number {x y : Value} {q : Rat} : Worth x q → Worth y q → Alike x y
  | array {xs ys : List Value} : xs.length = ys.length →
      (∀ (i : Nat) (x y : Value), xs[i]? = some x → ys[i]? = some y → Alike x y) → Alike (.array xs) (.array ys)
  | object {xs ys : Members} : (∀ name, name ∈ xs.map Prod.fst ↔ name ∈ ys.map Prod.fst) →
      (∀ name x y, xs.get? name = some x → ys.get? name = some y → Alike x y) → Alike (.object xs) (.object ys)

/-- No object in the value has a name twice. -/
inductive Unambiguous : Value → Prop
  | null : Unambiguous .null
  | bool (b : Bool) : Unambiguous (.bool b)
  | number (n : Number) : Unambiguous (.number n)
  | string (t : Text) : Unambiguous (.string t)
  | bytes (bs : List UInt8) : Unambiguous (.bytes bs)
  | array {items : List Value} : (∀ x ∈ items, Unambiguous x) → Unambiguous (.array items)
  | object {members : Members} : (members.map Prod.fst).Nodup →
      (∀ name x, (name, x) ∈ members → Unambiguous x) → Unambiguous (.object members)

/-! ## Numbers -/

/-- A value is worth its exact number. -/
theorem worth_iff {x : Value} {q : Rat} : Worth x q ↔ ∃ d, x.numeric? = some (.value d) ∧ d.toRat = q := by
  constructor
  · intro h
    cases h with
    | false => exact ⟨_, rfl, Dyadic.toRat_intCast 0⟩
    | true => exact ⟨_, rfl, Dyadic.toRat_intCast 1⟩
    | int n => exact ⟨_, rfl, Dyadic.toRat_intCast n⟩
    | double h =>
      obtain ⟨d, hd, hq⟩ := Double.toRat?_eq_some.mp h
      exact ⟨d, congrArg some hd, hq⟩
  · rintro ⟨d, h, rfl⟩
    match x with
    | null | string _ | bytes _ | array _ | object _ => cases h
    | bool .false =>
      cases h
      exact Dyadic.toRat_intCast 0 ▸ Worth.false
    | bool .true =>
      cases h
      exact Dyadic.toRat_intCast 1 ▸ Worth.true
    | number (.int n) =>
      cases h
      exact Dyadic.toRat_intCast n ▸ Worth.int n
    | number (.float x) => exact .double (Double.toRat?_eq_some.mpr ⟨d, Option.some.inj h, rfl⟩)

/-- A value is worth one number at most. -/
theorem Worth.unique {x : Value} {q r : Rat} (hq : Worth x q) (hr : Worth x r) : q = r := by
  obtain ⟨d, hd, rfl⟩ := worth_iff.mp hq
  obtain ⟨e, he, rfl⟩ := worth_iff.mp hr
  rw [hd] at he
  cases he
  rfl

/-- What is worth a number is alike with what is worth it too. -/
theorem alike_of_worth {x y : Value} {q : Rat} (hx : Worth x q) : Alike x y ↔ Worth y q := by
  constructor
  · intro h
    cases h with
    | plain => exact hx
    | number hq hy => exact hx.unique hq ▸ hy
    | array | object => cases hx
  · exact .number hx

/-- A number is counted as the same as what has its exact value. -/
theorem same_of_numeric {x y : Value} {e : Number.Exact} (hx : x.numeric? = some e) :
    x.same y = true ↔ y.numeric? = some e := by
  have hs : x.same y = (x.numeric?.isSome && x.numeric? = y.numeric?) := by
    cases x with
    | null | string | bytes | array | object => cases hx
    | bool | number => cases y <;> rfl
  rw [hs, hx, Option.isSome_some, Bool.true_and, decide_eq_true_eq, eq_comm]

/-- What is worth a number is counted as the same as what is worth it too. -/
theorem same_of_worth {x y : Value} {q : Rat} (hx : Worth x q) : x.same y = true ↔ Worth y q := by
  obtain ⟨d, hd, rfl⟩ := worth_iff.mp hx
  rw [same_of_numeric hd, worth_iff]
  constructor
  · exact fun hy => ⟨d, hy, rfl⟩
  · rintro ⟨e, hy, he⟩
    rw [hy, Dyadic.toRat_inj.mp he]

/-- A number is worth one, or it is a double that is none. -/
theorem worth_or_plain (n : Number) : (∃ q, Worth (.number n) q) ∨ Plain (.number n) := by
  cases n with
  | int n => exact .inl ⟨n, .int n⟩
  | float x =>
    cases hx : x.toRat? with
    | none => exact .inr (.double hx)
    | some q => exact .inl ⟨q, .double hx⟩

/-- No other value has the exact value of a double that is no number. -/
theorem numeric_eq_double {x : Double} (hx : x.toRat? = none) {y : Value} :
    y.numeric? = some (Number.float x).exact ↔ y = .number (.float x) := by
  constructor
  · intro hy
    match y with
    | null | string _ | bytes _ | array _ | object _ => cases hy
    | bool false | bool true | number (.int _) => cases x <;> cases hx <;> cases hy
    | number (.float y) => cases x <;> cases hx <;> cases y <;> cases hy <;> rfl
  · rintro rfl
    rfl

/-! ## Values of the other kinds -/

/-- A plain value is alike with itself only. -/
theorem alike_plain {x y : Value} (hx : Plain x) : Alike x y ↔ y = x := by
  constructor
  · intro h
    cases h with
    | plain => rfl
    | number hq =>
      cases hx with
      | double hx =>
        cases hq with
        | double hq =>
          rw [hx] at hq
          cases hq
      | _ => cases hq
    | array | object => cases hx
  · rintro rfl
    exact .plain hx

/-- A plain value is counted as the same as itself only. -/
theorem same_plain {x y : Value} (hx : Plain x) : x.same y = true ↔ y = x := by
  cases hx with
  | double hx => exact (same_of_numeric rfl).trans (numeric_eq_double hx)
  | _ => cases y <;> simp [same, numeric?, number?, eq_comm]

/-- Items are compared one by one. -/
theorem sameItems_iff {xs ys : List Value} :
    sameItems xs ys = true ↔ List.Forall₂ (fun x y => x.same y = true) xs ys := by
  induction xs generalizing ys with
  | nil => cases ys <;> simp [sameItems]
  | cons x xs ih => cases ys <;> simp [sameItems, ih]

/-- Members are looked for among the others. -/
theorem sameMembers_iff {xs ys : Members} :
    sameMembers xs ys = true ↔ ∀ name x, (name, x) ∈ xs → ∃ y, ys.get? name = some y ∧ x.same y = true := by
  induction xs with
  | nil => simp [sameMembers]
  | cons member xs ih =>
    obtain ⟨name, x⟩ := member
    simp only [sameMembers, Bool.and_eq_true, ih, List.mem_cons, Prod.mk.injEq]
    constructor
    · rintro ⟨hx, hxs⟩ other y (⟨rfl, rfl⟩ | hm)
      · split at hx
        next y hy => exact ⟨y, hy, hx⟩
        next => cases hx
      · exact hxs other y hm
    · intro h
      obtain ⟨y, hy, hs⟩ := h name x (.inl ⟨rfl, rfl⟩)
      rw [hy]
      exact ⟨hs, fun other y hm => h other y (.inr hm)⟩

/-- An array is alike with an array of items that are, one by one. -/
theorem alike_array {xs : List Value} {y : Value} :
    Alike (.array xs) y ↔ ∃ ys, y = .array ys ∧ List.Forall₂ Alike xs ys := by
  simp only [List.forall₂_iff_get]
  constructor
  · intro h
    cases h with
    | plain h | number h => cases h
    | array hlength hitems =>
      refine ⟨_, rfl, hlength, fun i hx hy => ?_⟩
      exact hitems i _ _ (List.getElem?_eq_getElem hx) (List.getElem?_eq_getElem hy)
  · rintro ⟨ys, rfl, hlength, hitems⟩
    refine .array hlength fun i x y hx hy => ?_
    obtain ⟨hi, rfl⟩ := List.getElem?_eq_some_iff.mp hx
    obtain ⟨hj, rfl⟩ := List.getElem?_eq_some_iff.mp hy
    exact hitems i hi hj

/-- An array is counted as the same as an array of items that are. -/
theorem same_array {xs : List Value} {y : Value} :
    (array xs).same y = true ↔ ∃ ys, y = .array ys ∧ List.Forall₂ (fun x y => x.same y = true) xs ys := by
  cases y <;> simp [same, sameItems_iff, numeric?, number?]

/-- An object is alike with an object that has the same names, with values that are. -/
theorem alike_object {xs : Members} {y : Value} : Alike (.object xs) y ↔
    ∃ ys : Members, y = .object ys ∧ (∀ name, name ∈ xs.map Prod.fst ↔ name ∈ ys.map Prod.fst) ∧
      ∀ name x y, xs.get? name = some x → ys.get? name = some y → Alike x y := by
  constructor
  · intro h
    cases h with
    | plain h | number h => cases h
    | object hnames hvalues => exact ⟨_, rfl, hnames, hvalues⟩
  · rintro ⟨ys, rfl, hnames, hvalues⟩
    exact .object hnames hvalues

/-- A name that is there once has the value of its member. -/
theorem Members.get?_of_mem {members : Members} (h : (members.map Prod.fst).Nodup) {name : Text} {x : Value}
    (hm : (name, x) ∈ members) : members.get? name = some x := by
  induction members with
  | nil => cases hm
  | cons member members ih =>
    obtain ⟨other, y⟩ := member
    obtain ⟨hother, h⟩ := List.nodup_cons.mp h
    rw [get?]
    rcases List.mem_cons.mp hm with he | hm
    · cases he
      exact if_pos rfl
    · have hne : other ≠ name := by
        rintro rfl
        exact hother (List.mem_map.mpr ⟨_, hm, rfl⟩)
      rw [if_neg hne, ih h hm]

/-- A name with a value is there. -/
theorem Members.mem_names_of_get? {members : Members} {name : Text} {x : Value} (h : members.get? name = some x) :
    name ∈ members.map Prod.fst :=
  List.mem_map_of_mem (f := Prod.fst) (mem_of_get? h)

/-! ## Being alike -/

/-- Every value without repeated names is alike with itself. -/
theorem Alike.refl {x : Value} (h : Unambiguous x) : Alike x x := by
  induction h with
  | null => exact .plain .null
  | bool b =>
    cases b with
    | false => exact .number .false .false
    | true => exact .number .true .true
  | number n =>
    rcases worth_or_plain n with ⟨q, hq⟩ | hn
    · exact .number hq hq
    · exact .plain hn
  | string t => exact .plain (.string t)
  | bytes bs => exact .plain (.bytes bs)
  | array _ ih =>
    refine .array rfl fun i x y hx hy => ?_
    rw [hx] at hy
    cases hy
    exact ih x (List.mem_of_getElem? hx)
  | object _ _ ih =>
    refine .object (fun _ => Iff.rfl) fun name x y hx hy => ?_
    rw [hx] at hy
    cases hy
    exact ih name x (Members.mem_of_get? hx)

theorem Alike.symm {x y : Value} (h : Alike x y) : Alike y x := by
  induction h with
  | plain hx => exact .plain hx
  | number hx hy => exact .number hy hx
  | array hlength _ ih => exact .array hlength.symm fun i x y hx hy => ih i y x hy hx
  | object hnames _ ih => exact .object (fun name => (hnames name).symm) fun name x y hx hy => ih name y x hy hx

theorem Alike.trans {x y z : Value} (hxy : Alike x y) (hyz : Alike y z) : Alike x z := by
  induction hxy generalizing z with
  | plain => exact hyz
  | number hx hy => exact .number hx ((alike_of_worth hy).mp hyz)
  | array hlength _ ih =>
    cases hyz with
    | plain h | number h => cases h
    | array hlength' hitems =>
      refine .array (hlength.trans hlength') fun i x z hx hz => ?_
      have hi := hlength ▸ (List.getElem?_eq_some_iff.mp hx).1
      exact ih i x _ hx (List.getElem?_eq_getElem hi) (hitems i _ z (List.getElem?_eq_getElem hi) hz)
  | object hnames _ ih =>
    cases hyz with
    | plain h | number h => cases h
    | object hnames' hvalues =>
      refine .object (fun name => (hnames name).trans (hnames' name)) fun name x z hx hz => ?_
      obtain ⟨y, hy⟩ := Members.get?_isSome ((hnames name).mp (Members.mem_names_of_get? hx))
      exact ih name x y hx hy (hvalues name y z hy hz)

/-- Of two objects that are alike both give a name values that are, or neither gives it one. -/
theorem Alike.get? {xs ys : Members} (h : Alike (.object xs) (.object ys)) (name : Text) :
    Option.Rel Alike (xs.get? name) (ys.get? name) := by
  obtain ⟨_, he, hnames, hvalues⟩ := alike_object.mp h
  cases he
  cases hx : xs.get? name with
  | some x =>
    obtain ⟨y, hy⟩ := Members.get?_isSome ((hnames name).mp (Members.mem_names_of_get? hx))
    rw [hy]
    exact .some (hvalues name x y hx hy)
  | none =>
    cases hy : ys.get? name with
    | some y =>
      obtain ⟨x, hx'⟩ := Members.get?_isSome ((hnames name).mpr (Members.mem_names_of_get? hy))
      rw [hx] at hx'
      cases hx'
    | none => exact .none

/-- A name that is missing may stand for null. -/
theorem Alike.getD {xs ys : Members} (h : Alike (.object xs) (.object ys)) (name : Text) :
    Alike ((xs.get? name).getD .null) ((ys.get? name).getD .null) := by
  have hvalues := h.get? name
  generalize xs.get? name = x, ys.get? name = y at hvalues ⊢
  cases hvalues with
  | some h => exact h
  | none => exact .plain .null

/-- A number has no members. -/
theorem Worth.members?_eq {x : Value} {q : Rat} (h : Worth x q) : x.members? = none := by cases h <;> rfl

/-- Of two values that are alike both are objects, or neither is. -/
theorem Alike.members? {x y : Value} (h : Alike x y) :
    Option.Rel (fun xs ys => Alike (.object xs) (.object ys)) x.members? y.members? := by
  cases h with
  | plain hx => cases hx <;> exact .none
  | number hx hy =>
    rw [hx.members?_eq, hy.members?_eq]
    exact .none
  | array => exact .none
  | object hnames hvalues => exact .some (.object hnames hvalues)

/-! ## Being counted as the same -/

/-- Objects without repeated names are counted as the same if each name of the one has the same value in the other, and
neither has more names. -/
theorem same_members {xs ys : Members} (hx : (xs.map Prod.fst).Nodup) (hy : (ys.map Prod.fst).Nodup) :
    (Value.object xs).same (.object ys) = true ↔ (∀ name, name ∈ xs.map Prod.fst ↔ name ∈ ys.map Prod.fst) ∧
      ∀ name x y, xs.get? name = some x → ys.get? name = some y → x.same y = true := by
  rw [same, Bool.and_eq_true, decide_eq_true_eq, sameMembers_iff]
  constructor
  · rintro ⟨hlength, h⟩
    have hsub : xs.map Prod.fst ⊆ ys.map Prod.fst := fun name hm => by
      obtain ⟨x, hx⟩ := Members.get?_isSome hm
      obtain ⟨y, hy, -⟩ := h name x (Members.mem_of_get? hx)
      exact Members.mem_names_of_get? hy
    have hperm := (hx.subperm hsub).perm_of_length_le (by simp [hlength])
    refine ⟨fun name => hperm.mem_iff, fun name x y hx hy => ?_⟩
    obtain ⟨y', hy', hs⟩ := h name x (Members.mem_of_get? hx)
    rw [hy] at hy'
    cases hy'
    exact hs
  · rintro ⟨hnames, h⟩
    refine ⟨?_, fun name x hm => ?_⟩
    · simpa using ((List.perm_ext_iff_of_nodup hx hy).mpr hnames).length_eq
    · obtain ⟨y, hy⟩ := Members.get?_isSome ((hnames name).mp (List.mem_map_of_mem (f := Prod.fst) hm))
      exact ⟨y, hy, h name x y (Members.get?_of_mem hx hm) hy⟩

/-- An object is counted as the same as objects only. -/
theorem same_object {xs : Members} {y : Value} :
    (object xs).same y = true ↔ ∃ ys, y = .object ys ∧ (object xs).same (.object ys) = true := by
  cases y <;> simp [same, numeric?, number?]

/-- **Values without repeated names are counted as the same iff they are alike.** -/
theorem same_iff_alike {x y : Value} (hx : Unambiguous x) (hy : Unambiguous y) : x.same y = true ↔ Alike x y := by
  induction hx generalizing y with
  | null => rw [same_plain .null, alike_plain .null]
  | bool b =>
    cases b with
    | false => rw [same_of_worth .false, alike_of_worth .false]
    | true => rw [same_of_worth .true, alike_of_worth .true]
  | number n =>
    rcases worth_or_plain n with ⟨q, hq⟩ | hn
    · rw [same_of_worth hq, alike_of_worth hq]
    · rw [same_plain hn, alike_plain hn]
  | string t => rw [same_plain (.string t), alike_plain (.string t)]
  | bytes bs => rw [same_plain (.bytes bs), alike_plain (.bytes bs)]
  | array _ ih =>
    rw [same_array, alike_array]
    refine exists_congr fun ys => and_congr_right ?_
    rintro rfl
    cases hy with
    | array hys =>
      rw [List.forall₂_iff_get, List.forall₂_iff_get]
      refine and_congr_right fun _ => forall_congr' fun i => forall_congr' fun hi => forall_congr' fun hj => ?_
      exact ih _ (List.get_mem _ _) (hys _ (List.get_mem _ _))
  | object hn _ ih =>
    rw [same_object, alike_object]
    refine exists_congr fun ys => and_congr_right ?_
    rintro rfl
    cases hy with
    | object hn' hys =>
      rw [same_members hn hn']
      refine and_congr_right fun _ => forall_congr' fun name => forall_congr' fun x => forall_congr' fun y =>
        forall_congr' fun hx => forall_congr' fun hy => ?_
      exact ih name x (Members.mem_of_get? hx) (hys name y (Members.mem_of_get? hy))

/-- The values in an object have no name twice either. -/
theorem Unambiguous.of_get? {members : Members} (h : Unambiguous (.object members)) {name : Text} {x : Value}
    (hx : members.get? name = some x) : x.Unambiguous := by
  cases h with
  | object _ hvalues => exact hvalues name x (Members.mem_of_get? hx)

theorem Unambiguous.getD {members : Members} (h : Unambiguous (.object members)) (name : Text) :
    Unambiguous ((members.get? name).getD .null) := by
  cases hx : members.get? name with
  | some x => exact h.of_get? hx
  | none => exact .null

/-! ## Keys -/

/-- The value is an array or an object. -/
inductive Compound : Value → Prop
  | array (items : List Value) : Compound (.array items)
  | object (members : Members) : Compound (.object members)

/-- **A value is a key, or it is an array or an object.** -/
theorem key_cases (x : Value) : (¬Compound x ∧ ∃ key, x.key = .ok key) ∨ Compound x ∧ x.key = .error ⟨x⟩ := by
  match x with
  | array items => exact .inr ⟨.array items, rfl⟩
  | object members => exact .inr ⟨.object members, rfl⟩
  | null | bool false | bool true | number _ | string _ | bytes _ => exact .inl ⟨nofun, _, rfl⟩

end Value

/-! ## Values that are read -/

/-- **What a text spells has no name twice**, however often it is written. -/
theorem Json.Spells.unambiguous {t : Text} {x : Value} (h : Json.Spells t x) : x.Unambiguous := by
  induction h with
  | spaced _ _ _ ih => exact ih
  | null => exact .null
  | true | false => exact .bool _
  | nan | infinity | negativeInfinity | number => exact .number _
  | string => exact .string _
  | emptyArray => exact .array nofun
  | array _ _ ih =>
    refine .array fun x hx => ?_
    obtain ⟨item, hitem, rfl⟩ := List.mem_map.mp hx
    exact ih item hitem
  | emptyObject => exact .object List.nodup_nil nofun
  | object _ _ _ ih =>
    rename_i members _ _ _
    refine .object ?_ fun name x hx => ?_
    · simpa [settled, Function.comp_def] using nodup_eraseDups ((members.map Member.named).map Prod.fst)
    · obtain ⟨member, hmember, he⟩ := List.mem_map.mp (mem_of_mem_settled hx)
      cases he
      exact ih member hmember

end LiquidationDrill
