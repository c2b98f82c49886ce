import LiquidationDrill.Proofs.Json.Escape
import Mathlib.Data.List.TakeWhile

/-!
# Values that are written in JSON are read back

A value is kept if it has no doubles and no bytes, if its integers are no longer than the reader converts, if its
strings hold no halves of surrogate pairs, and if no object in it has a name twice (`Kept`). Integers are read back by
their digits (`scalar_ofInt`), and items and members one after the other (`items_written`, `members_written`); by
induction on what is kept, so is the value, in every layout of white space and commas (`value_written`,
`read_written`). What is written holds nothing else but ASCII (`write_forall`).
-/

namespace LiquidationDrill

/-- Members with different names are those that are written. -/
theorem Value.Members.ofWritten_of_nodup {members : List (Text × Value)} (h : (members.map Prod.fst).Nodup) :
    ofWritten members = members := by
  have hfold (done rest : List (Text × Value)) (hd : ((done ++ rest).map Prod.fst).Nodup) :
      rest.foldl (fun members member => Members.insert members member.1 member.2) done = done ++ rest := by
    induction rest generalizing done with
    | nil => rw [List.foldl_nil, List.append_nil]
    | cons member rest ih =>
      obtain ⟨name, x⟩ := member
      have hn : name ∉ done.map Prod.fst := by
        rw [List.map_append, List.map_cons] at hd
        exact fun hm => (List.nodup_append.mp hd).2.2 name hm name List.mem_cons_self rfl
      have hnext : Members.insert done name x = done ++ [(name, x)] := insert_of_not_mem x hn
      rw [List.foldl_cons]
      dsimp only
      rw [hnext, ih _ (by simpa using hd), List.append_assoc, List.singleton_append]
  exact hfold [] members h

namespace Json

/-- A value that is the same after it was written and read, with arrays and objects nested at most `depth` deep. -/
inductive Kept : (depth : Nat) → Value → Prop
  | null (depth : Nat) : Kept depth .null
  | bool (depth : Nat) (b : Bool) : Kept depth (.bool b)
  | int (depth : Nat) {n : Int} : (Text.ofNat n.natAbs).length ≤ Text.maxDigits → Kept depth (.int n)
  | string (depth : Nat) {t : Text} : t.isScalar = true → Kept depth (.string t)
  | array {depth : Nat} {items : List Value} : (∀ x ∈ items, Kept depth x) → Kept (depth + 1) (.array items)
  | object {depth : Nat} {members : Value.Members} : (members.map Prod.fst).Nodup →
      (∀ member ∈ members, member.1.isScalar = true) → (∀ member ∈ members, Kept depth member.2) →
        Kept (depth + 1) (.object members)

/-- A layout with white space around items, and with a comma and white space between them. -/
structure Layout.IsSpaced (layout : Layout) : Prop where
  gap : ∀ depth, ∀ c ∈ layout.gap depth, isSpace c = true
  separator : ∀ depth, ∃ space, layout.separator depth = .ofChar ',' :: space ∧ ∀ c ∈ space, isSpace c = true

theorem Layout.oneLine_isSpaced : Layout.oneLine.IsSpaced where
  gap _ _ hc := absurd hc List.not_mem_nil
  separator _ := ⟨[' '], rfl, by decide⟩

theorem Layout.indented_isSpaced : Layout.indented.IsSpaced := by
  have hfeed (depth : Nat) : ∀ c ∈ CodePoint.ofChar '\n' :: Text.spaces (2 * depth), isSpace c = true := by
    refine List.forall_mem_cons.mpr ⟨by decide, fun c hc => ?_⟩
    rw [List.eq_of_mem_replicate hc]
    decide
  exact ⟨hfeed, fun depth => ⟨_, rfl, hfeed depth⟩⟩

/-! ## Integers -/

/-- Digits and nothing else are all taken. -/
theorem digits_eq_self {t : Text} (h : ∀ c ∈ t, c.isDigit = true) : digits t = (t, []) := by
  rw [digits, List.takeWhile_eq_self_iff.mpr h, List.dropWhile_eq_nil_iff.mpr h]

/-- The digits of a natural number stand before the point. -/
theorem wholePart?_ofNat (n : Nat) : wholePart? (Text.ofNat n) = some (Text.ofNat n, []) := by
  have hd := Text.ofNat_isDigit n
  rcases Text.head_ofNat n with ⟨-, h0⟩ | ⟨c, t, hc, hne⟩
  · rw [h0]
    rfl
  · rw [hc] at hd ⊢
    rw [wholePart?, if_neg hne, if_pos (hd c List.mem_cons_self), digits_eq_self hd]

/-- No numeral of a natural number begins with a minus. -/
theorem minus_ofNat (n : Nat) : minus (Text.ofNat n) = (false, Text.ofNat n) := by
  have hd := Text.ofNat_isDigit n
  cases ht : Text.ofNat n with
  | nil => rfl
  | cons c t =>
    rw [ht] at hd
    have hc : c ≠ '-' := by
      rintro rfl
      exact absurd (hd _ List.mem_cons_self) (by decide)
    rw [minus, if_neg hc]

/-- The numeral of an integer is its sign and its digits. -/
theorem numeral?_ofInt (n : Int) :
    numeral? (Text.ofInt n) = some (⟨decide (n < 0), Text.ofNat n.natAbs, [], none⟩, []) := by
  have hw := wholePart?_ofNat n.natAbs
  rw [Text.ofInt]
  by_cases hn : n < 0
  · rw [if_pos hn, decide_eq_true hn]
    exact numeral?_eq_some.mpr ⟨_, [], hw, rfl, rfl⟩
  · rw [if_neg hn, decide_eq_false hn]
    refine numeral?_eq_some.mpr ⟨Text.ofNat n.natAbs, [], ?_, ?_, rfl⟩
    · rw [minus_ofNat, hw]
    · rw [minus_ofNat]
      rfl

/-- **An integer of no more digits than the reader converts is read back.** -/
theorem scalar_ofInt {n : Int} (h : (Text.ofNat n.natAbs).length ≤ Text.maxDigits) :
    scalar (Text.ofInt n) = .ok (.int n, []) := by
  have hn := numeral?_ofInt n
  have hsign : (if decide (n < 0) = true then -(n.natAbs : Int) else n.natAbs) = n := by
    by_cases h0 : n < 0
    · rw [if_pos (decide_eq_true h0)]
      omega
    · rw [if_neg (by simpa using h0)]
      omega
  have hnum : Numeral.number ⟨decide (n < 0), Text.ofNat n.natAbs, [], none⟩ = .ok (.int n) := by
    simp only [Numeral.number]
    rw [if_neg (Nat.not_lt.mpr h), Text.ofDigits_ofNat, hsign]
  rw [scalar, named?_eq_none hn, hn]
  exact Result.map_eq_ok.mpr ⟨.int n, hnum, rfl⟩

/-! ## Items and members -/

theorem isSpace_eq_false_of_isVisible {c : CodePoint} (h : IsVisible c) : isSpace c = false := by
  rw [← Bool.not_eq_true]
  intro hs
  simp only [isSpace, Bool.or_eq_true, decide_eq_true_eq] at hs
  rcases hs with ((rfl | rfl) | rfl) | rfl <;> exact absurd h (by decide)

/-- White space continues no number. -/
theorem not_isNumeric_of_isSpace {c : CodePoint} (h : isSpace c = true) : ¬IsNumeric c := by
  simp only [isSpace, Bool.or_eq_true, decide_eq_true_eq] at h
  rcases h with ((rfl | rfl) | rfl) | rfl <;> decide

/-- Nothing is skipped before a visible character. -/
theorem skipSpace_visible {c : CodePoint} {t : Text} (hc : IsVisible c) : skipSpace (c :: t) = c :: t := by
  have hs := isSpace_eq_false_of_isVisible hc
  rw [skipSpace, List.dropWhile_cons_of_neg (by simp [hs])]

section Spaces

variable {space t : Text} {c : CodePoint} (hs : ∀ c ∈ space, isSpace c = true)
include hs

/-- White space before something else is skipped. -/
theorem skipSpace_space (hc : IsVisible c) : skipSpace (space ++ c :: t) = c :: t := by
  have hnil : skipSpace space = [] := List.dropWhile_eq_nil_iff.mpr hs
  rw [skipSpace_append_of_nil hnil, skipSpace_visible hc]

/-- White space before something that continues no number continues none. -/
theorem foreign_space (hc : ¬IsNumeric c) : Foreign (space ++ c :: t) := by
  intro d hd
  cases space with
  | nil => exact Option.some.inj hd ▸ hc
  | cons e space => exact Option.some.inj hd ▸ not_isNumeric_of_isSpace (hs e List.mem_cons_self)

end Spaces

/-- A value begins with a visible character that closes nothing. -/
theorem head_of_value {depth : Nat} {t rest : Text} {x : Value} (h : value depth t = .ok (x, rest)) :
    ∃ c t', t = c :: t' ∧ IsVisible c ∧ c ≠ ']' ∧ c ≠ '\x7d' := by
  have hr := value_eq_ok.mp h
  obtain ⟨c, t', rfl⟩ := List.exists_cons_of_ne_nil hr.ne_nil
  refine ⟨c, t', rfl, hr.isVisible, ?_⟩
  cases hr with
  | scalar _ hs => exact not_or.mp (isPlain_of_scalar hs).2.2.2
  | _ => decide

section Parts

variable {layout : Layout} (hl : layout.IsSpaced) (level : Nat) {depth : Nat} {space : Text}
  (hs : ∀ c ∈ space, isSpace c = true)
include hl hs

/-- Further items and what closes them continue no number. -/
theorem foreign_writeItems (xs : List Value) (rest : Text) :
    Foreign (writeItems layout level xs ++ (space ++ .ofChar ']' :: rest)) := by
  cases xs with
  | nil => exact foreign_space hs (by decide)
  | cons y ys =>
    obtain ⟨sep, hsep, -⟩ := hl.separator level
    rw [writeItems, hsep]
    exact foreign_space (List.forall_mem_nil _) (by decide)

/-- **Items that are read back one by one are read back together.** -/
theorem items_written {x : Value} {xs : List Value} {fuel : Nat} {rest : Text} (hf : xs.length < fuel)
    (hx : ∀ y ∈ x :: xs, value depth (write layout level y) = .ok (y, [])) :
    items (value depth) fuel
        (write layout level x ++ (writeItems layout level xs ++ (space ++ .ofChar ']' :: rest))) =
      .ok (x :: xs, rest) := by
  induction xs generalizing x fuel with
  | nil =>
    obtain ⟨fuel, rfl⟩ := Nat.exists_eq_add_one_of_ne_zero (Nat.ne_zero_of_lt hf)
    have hv := value_append (hx x List.mem_cons_self) (foreign_writeItems hl level hs [] rest)
    exact items_eq_ok.mpr ⟨x, _, hv, Or.inl ⟨skipSpace_space hs (by decide), rfl⟩⟩
  | cons y ys ih =>
    obtain ⟨fuel, rfl⟩ := Nat.exists_eq_add_one_of_ne_zero (Nat.ne_zero_of_lt hf)
    obtain ⟨sep, hsep, hspace⟩ := hl.separator level
    have hv := value_append (hx x List.mem_cons_self) (foreign_writeItems hl level hs (y :: ys) rest)
    have hy := ih (Nat.lt_of_succ_lt_succ hf) fun z hz => hx z (List.mem_cons_of_mem x hz)
    obtain ⟨c, t, hc, hvis, -⟩ := head_of_value (hx y (List.mem_cons_of_mem x List.mem_cons_self))
    refine items_eq_ok.mpr ⟨x, _, hv, Or.inr ⟨sep ++ (write layout level y ++ (writeItems layout level ys ++
      (space ++ .ofChar ']' :: rest))), y :: ys, ?_, ?_, rfl⟩⟩
    · rw [writeItems, hsep]
      simp only [List.nil_append, List.append_assoc, List.cons_append]
      exact skipSpace_visible (by decide)
    · rw [hc] at hy ⊢
      rw [List.cons_append, skipSpace_space hspace hvis]
      exact hy

/-- Further members and what closes them continue no number. -/
theorem foreign_writeMembers (xs : List (Text × Value)) (rest : Text) :
    Foreign (writeMembers layout level xs ++ (space ++ .ofChar '\x7d' :: rest)) := by
  cases xs with
  | nil => exact foreign_space hs (by decide)
  | cons member ys =>
    obtain ⟨sep, hsep, -⟩ := hl.separator level
    rw [writeMembers, hsep]
    exact foreign_space (List.forall_mem_nil _) (by decide)

omit hl hs in
/-- A name is read back with its colon, before what is read as a value. -/
theorem memberName_written {name t : Text} {x : Value} (hn : name.isScalar = true)
    (hx : value depth t = .ok (x, [])) (rest : Text) :
    memberName (writeString name ++ (": " ++ (t ++ rest))) = .ok (name, t ++ rest) := by
  obtain ⟨c, t, rfl, hc, -⟩ := head_of_value hx
  have hblank : ∀ d ∈ [CodePoint.ofChar ' '], isSpace d = true := by decide
  have hspace : skipSpace (.ofChar ' ' :: c :: (t ++ rest)) = c :: (t ++ rest) := skipSpace_space hblank hc
  rw [writeString_append]
  exact memberName_eq_ok.mpr ⟨_, _, _, rfl, stringBody_written hn _, rfl, hspace.symm⟩

/-- **So are members.** -/
theorem members_written {name : Text} {x : Value} {xs : List (Text × Value)} {fuel : Nat} {rest : Text}
    (hf : xs.length < fuel) (hn : ∀ member ∈ (name, x) :: xs, member.1.isScalar = true)
    (hx : ∀ member ∈ (name, x) :: xs, value depth (write layout level member.2) = .ok (member.2, [])) :
    members (value depth) fuel (writeString name ++ (": " ++ (write layout level x ++
        (writeMembers layout level xs ++ (space ++ .ofChar '\x7d' :: rest))))) =
      .ok ((name, x) :: xs, rest) := by
  induction xs generalizing name x fuel with
  | nil =>
    obtain ⟨fuel, rfl⟩ := Nat.exists_eq_add_one_of_ne_zero (Nat.ne_zero_of_lt hf)
    have hv := value_append (hx _ List.mem_cons_self) (foreign_writeMembers hl level hs [] rest)
    have hm := memberName_written (hn _ List.mem_cons_self) (hx _ List.mem_cons_self)
      (writeMembers layout level [] ++ (space ++ .ofChar '\x7d' :: rest))
    exact members_eq_ok.mpr ⟨name, _, x, _, hm, hv, Or.inl ⟨skipSpace_space hs (by decide), rfl⟩⟩
  | cons member ys ih =>
    obtain ⟨name', y⟩ := member
    obtain ⟨fuel, rfl⟩ := Nat.exists_eq_add_one_of_ne_zero (Nat.ne_zero_of_lt hf)
    obtain ⟨sep, hsep, hspace⟩ := hl.separator level
    have hv := value_append (hx _ List.mem_cons_self)
      (foreign_writeMembers hl level hs ((name', y) :: ys) rest)
    have hm := memberName_written (hn _ List.mem_cons_self) (hx _ List.mem_cons_self)
      (writeMembers layout level ((name', y) :: ys) ++ (space ++ .ofChar '\x7d' :: rest))
    have hy := ih (Nat.lt_of_succ_lt_succ hf) (fun z hz => hn z (List.mem_cons_of_mem _ hz))
      fun z hz => hx z (List.mem_cons_of_mem _ hz)
    refine members_eq_ok.mpr ⟨name, _, x, _, hm, hv, Or.inr ⟨sep ++ (writeString name' ++ (": " ++
      (write layout level y ++ (writeMembers layout level ys ++ (space ++ .ofChar '\x7d' :: rest))))),
      (name', y) :: ys, ?_, ?_, rfl⟩⟩
    · rw [writeMembers, hsep]
      simp only [List.nil_append, List.append_assoc, List.cons_append]
      exact skipSpace_visible (by decide)
    · rw [writeString_append] at hy ⊢
      rw [skipSpace_space hspace (by decide)]
      exact hy

omit hs in
/-- Further items are at least as long as they are many. -/
theorem length_le_writeItems (xs : List Value) : xs.length ≤ (writeItems layout level xs).length := by
  induction xs with
  | nil => exact Nat.zero_le _
  | cons x xs ih =>
    obtain ⟨sep, hsep, -⟩ := hl.separator level
    rw [writeItems, hsep]
    simp only [List.length_append, List.length_cons]
    omega

omit hs in
theorem length_le_writeMembers (xs : List (Text × Value)) : xs.length ≤ (writeMembers layout level xs).length := by
  induction xs with
  | nil => exact Nat.zero_le _
  | cons member xs ih =>
    obtain ⟨sep, hsep, -⟩ := hl.separator level
    rw [writeMembers, hsep]
    simp only [List.length_append, List.length_cons]
    omega

end Parts

/-! ## Values -/

/-- A value without parts that is read as a whole is a value. -/
theorem value_of_scalar (depth : Nat) {t : Text} {x : Value} (h : scalar t = .ok (x, [])) :
    value depth t = .ok (x, []) := by
  cases t with
  | nil => cases h
  | cons c t =>
    obtain ⟨-, hq, ho, -⟩ := isPlain_of_scalar h
    exact value_eq_ok.mpr (.scalar (not_or.mpr ⟨hq, ho⟩) h)

section Shapes

variable (layout : Layout) (level : Nat)

/-- An array with items is a bracket, the items, and a bracket. -/
theorem write_array (x : Value) (xs : List Value) : write layout level (.array (x :: xs)) =
    .ofChar '[' :: (layout.gap (level + 1) ++ (write layout (level + 1) x ++
      (writeItems layout (level + 1) xs ++ (layout.gap level ++ [.ofChar ']'])))) := by
  simp [write, Text.ofString]

/-- An object with members is a brace, the members, and a brace. -/
theorem write_object (name : Text) (x : Value) (xs : List (Text × Value)) :
    write layout level (.object ((name, x) :: xs)) =
      .ofChar '\x7b' :: (layout.gap (level + 1) ++ (writeString name ++ ((": " : Text) ++
        (write layout (level + 1) x ++ (writeMembers layout (level + 1) xs ++
          (layout.gap level ++ [.ofChar '\x7d'])))))) := by
  simp [write, Text.ofString]

end Shapes

variable {layout : Layout}

/-- **What is kept is read back**, in every layout and at every level. -/
theorem value_written (hl : layout.IsSpaced) {depth : Nat} {x : Value} (h : Kept depth x) (level : Nat) :
    value depth (write layout level x) = .ok (x, []) := by
  induction h generalizing level with
  | null depth => exact value_of_scalar depth rfl
  | bool depth b =>
    cases b with
    | true => exact value_of_scalar depth rfl
    | false => exact value_of_scalar depth rfl
  | int depth hn => exact value_of_scalar depth (scalar_ofInt hn)
  | string depth ht =>
    rw [write, writeString]
    exact value_eq_ok.mpr (.string (stringBody_written ht []))
  | @array depth items _ ih =>
    cases items with
    | nil => exact value_eq_ok.mpr (.emptyArray rfl)
    | cons y ys =>
      have hlen := length_le_writeItems hl (level + 1) ys
      obtain ⟨c, t, hc, hvis, hne, -⟩ := head_of_value (ih y List.mem_cons_self (level + 1))
      rw [write_array, hc, List.cons_append]
      refine value_eq_ok.mpr (.array (skipSpace_space (hl.gap (level + 1)) hvis) hne ?_)
      rw [← List.cons_append, ← hc]
      refine items_written hl (level + 1) (hl.gap level) ?_ fun z hz => ih z hz (level + 1)
      simp only [List.length_append, List.length_singleton]
      omega
  | @object depth members hd hn _ ih =>
    cases members with
    | nil => exact value_eq_ok.mpr (.emptyObject rfl)
    | cons member ms =>
      obtain ⟨name, y⟩ := member
      have hlen := length_le_writeMembers hl (level + 1) ms
      have hm := Value.Members.ofWritten_of_nodup hd
      rw [write_object, writeString_append, ← hm]
      refine value_eq_ok.mpr (.object (skipSpace_space (hl.gap (level + 1)) (by decide)) (by decide) ?_)
      rw [← writeString_append]
      refine members_written hl (level + 1) (hl.gap level) ?_ hn fun z hz => ih z hz (level + 1)
      simp only [List.length_append, List.length_singleton]
      omega

/-- **What is kept is read back from a text of its own.** -/
theorem read_written (hl : layout.IsSpaced) {x : Value} (h : Kept maxDepth x) : read (write layout 0 x) = .ok x := by
  have hv := value_written hl h 0
  obtain ⟨c, t, hc, hvis, -⟩ := head_of_value hv
  have hmark : c ≠ byteOrderMark := by
    rintro rfl
    exact absurd hvis (by decide)
  rw [hc] at hv ⊢
  exact read_eq_ok.mpr ⟨by simpa using hmark, [], by rwa [skipSpace_visible hvis], rfl⟩

/-! ## Code points -/

theorem inAscii_of_isDigit {c : CodePoint} (h : c.isDigit = true) : InAscii c := by
  simp only [CodePoint.isDigit, Bool.and_eq_true, decide_eq_true_eq] at h
  exact ⟨by omega, by omega⟩

/-- The numeral of an integer is written in digits and perhaps a minus. -/
theorem ofInt_inAscii (n : Int) : ∀ c ∈ Text.ofInt n, InAscii c := by
  have hdigits : ∀ c ∈ Text.ofNat n.natAbs, InAscii c := fun c hc => inAscii_of_isDigit (Text.ofNat_isDigit _ c hc)
  rw [Text.ofInt]
  split
  · exact List.forall_mem_cons.mpr ⟨by decide, hdigits⟩
  · exact hdigits

section CodePoints

variable {P : CodePoint → Prop} (hP : ∀ c, InAscii c → P c) (hgap : ∀ level, ∀ c ∈ layout.gap level, P c)
  (hseparator : ∀ level, ∀ c ∈ layout.separator level, P c)

include hseparator in
theorem writeItems_forall {level : Nat} {xs : List Value} (hx : ∀ y ∈ xs, ∀ c ∈ write layout level y, P c) :
    ∀ c ∈ writeItems layout level xs, P c := by
  induction xs with
  | nil => exact List.forall_mem_nil P
  | cons y ys ih =>
    obtain ⟨hy, hys⟩ := List.forall_mem_cons.mp hx
    simp only [writeItems, List.forall_mem_append]
    exact ⟨⟨hseparator level, hy⟩, ih hys⟩

include hP hseparator in
theorem writeMembers_forall {level : Nat} {xs : List (Text × Value)}
    (hx : ∀ member ∈ xs, ∀ c ∈ write layout level member.2, P c) : ∀ c ∈ writeMembers layout level xs, P c := by
  induction xs with
  | nil => exact List.forall_mem_nil P
  | cons member ys ih =>
    obtain ⟨hy, hys⟩ := List.forall_mem_cons.mp hx
    simp only [writeMembers, List.forall_mem_append]
    exact ⟨⟨⟨⟨hseparator level, fun c hc => hP c (writeString_inAscii _ c hc)⟩,
      fun c hc => hP c ((by decide : ∀ d ∈ (": " : Text), InAscii d) c hc)⟩, hy⟩, ih hys⟩

include hP hgap hseparator

/-- **Only the layout can write something other than visible characters and blanks.** -/
theorem write_forall {depth : Nat} {x : Value} (h : Kept depth x) (level : Nat) : ∀ c ∈ write layout level x, P c := by
  have hascii {t : Text} (ht : ∀ c ∈ t, InAscii c) : ∀ c ∈ t, P c := fun c hc => hP c (ht c hc)
  induction h generalizing level with
  | null depth =>
    rw [write]
    exact hascii (by decide)
  | bool depth b =>
    cases b <;> rw [write] <;> exact hascii (by decide)
  | @int depth n hn => exact hascii (ofInt_inAscii n)
  | string depth ht =>
    rw [write]
    exact hascii (writeString_inAscii _)
  | @array depth items _ ih =>
    cases items with
    | nil =>
      rw [write]
      exact hascii (by decide)
    | cons y ys =>
      obtain ⟨hy, hys⟩ := List.forall_mem_cons.mp fun z hz => ih z hz (level + 1)
      simp only [write_array, List.forall_mem_cons, List.forall_mem_append]
      exact ⟨hP _ (by decide), hgap _, hy, writeItems_forall hseparator hys, hgap _, hP _ (by decide),
        List.forall_mem_nil P⟩
  | @object depth members _ _ _ ih =>
    cases members with
    | nil =>
      rw [write]
      exact hascii (by decide)
    | cons member ms =>
      obtain ⟨name, y⟩ := member
      obtain ⟨hy, hms⟩ := List.forall_mem_cons.mp fun z hz => ih z hz (level + 1)
      simp only [write_object, List.forall_mem_cons, List.forall_mem_append]
      exact ⟨hP _ (by decide), hgap _, hascii (writeString_inAscii _), hascii (by decide), hy,
        writeMembers_forall hP hseparator hms, hgap _, hP _ (by decide), List.forall_mem_nil P⟩

end CodePoints

end Json

end LiquidationDrill
