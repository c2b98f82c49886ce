import LiquidationDrill.Proofs.Json.Scalar
import LiquidationDrill.Proofs.Json.Steps
import LiquidationDrill.Proofs.Text.Rows

/-!
# What reading JSON passes over

A value that is read is a beginning of the text. Outside strings its code points are JSON's own, and within strings
there are no control characters, so nothing below U+0020 but white space is passed (`IsLegal`); every string that is
opened is closed, so what follows stands outside strings (`Mode.after`); and as many brackets are closed as opened, so
it is nested as it is seen from where the value began (`nestingFrom`). All of it is kept together in `Passes`, which
holds between the text before and after every token (`PassesString.passes`, `scalar_passes`) and hence of every value
(`value_passes`).
-/

namespace LiquidationDrill.Json

/-! ## Nesting -/

/-- Where in a text the next code point stands. -/
inductive Mode where
  /-- Outside strings. -/
  | between
  | inString
  /-- Within a string, right after a backslash. -/
  | escaping
  deriving DecidableEq

/-- Where the code point after `c` stands. -/
def Mode.next : Mode → (c : CodePoint) → Mode
  | .between, c => if c = '"' then .inString else .between
  | .inString, c => if c = '"' then .between else if c = '\\' then .escaping else .inString
  | .escaping, _ => .inString

/-- Where the code point after a text stands. -/
def Mode.after (mode : Mode) (t : Text) : Mode := t.foldl Mode.next mode

theorem Mode.after_cons (mode : Mode) (c : CodePoint) (t : Text) : mode.after (c :: t) = (mode.next c).after t := rfl

theorem Mode.after_append (mode : Mode) (s t : Text) : mode.after (s ++ t) = (mode.after s).after t :=
  List.foldl_append

/-- The deepest nesting of arrays and objects in a text, of which `n` are open before it. -/
def nestingFrom : Mode → (n : Nat) → Text → Nat
  | _, n, [] => n
  | .between, n, c :: t =>
    if c = '"' then nestingFrom .inString n t
    else if c = '[' ∨ c = '\x7b' then nestingFrom .between (n + 1) t
    else if c = ']' ∨ c = '\x7d' then max n (nestingFrom .between (n - 1) t)
    else nestingFrom .between n t
  | .inString, n, c :: t =>
    if c = '"' then nestingFrom .between n t
    else if c = '\\' then nestingFrom .escaping n t
    else nestingFrom .inString n t
  | .escaping, n, _ :: t => nestingFrom .inString n t

/-- How deep arrays and objects are nested in a text. -/
def nesting (t : Text) : Nat := nestingFrom .between 0 t

/-- What is open counts. -/
theorem le_nestingFrom (mode : Mode) (n : Nat) (t : Text) : n ≤ nestingFrom mode n t := by
  fun_induction nestingFrom mode n t
  case case1 => exact Nat.le_refl _
  case case3 ih => exact Nat.le_of_succ_le ih
  case case4 => exact Nat.le_max_left _ _
  case case2 ih | case5 ih | case6 ih | case7 ih | case8 ih | case9 ih => exact ih

/-! ## Passing -/

/-- A code point that JSON can hold: none below the blank but white space. -/
def IsLegal (c : CodePoint) : Prop := 0x20 ≤ c.val ∨ isSpace c = true

instance : DecidablePred IsLegal := fun c => inferInstanceAs (Decidable (0x20 ≤ c.val ∨ isSpace c = true))

/-- The text is left at `rest`: what was passed is legal and leaves no string open, and what follows is nested no deeper
than it was before. -/
structure Passes (t rest : Text) : Prop where
  passed : ∃ used, t = used ++ rest ∧ (∀ c ∈ used, IsLegal c) ∧ Mode.between.after used = .between
  nesting_le : ∀ n, nestingFrom .between n rest ≤ nestingFrom .between n t

/-- A code point that opens and closes nothing. -/
def IsPlain (c : CodePoint) : Prop :=
  IsLegal c ∧ c ≠ '"' ∧ ¬(c = '[' ∨ c = '\x7b') ∧ ¬(c = ']' ∨ c = '\x7d')

instance : DecidablePred IsPlain := fun c => inferInstanceAs (Decidable (IsLegal c ∧ _))

namespace Passes

variable {t mid rest : Text}

theorem refl (t : Text) : Passes t t := ⟨⟨[], rfl, List.forall_mem_nil _, rfl⟩, fun _ => Nat.le_refl _⟩

theorem trans (h : Passes t mid) (h' : Passes mid rest) : Passes t rest := by
  obtain ⟨used, rfl, hu, hm⟩ := h.passed
  obtain ⟨used', rfl, hu', hm'⟩ := h'.passed
  refine ⟨⟨used ++ used', (List.append_assoc used used' rest).symm, List.forall_mem_append.mpr ⟨hu, hu'⟩, ?_⟩,
    fun n => Nat.le_trans (h'.nesting_le n) (h.nesting_le n)⟩
  rw [Mode.after_append, hm, hm']

/-- A rest is the end of the text. -/
theorem suffix (h : Passes t rest) : rest <:+ t := by
  obtain ⟨used, rfl, -⟩ := h.passed
  exact List.suffix_append used rest

/-- A plain code point changes nothing. -/
theorem plain {c : CodePoint} (hc : IsPlain c) (t : Text) : Passes (c :: t) t := by
  obtain ⟨hl, hq, ho, hd⟩ := hc
  refine ⟨⟨[c], rfl, List.forall_mem_singleton.mpr hl, if_neg hq⟩, fun n => Nat.le_of_eq ?_⟩
  rw [nestingFrom, if_neg hq, if_neg ho, if_neg hd]

/-- Nor do several. -/
theorem plains {used : Text} (hu : ∀ c ∈ used, IsPlain c) (t : Text) : Passes (used ++ t) t := by
  induction used with
  | nil => exact refl t
  | cons c used ih =>
    exact (plain (hu c List.mem_cons_self) _).trans (ih fun d hd => hu d (List.mem_cons_of_mem c hd))

/-- What brackets or braces enclose is nested one deeper. -/
theorem group {c d : CodePoint} (hc : c = '[' ∨ c = '\x7b') (hd : d = ']' ∨ d = '\x7d') (h : Passes t (d :: rest)) :
    Passes (c :: t) rest := by
  have hcq : c ≠ '"' := by rcases hc with rfl | rfl <;> decide
  have hdq : d ≠ '"' := by rcases hd with rfl | rfl <;> decide
  have hdo : ¬(d = '[' ∨ d = '\x7b') := by rcases hd with rfl | rfl <;> decide
  have hcl : IsLegal c := Or.inl (by rcases hc with rfl | rfl <;> decide)
  have hdl : IsLegal d := Or.inl (by rcases hd with rfl | rfl <;> decide)
  obtain ⟨used, rfl, hu, hm⟩ := h.passed
  refine ⟨⟨c :: used ++ [d], by simp, List.forall_mem_append.mpr ⟨List.forall_mem_cons.mpr ⟨hcl, hu⟩,
    List.forall_mem_singleton.mpr hdl⟩, ?_⟩, fun n => ?_⟩
  · have hc' : Mode.between.next c = .between := if_neg hcq
    have hd' : Mode.between.after [d] = .between := if_neg hdq
    have hu : Mode.between.after (c :: used) = .between := by rw [Mode.after_cons, hc', hm]
    rw [Mode.after_append, hu, hd']
  · have hn := h.nesting_le (n + 1)
    rw [nestingFrom, if_neg hdq, if_neg hdo, if_pos hd, Nat.add_sub_cancel] at hn
    rw [nestingFrom, if_neg hcq, if_pos hc]
    exact Nat.le_trans (Nat.le_max_right _ _) hn

end Passes

/-- White space is plain. -/
theorem isPlain_of_isSpace {c : CodePoint} (h : isSpace c = true) : IsPlain c := by
  refine ⟨Or.inr h, ?_⟩
  simp only [isSpace, Bool.or_eq_true, decide_eq_true_eq] at h
  rcases h with ((rfl | rfl) | rfl) | rfl <;> decide

/-- White space is passed over. -/
theorem passes_skipSpace (t : Text) : Passes t (skipSpace t) := by
  have hs : ∀ c ∈ t.takeWhile isSpace, IsPlain c := fun c hc =>
    isPlain_of_isSpace (List.all_eq_true.mp List.all_takeWhile c hc)
  have h := Passes.plains hs (skipSpace t)
  rwa [skipSpace, List.takeWhile_append_dropWhile] at h

/-- So is white space before a rest that is known. -/
theorem Passes.of_skipSpace {t rest : Text} (h : skipSpace t = rest) : Passes t rest := h ▸ passes_skipSpace t

/-- A comma or a colon is passed over with the white space around it. -/
theorem Passes.of_mark {t next : Text} {c : CodePoint} (hc : IsPlain c) (h : skipSpace t = c :: next) :
    Passes t (skipSpace next) :=
  (Passes.of_skipSpace h).trans ((Passes.plain hc next).trans (passes_skipSpace next))

/-! ## Tokens -/

/-- A hexadecimal digit is legal, no quote and no backslash. -/
theorem isHex_legal {c : CodePoint} (h : c.isHex = true) : IsLegal c ∧ c ≠ '"' ∧ c ≠ '\\' := by
  have hv : 0x30 ≤ c.val ∧ c.val ≠ 0x5C := by
    have := CodePoint.val_of_isHex h
    omega
  refine ⟨Or.inl (by omega), ?_, ?_⟩
  · rintro rfl
    exact absurd hv.1 (by decide)
  · rintro rfl
    exact absurd hv.2 (by decide)

/-- The digits of a unit are hexadecimal. -/
theorem isHex_of_unit? {a b c d unit : CodePoint} (h : unit? a b c d = some unit) :
    a.isHex = true ∧ b.isHex = true ∧ c.isHex = true ∧ d.isHex = true := by
  unfold unit? at h
  split at h
  · simp [CodePoint.isHex, *]
  · cases h

/-- What a backslash stands before is legal. -/
theorem isLegal_of_escaped? {c e : CodePoint} (h : escaped? c = some e) : IsLegal c := by
  rcases Nat.lt_or_ge c.val 0x20 with hv | hv
  · have hne (d : Char) (hd : 0x20 ≤ d.toNat) : c ≠ CodePoint.ofChar d := by
      rintro rfl
      exact absurd hv (Nat.not_lt.mpr hd)
    simp [escaped?, hne '"' (by decide), hne '\\' (by decide), hne '/' (by decide), hne 'b' (by decide),
      hne 'f' (by decide), hne 'n' (by decide), hne 'r' (by decide), hne 't' (by decide)] at h
  · exact Or.inl hv

/-- What a string passes over, from within it to behind its closing quote. -/
inductive PassesString : Text → Text → Prop
  | close (t : Text) : PassesString ('"' :: t) t
  | char {c : CodePoint} {t rest : Text} :
      IsLegal c → c ≠ '"' → c ≠ '\\' → PassesString t rest → PassesString (c :: t) rest
  | escape {e : CodePoint} {t rest : Text} : IsLegal e → PassesString t rest → PassesString ('\\' :: e :: t) rest

/-- The escape of a unit is passed over. -/
theorem PassesString.unit {a b c d unit : CodePoint} {t rest : Text} (hu : unit? a b c d = some unit)
    (h : PassesString t rest) : PassesString ('\\' :: 'u' :: a :: b :: c :: d :: t) rest := by
  obtain ⟨ha, hb, hc, hd⟩ := isHex_of_unit? hu
  have hchar {e : CodePoint} {t : Text} (he : e.isHex = true) (ht : PassesString t rest) :
      PassesString (e :: t) rest := .char (isHex_legal he).1 (isHex_legal he).2.1 (isHex_legal he).2.2 ht
  exact .escape (Or.inl (by decide)) (hchar ha (hchar hb (hchar hc (hchar hd h))))

/-- A string that is read is passed over. -/
theorem stringBody_passes {t s rest : Text} (h : stringBody t = .ok (s, rest)) : PassesString t rest := by
  fun_induction stringBody t generalizing s with
  | case2 =>
    cases h
    exact .close rest
  | case5 i j k l m unit hu hh n p q r s' x t low hl hp _ ih =>
    obtain ⟨rfl, rfl, -⟩ := hp
    obtain ⟨_, hr, -⟩ := prepend_eq_ok.mp h
    exact .unit hu (.unit hl (ih hr))
  | case6 i j k l m unit hu hh n p q r s' x t low hl hp _ ih =>
    obtain ⟨_, hr, -⟩ := prepend_eq_ok.mp h
    exact .unit hu (ih hr)
  | case7 i j k l m unit hu hh n p q r s' x t hl _ ih =>
    obtain ⟨_, hr, -⟩ := prepend_eq_ok.mp h
    exact .unit hu (ih hr)
  | case8 i j k l m unit hu hh t ht _ ih =>
    obtain ⟨_, hr, -⟩ := prepend_eq_ok.mp h
    exact .unit hu (ih hr)
  | case9 i j k l m t unit hu hh _ ih =>
    obtain ⟨_, hr, -⟩ := prepend_eq_ok.mp h
    exact .unit hu (ih hr)
  | case11 e t he c hc _ ih =>
    obtain ⟨_, hr, -⟩ := prepend_eq_ok.mp h
    exact .escape (isLegal_of_escaped? hc) (ih hr)
  | case14 c t hq hb hv ih =>
    obtain ⟨_, hr, -⟩ := prepend_eq_ok.mp h
    exact .char (Or.inl (Nat.le_of_not_lt hv)) hq hb (ih hr)
  | case1 | case3 | case4 | case10 | case12 | case13 => cases h

/-- A string opens and closes nothing. -/
theorem PassesString.passes {t rest : Text} (h : PassesString t rest) : Passes ('"' :: t) rest := by
  have key : (∃ used, t = used ++ rest ∧ (∀ c ∈ used, IsLegal c) ∧ Mode.inString.after used = .between) ∧
      ∀ n, nestingFrom .between n rest = nestingFrom .inString n t := by
    induction h with
    | close t =>
      refine ⟨⟨['"'], rfl, List.forall_mem_singleton.mpr (Or.inl (by decide)), by decide⟩, fun n => ?_⟩
      rw [nestingFrom, if_pos rfl]
    | @char c t rest hc hq hb _ ih =>
      obtain ⟨⟨used, rfl, hu, hm⟩, hn⟩ := ih
      refine ⟨⟨c :: used, rfl, List.forall_mem_cons.mpr ⟨hc, hu⟩, ?_⟩, fun n => ?_⟩
      · rw [Mode.after_cons, Mode.next, if_neg hq, if_neg hb, hm]
      · rw [nestingFrom, if_neg hq, if_neg hb, hn]
    | @escape e t rest he _ ih =>
      obtain ⟨⟨used, rfl, hu, hm⟩, hn⟩ := ih
      refine ⟨⟨'\\' :: e :: used, rfl, List.forall_mem_cons.mpr ⟨Or.inl (by decide),
        List.forall_mem_cons.mpr ⟨he, hu⟩⟩, ?_⟩, fun n => ?_⟩
      · rw [Mode.after_cons, Mode.next, if_neg (by decide), if_pos rfl, Mode.after_cons, Mode.next, hm]
      · rw [nestingFrom, if_neg (by decide), if_pos rfl, nestingFrom, hn]
  obtain ⟨⟨used, rfl, hu, hm⟩, hn⟩ := key
  refine ⟨⟨'"' :: used, rfl, List.forall_mem_cons.mpr ⟨Or.inl (by decide), hu⟩, ?_⟩, fun n => Nat.le_of_eq ?_⟩
  · rw [Mode.after_cons, Mode.next, if_pos rfl, hm]
  · rw [nestingFrom, if_pos rfl, hn]

/-- What stands in a number is plain. -/
theorem isPlain_of_isNumeric {c : CodePoint} (h : IsNumeric c) : IsPlain c := by
  rcases h with h | rfl | rfl | rfl | rfl | rfl
  · have hd : 0x30 ≤ c.val ∧ c.val ≤ 0x39 := by simpa [CodePoint.isDigit] using h
    have hne (d : Char) (hd' : d.toNat < 0x30 ∨ 0x39 < d.toNat) : c ≠ CodePoint.ofChar d := by
      rintro rfl
      have : (CodePoint.ofChar d).val = d.toNat := rfl
      omega
    refine ⟨Or.inl (by omega), hne _ (by decide), ?_, ?_⟩
    · simp [hne '[' (by decide), hne '\x7b' (by decide)]
    · simp [hne ']' (by decide), hne '\x7d' (by decide)]
  all_goals exact ⟨Or.inl (by decide), by decide, by decide, by decide⟩

/-- The names of values are plain. -/
theorem isPlain_of_mem_names {name : Text} {x : Value} (h : (name, x) ∈ names) : ∀ c ∈ name, IsPlain c := by
  have hall : ∀ entry ∈ names, ∀ c ∈ entry.1, IsPlain c := by decide
  exact hall (name, x) h

/-- A value without parts is passed over. -/
theorem scalar_passes {t rest : Text} {x : Value} (h : scalar t = .ok (x, rest)) : Passes t rest := by
  unfold scalar at h
  split at h
  next hn =>
    cases h
    obtain ⟨name, hm, rfl⟩ := named?_eq_some.mp hn
    exact .plains (isPlain_of_mem_names hm) rest
  next =>
    split at h
    · cases h
    next n after hn =>
      obtain ⟨y, -, hy⟩ := Result.map_eq_ok.mp h
      cases hy
      obtain ⟨used, rfl, -, hu, -⟩ := numeral?_used hn
      exact .plains (fun c hc => isPlain_of_isNumeric (hu c hc)) rest

/-- The name of a member is passed over. -/
theorem memberName_passes {t name rest : Text} (h : memberName t = .ok (name, rest)) : Passes t rest := by
  obtain ⟨body, after, next, rfl, hs, hn, rfl⟩ := memberName_eq_ok.mp h
  exact (stringBody_passes hs).passes.trans (.of_mark (by decide) hn)

/-! ## Values -/

section Parts

variable {readValue : Text → Except Fault (Value × Text)}
  (hread : ∀ {t rest : Text} {x : Value}, readValue t = .ok (x, rest) → Passes t rest)
include hread

/-- Items are passed over up to the closing bracket. -/
theorem items_passes {fuel : Nat} {t rest : Text} {xs : List Value} (h : items readValue fuel t = .ok (xs, rest)) :
    Passes t (.ofChar ']' :: rest) := by
  induction fuel generalizing t xs with
  | zero => cases h
  | succ fuel ih =>
    obtain ⟨x, after, hx, h⟩ := items_eq_ok.mp h
    rcases h with ⟨hn, -⟩ | ⟨next, ys, hn, hy, -⟩
    · exact (hread hx).trans (.of_skipSpace hn)
    · exact (hread hx).trans ((Passes.of_mark (by decide) hn).trans (ih hy))

/-- Members are passed over up to the closing brace. -/
theorem members_passes {fuel : Nat} {t rest : Text} {xs : List (Text × Value)}
    (h : members readValue fuel t = .ok (xs, rest)) : Passes t (.ofChar '\x7d' :: rest) := by
  induction fuel generalizing t xs with
  | zero => cases h
  | succ fuel ih =>
    obtain ⟨name, mid, x, after, hm, hx, h⟩ := members_eq_ok.mp h
    have hp := (memberName_passes hm).trans (hread hx)
    rcases h with ⟨hn, -⟩ | ⟨next, ys, hn, hy, -⟩
    · exact hp.trans (.of_skipSpace hn)
    · exact hp.trans ((Passes.of_mark (by decide) hn).trans (ih hy))

end Parts

/-- **A value that is read is passed over.** -/
theorem value_passes {depth : Nat} {t rest : Text} {x : Value} (h : value depth t = .ok (x, rest)) :
    Passes t rest := by
  induction depth generalizing t x rest with
  | zero =>
    cases value_eq_ok.mp h with
    | string hs => exact (stringBody_passes hs).passes
    | scalar _ hs => exact scalar_passes hs
  | succ depth ih =>
    cases value_eq_ok.mp h with
    | string hs => exact (stringBody_passes hs).passes
    | emptyArray hd => exact .group (Or.inl rfl) (Or.inl rfl) (.of_skipSpace hd)
    | array hd _ hi =>
      exact .group (Or.inl rfl) (Or.inl rfl) ((Passes.of_skipSpace hd).trans (items_passes ih hi))
    | emptyObject hd => exact .group (Or.inr rfl) (Or.inr rfl) (.of_skipSpace hd)
    | object hd _ hi =>
      exact .group (Or.inr rfl) (Or.inr rfl) ((Passes.of_skipSpace hd).trans (members_passes ih hi))
    | scalar _ hs => exact scalar_passes hs

/-- A visible character of ASCII. -/
def IsVisible (c : CodePoint) : Prop := 0x20 < c.val ∧ c.val < 0x7F

instance : DecidablePred IsVisible := fun c => inferInstanceAs (Decidable (0x20 < c.val ∧ c.val < 0x7F))

/-- A value without parts begins like a number or as a name does. -/
theorem head_of_scalar {c : CodePoint} {t rest : Text} {x : Value} (h : scalar (c :: t) = .ok (x, rest)) :
    IsNumeric c ∨ ∃ entry ∈ names, c ∈ entry.1 := by
  unfold scalar at h
  split at h
  next hn =>
    obtain ⟨name, hm, ht⟩ := named?_eq_some.mp hn
    have hall : ∀ entry ∈ names, entry.1 ≠ [] := by decide
    obtain ⟨d, name, rfl⟩ := List.exists_cons_of_ne_nil (hall (name, _) hm)
    rw [(List.cons.inj ht).1]
    exact Or.inr ⟨_, hm, List.mem_cons_self⟩
  next =>
    split at h
    · cases h
    next n after hn =>
      obtain ⟨used, ht, hne, hu, -⟩ := numeral?_used hn
      obtain ⟨d, used, rfl⟩ := List.exists_cons_of_ne_nil hne
      rw [(List.cons.inj ht).1]
      exact Or.inl (hu d List.mem_cons_self)

/-- What stands in a number is visible. -/
theorem isVisible_of_isNumeric {c : CodePoint} (h : IsNumeric c) : IsVisible c := by
  rcases h with hd | rfl | rfl | rfl | rfl | rfl
  · simp only [CodePoint.isDigit, Bool.and_eq_true, decide_eq_true_eq] at hd
    exact ⟨by omega, by omega⟩
  all_goals decide

/-- A value without parts begins with a visible character. -/
theorem isVisible_of_scalar {c : CodePoint} {t rest : Text} {x : Value} (h : scalar (c :: t) = .ok (x, rest)) :
    IsVisible c := by
  rcases head_of_scalar h with hn | ⟨entry, hm, hc⟩
  · exact isVisible_of_isNumeric hn
  · have hall : ∀ entry ∈ names, ∀ c ∈ entry.1, IsVisible c := by decide
    exact hall entry hm c hc

/-- It begins with nothing that opens or closes. -/
theorem isPlain_of_scalar {c : CodePoint} {t rest : Text} {x : Value} (h : scalar (c :: t) = .ok (x, rest)) :
    IsPlain c := by
  rcases head_of_scalar h with hn | ⟨entry, hm, hc⟩
  · exact isPlain_of_isNumeric hn
  · exact isPlain_of_mem_names hm c hc

/-- Every value begins with a visible character. -/
theorem ValueRead.isVisible {depth : Nat} {c : CodePoint} {t rest : Text} {x : Value}
    (h : ValueRead depth (c :: t) x rest) : IsVisible c := by
  cases h with
  | scalar _ hs => exact isVisible_of_scalar hs
  | _ => decide

/-- **A text that is read holds no control characters but white space.** -/
theorem isLegal_of_read {t : Text} {x : Value} (h : read t = .ok x) : ∀ c ∈ t, IsLegal c := by
  obtain ⟨-, rest, hv, he⟩ := read_eq_ok.mp h
  have hp := (passes_skipSpace t).trans ((value_passes hv).trans (.of_skipSpace he))
  obtain ⟨used, rfl, hu, -⟩ := hp.passed
  rwa [List.append_nil]

end LiquidationDrill.Json
