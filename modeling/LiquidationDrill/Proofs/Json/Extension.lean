import LiquidationDrill.Proofs.Json.Passing

/-!
# JSON before more text

A value that is read is read again, and nothing else, before any text that cannot continue a number (`value_append`):
strings, arrays and objects end where they close (`stringBody_append`, `items_append`, `members_append`), and numbers
end where nothing continues them (`scalar_append`). So a text that is read is no beginning of another one that goes on
with something other than white space and numbers (`read_append`).
-/

namespace LiquidationDrill.Json

/-! ## Strings -/

/-- The digits of an escape are followed by at least one code point. -/
theorem length_of_stringBody_unit {t s rest : Text}
    (h : stringBody (.ofChar '\\' :: .ofChar 'u' :: t) = .ok (s, rest)) :
    ∃ i j k l m t', t = i :: j :: k :: l :: m :: t' := by
  match t with
  | i :: j :: k :: l :: m :: t' => exact ⟨i, j, k, l, m, t', rfl⟩
  | [] | [_] | [_, _] | [_, _, _] | [_, _, _, _] => cases h

/-- An escape, and no other one after it that makes a pair with it. -/
theorem stringBody_unit {i j k l m unit : CodePoint} {t : Text} (hu : unit? i j k l = some unit)
    (hno : ∀ n p q r s x t' low, t = n :: p :: q :: r :: s :: x :: t' → unit? p q r s = some low →
      unit.isHighSurrogate = true → ¬(m = '\\' ∧ n = 'u' ∧ low.isLowSurrogate = true)) :
    stringBody ('\\' :: 'u' :: i :: j :: k :: l :: m :: t) = prepend unit (stringBody (m :: t)) := by
  rw [stringBody.eq_def]
  dsimp only
  rw [if_neg (by decide), if_pos rfl, if_pos rfl, hu]
  dsimp only
  split
  case isFalse => rfl
  case isTrue hh =>
    split
    next n p q r s x t' =>
      split
      next low hl => exact if_neg (hno n p q r s x t' low rfl hl hh)
      next => rfl
    next => rfl

/-- The escapes of a surrogate pair. -/
theorem stringBody_pair {i j k l p q r s x unit low : CodePoint} {t : Text} (hu : unit? i j k l = some unit)
    (hh : unit.isHighSurrogate = true) (hl : unit? p q r s = some low) (hlow : low.isLowSurrogate = true) :
    stringBody ('\\' :: 'u' :: i :: j :: k :: l :: '\\' :: 'u' :: p :: q :: r :: s :: x :: t) =
      prepend (joined unit low) (stringBody (x :: t)) := by
  rw [stringBody.eq_def]
  dsimp only
  rw [if_neg (by decide), if_pos rfl, if_pos rfl, hu]
  dsimp only
  rw [if_pos hh, hl]
  exact if_pos ⟨rfl, rfl, hlow⟩

/-- A string ends at its closing quote. -/
theorem stringBody_append {t s rest : Text} (h : stringBody t = .ok (s, rest)) (more : Text) :
    stringBody (t ++ more) = .ok (s, rest ++ more) := by
  fun_induction stringBody t generalizing s with
  | case2 =>
    cases h
    rw [List.cons_append, stringBody.eq_def]
    exact if_pos rfl
  | case5 i j k l m unit hu hh n p q r s' x t low hl hp _ ih =>
    obtain ⟨rfl, rfl, hlow⟩ := hp
    obtain ⟨s', hr, rfl⟩ := prepend_eq_ok.mp h
    exact (stringBody_pair hu hh hl hlow).trans (prepend_eq_ok.mpr ⟨s', ih hr, rfl⟩)
  | case6 i j k l m unit hu hh n p q r s' x t low hl hp _ ih =>
    obtain ⟨s', hr, rfl⟩ := prepend_eq_ok.mp h
    refine (stringBody_unit hu ?_).trans (prepend_eq_ok.mpr ⟨s', ih hr, rfl⟩)
    intro n' p' q' r' s'' x' t' low' ht hl' _
    cases ht
    cases hl.symm.trans hl'
    exact hp
  | case7 i j k l m unit hu hh n p q r s' x t hl _ ih =>
    obtain ⟨s', hr, rfl⟩ := prepend_eq_ok.mp h
    refine (stringBody_unit hu ?_).trans (prepend_eq_ok.mpr ⟨s', ih hr, rfl⟩)
    intro n' p' q' r' s'' x' t' low' ht hl' _
    cases ht
    cases hl.symm.trans hl'
  | case8 i j k l m unit hu hh t ht _ ih =>
    obtain ⟨s', hr, rfl⟩ := prepend_eq_ok.mp h
    refine (stringBody_unit hu ?_).trans (prepend_eq_ok.mpr ⟨s', ih hr, rfl⟩)
    -- a second escape that the text goes on with would have had its digits in the text
    rintro n p q r s'' x t' low hta - - ⟨rfl, rfl, -⟩
    cases t with
    | nil => cases hr
    | cons n' t =>
      obtain ⟨rfl, -⟩ := List.cons.inj hta
      obtain ⟨i', j', k', l', m', t'', rfl⟩ := length_of_stringBody_unit hr
      exact ht _ _ _ _ _ _ _ rfl
  | case9 i j k l m t unit hu hh _ ih =>
    obtain ⟨s', hr, rfl⟩ := prepend_eq_ok.mp h
    exact (stringBody_unit hu fun _ _ _ _ _ _ _ _ _ _ h' => absurd h' hh).trans
      (prepend_eq_ok.mpr ⟨s', ih hr, rfl⟩)
  | case11 e t he c hc _ ih =>
    obtain ⟨s', hr, rfl⟩ := prepend_eq_ok.mp h
    rw [List.cons_append, List.cons_append, stringBody.eq_def]
    dsimp only
    rw [if_neg (by decide), if_pos rfl, if_neg he, hc]
    exact prepend_eq_ok.mpr ⟨s', ih hr, rfl⟩
  | case14 c t hq hb hv ih =>
    obtain ⟨s', hr, rfl⟩ := prepend_eq_ok.mp h
    rw [List.cons_append, stringBody.eq_def]
    dsimp only
    rw [if_neg hq, if_neg hb, if_neg hv]
    exact prepend_eq_ok.mpr ⟨s', ih hr, rfl⟩
  | case1 | case3 | case4 | case10 | case12 | case13 => cases h

/-! ## White space and names -/

/-- White space ends where something else is. -/
theorem skipSpace_append {t next : Text} {c : CodePoint} (h : skipSpace t = c :: next) (more : Text) :
    skipSpace (t ++ more) = c :: (next ++ more) := by
  induction t with
  | nil => cases h
  | cons d t ih =>
    simp only [skipSpace, List.dropWhile_cons, List.cons_append] at h ih ⊢
    split
    case isTrue hd =>
      rw [if_pos hd] at h
      exact ih h
    case isFalse hd =>
      rw [if_neg hd] at h
      cases h
      rfl

/-- After nothing but white space the rest decides. -/
theorem skipSpace_append_of_nil {t : Text} (h : skipSpace t = []) (more : Text) :
    skipSpace (t ++ more) = skipSpace more := by
  induction t with
  | nil => rfl
  | cons c t ih =>
    simp only [skipSpace, List.dropWhile_cons, List.cons_append] at h ih ⊢
    split at h
    case isTrue hc =>
      rw [if_pos hc]
      exact ih h
    case isFalse => cases h

/-- The name of a member is read again if something follows it. -/
theorem memberName_append {t name rest : Text} (h : memberName t = .ok (name, rest)) (hr : rest ≠ [])
    (more : Text) : memberName (t ++ more) = .ok (name, rest ++ more) := by
  obtain ⟨body, after, next, rfl, hs, hn, rfl⟩ := memberName_eq_ok.mp h
  refine memberName_eq_ok.mpr ⟨body ++ more, after ++ more, next ++ more, rfl, stringBody_append hs more,
    skipSpace_append hn more, ?_⟩
  rcases hc : skipSpace next with _ | ⟨c, rest⟩
  · exact absurd hc hr
  · exact (skipSpace_append hc more).symm

/-! ## Values -/

/-- No name begins like a number. -/
theorem named?_eq_none {t rest : Text} {n : Numeral} (h : numeral? t = some (n, rest)) : named? t = none := by
  rcases hn : named? t with _ | ⟨x, rest'⟩
  · rfl
  obtain ⟨name, hm, rfl⟩ := named?_eq_some.mp hn
  obtain ⟨whole, after, hw, -⟩ := numeral?_eq_some.mp h
  have hd (c : Char) (hc : c.toNat < 0x30 ∨ 0x39 < c.toNat) : (CodePoint.ofChar c).isDigit = false := by
    have : (CodePoint.ofChar c).val = c.toNat := rfl
    simp only [CodePoint.isDigit, Bool.and_eq_false_iff, decide_eq_false_iff_not]
    omega
  simp only [names, List.mem_cons, Prod.mk.injEq, List.not_mem_nil, or_false] at hm
  rcases hm with ⟨rfl, -⟩ | ⟨rfl, -⟩ | ⟨rfl, -⟩ | ⟨rfl, -⟩ | ⟨rfl, -⟩ | ⟨rfl, -⟩ <;>
    simp [Text.ofString, minus, wholePart?, hd] at hw

/-- A value without parts ends where nothing continues a number. -/
theorem scalar_append {t rest more : Text} {x : Value} (h : scalar t = .ok (x, rest)) (hm : Foreign more) :
    scalar (t ++ more) = .ok (x, rest ++ more) := by
  unfold scalar at h
  split at h
  next hn =>
    cases h
    obtain ⟨name, hname, rfl⟩ := named?_eq_some.mp hn
    rw [scalar, named?_eq_some.mpr ⟨name, hname, List.append_assoc name rest more⟩]
  next hn =>
    split at h
    · cases h
    next n after hn =>
      obtain ⟨y, hy, hx⟩ := Result.map_eq_ok.mp h
      cases hx
      have ha := numeral?_append hn hm
      rw [scalar, named?_eq_none ha, ha]
      exact Result.map_eq_ok.mpr ⟨y, hy, rfl⟩

section Parts

variable {readValue : Text → Except Fault (Value × Text)} {more : Text}
  (hread : ∀ {t rest : Text} {x : Value}, readValue t = .ok (x, rest) →
    t ≠ [] ∧ readValue (t ++ more) = .ok (x, rest ++ more))
include hread

/-- Items begin with something. -/
theorem items_ne_nil {fuel : Nat} {t rest : Text} {xs : List Value} (h : items readValue fuel t = .ok (xs, rest)) :
    t ≠ [] := by
  cases fuel with
  | zero => cases h
  | succ fuel =>
    obtain ⟨x, after, hx, -⟩ := items_eq_ok.mp h
    exact (hread hx).1

/-- Items end at the closing bracket. -/
theorem items_append {fuel fuel' : Nat} (hf : fuel ≤ fuel') {t rest : Text} {xs : List Value}
    (h : items readValue fuel t = .ok (xs, rest)) : items readValue fuel' (t ++ more) = .ok (xs, rest ++ more) := by
  induction fuel generalizing fuel' t xs with
  | zero => cases h
  | succ fuel ih =>
    obtain ⟨fuel', rfl⟩ : ∃ f, fuel' = f + 1 := ⟨fuel' - 1, by omega⟩
    obtain ⟨x, after, hx, h⟩ := items_eq_ok.mp h
    refine items_eq_ok.mpr ⟨x, after ++ more, (hread hx).2, ?_⟩
    rcases h with ⟨hn, hxs⟩ | ⟨next, ys, hn, hy, hxs⟩
    · exact Or.inl ⟨skipSpace_append hn more, hxs⟩
    · refine Or.inr ⟨next ++ more, ys, skipSpace_append hn more, ?_, hxs⟩
      rcases hc : skipSpace next with _ | ⟨c, t'⟩
      · exact absurd hc (items_ne_nil hread hy)
      · rw [hc] at hy
        rw [skipSpace_append hc more]
        exact ih (Nat.le_of_succ_le_succ hf) hy

/-- Members end at the closing brace. -/
theorem members_append {fuel fuel' : Nat} (hf : fuel ≤ fuel') {t rest : Text} {xs : List (Text × Value)}
    (h : members readValue fuel t = .ok (xs, rest)) :
    members readValue fuel' (t ++ more) = .ok (xs, rest ++ more) := by
  induction fuel generalizing fuel' t xs with
  | zero => cases h
  | succ fuel ih =>
    obtain ⟨fuel', rfl⟩ : ∃ f, fuel' = f + 1 := ⟨fuel' - 1, by omega⟩
    obtain ⟨name, mid, x, after, hm, hx, h⟩ := members_eq_ok.mp h
    refine members_eq_ok.mpr ⟨name, mid ++ more, x, after ++ more, memberName_append hm (hread hx).1 more,
      (hread hx).2, ?_⟩
    rcases h with ⟨hn, hxs⟩ | ⟨next, ys, hn, hy, hxs⟩
    · exact Or.inl ⟨skipSpace_append hn more, hxs⟩
    · refine Or.inr ⟨next ++ more, ys, skipSpace_append hn more, ?_, hxs⟩
      rcases hc : skipSpace next with _ | ⟨c, t'⟩
      · rw [hc] at hy
        cases fuel <;> cases hy
      · rw [hc] at hy
        rw [skipSpace_append hc more]
        exact ih (Nat.le_of_succ_le_succ hf) hy

end Parts

/-- **A value that is read is read again before any text that cannot continue a number.** -/
theorem value_append {depth : Nat} {t rest more : Text} {x : Value} (h : value depth t = .ok (x, rest))
    (hm : Foreign more) : value depth (t ++ more) = .ok (x, rest ++ more) := by
  have hlen (t : Text) : t.length ≤ (t ++ more).length := by simp
  induction depth generalizing t x rest with
  | zero =>
    cases value_eq_ok.mp h with
    | string hs => exact value_eq_ok.mpr (.string (stringBody_append hs more))
    | scalar hc hs => exact value_eq_ok.mpr (.scalar hc (scalar_append hs hm))
  | succ depth ih =>
    have hread {t rest : Text} {x : Value} (h : value depth t = .ok (x, rest)) :
        t ≠ [] ∧ value depth (t ++ more) = .ok (x, rest ++ more) := ⟨(value_eq_ok.mp h).ne_nil, ih h⟩
    cases value_eq_ok.mp h with
    | string hs => exact value_eq_ok.mpr (.string (stringBody_append hs more))
    | emptyArray hd => exact value_eq_ok.mpr (.emptyArray (skipSpace_append hd more))
    | array hd hne hi =>
      exact value_eq_ok.mpr (.array (skipSpace_append hd more) hne (items_append hread (hlen _) hi))
    | emptyObject hd => exact value_eq_ok.mpr (.emptyObject (skipSpace_append hd more))
    | object hd hne hi =>
      exact value_eq_ok.mpr (.object (skipSpace_append hd more) hne (members_append hread (hlen _) hi))
    | scalar hc hs => exact value_eq_ok.mpr (.scalar hc (scalar_append hs hm))

/-! ## Whole texts -/

/-- A text that is read is no beginning of one that goes on with neither white space nor a number. -/
theorem read_append {t : Text} {x : Value} {c : CodePoint} (h : read t = .ok x) (hs : isSpace c = false)
    (hc : ¬IsNumeric c) (more : Text) : read (t ++ c :: more) = .error .extraData := by
  obtain ⟨hb, rest, hv, he⟩ := read_eq_ok.mp h
  have hm : Foreign (c :: more) := fun d hd => Option.some.inj hd ▸ hc
  obtain ⟨d, next, hn⟩ := List.exists_cons_of_ne_nil (value_eq_ok.mp hv).ne_nil
  have hb' : (t ++ c :: more).head? ≠ some byteOrderMark := by
    cases t with
    | nil => cases hn
    | cons e t => exact hb
  have hrest : skipSpace (rest ++ c :: more) = c :: more := by
    rw [skipSpace_append_of_nil he, skipSpace, List.dropWhile_cons_of_neg (by simp [hs])]
  have hva := value_append hv hm
  rw [hn, List.cons_append] at hva
  rw [read, if_neg hb', skipSpace_append hn, hva]
  show (if (skipSpace (rest ++ c :: more)).isEmpty then _ else _) = _
  rw [hrest]
  rfl

end LiquidationDrill.Json
