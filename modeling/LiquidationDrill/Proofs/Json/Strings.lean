import LiquidationDrill.Proofs.Json.Extension
import LiquidationDrill.Proofs.Json.Grammar

/-!
# Strings as they are spelled

The reader of strings takes the inside of a string up to its closing quote and reads what it spells
(`stringBody_sound`), and every inside of a string is read as what it spells (`stringBody_complete`). Both go escape by
escape: four digits are a unit in the reader and in the grammar (`unit?_eq_some`), and so are the letters
(`escaped?_eq_some`).
-/

namespace LiquidationDrill.Json

/-! ## Escapes -/

/-- Four digits spell a unit. -/
theorem unit?_eq_some {a b c d unit : CodePoint} :
    unit? a b c d = some unit ↔ SpellsUnit [.ofChar '\\', .ofChar 'u', a, b, c, d] unit.val := by
  constructor
  · intro h
    unfold unit? at h
    split at h
    case h_2 => cases h
    next i j k l hi hj hk hl =>
      obtain rfl := Option.some.inj h
      have := CodePoint.hex?_lt hi
      have := CodePoint.hex?_lt hj
      have := CodePoint.hex?_lt hk
      have := CodePoint.hex?_lt hl
      refine ⟨a, b, c, d, i, j, k, l, rfl, hi, hj, hk, hl, ?_⟩
      rw [CodePoint.val_ofNat (by omega)]
      omega
  · rintro ⟨a, b, c, d, i, j, k, l, ht, hi, hj, hk, hl, hn⟩
    cases ht
    have hlt := unit.val_lt
    simp only [unit?, hi, hj, hk, hl]
    refine congrArg some (CodePoint.ext ?_)
    rw [CodePoint.val_ofNat (by omega)]
    omega

/-- An escape of a unit has six code points. -/
theorem SpellsUnit.exists_eq {t : Text} {n : Nat} (h : SpellsUnit t n) :
    ∃ a b c d unit, t = [.ofChar '\\', .ofChar 'u', a, b, c, d] ∧ unit? a b c d = some unit ∧ unit.val = n := by
  obtain ⟨a, b, c, d, i, j, k, l, rfl, hi, hj, hk, hl, rfl⟩ := h
  have := CodePoint.hex?_lt hi
  have := CodePoint.hex?_lt hj
  have := CodePoint.hex?_lt hk
  have := CodePoint.hex?_lt hl
  have hv := CodePoint.val_ofNat (n := 0x1000 * i + 0x100 * j + 0x10 * k + l) (by omega)
  exact ⟨a, b, c, d, _, rfl, unit?_eq_some.mpr ⟨a, b, c, d, i, j, k, l, rfl, hi, hj, hk, hl, hv⟩, hv⟩

theorem isHighSurrogate_iff {c : CodePoint} : c.isHighSurrogate = true ↔ IsHighHalf c.val := by
  simp [CodePoint.isHighSurrogate, IsHighHalf]

theorem isLowSurrogate_iff {c : CodePoint} : c.isLowSurrogate = true ↔ IsLowHalf c.val := by
  simp [CodePoint.isLowSurrogate, IsLowHalf]

/-- Two halves are joined to the code point that is as far from U+10000 as they count. -/
theorem val_joined {high low : CodePoint} (hh : IsHighHalf high.val) (hl : IsLowHalf low.val) :
    (joined high low).val = 0x10000 + 0x400 * (high.val - 0xD800) + (low.val - 0xDC00) := by
  obtain ⟨hh, hh'⟩ := hh
  obtain ⟨hl, hl'⟩ := hl
  rw [joined, CodePoint.val_ofNat (by omega)]
  omega

/-- The letters of the reader are those of the grammar. -/
theorem escaped?_eq_some {e c : CodePoint} : escaped? e = some c ↔ (e, c) ∈ letters := by
  constructor
  · intro h
    unfold escaped? at h
    split at h
    case isTrue he =>
      cases h
      rcases he with rfl | rfl | rfl <;> decide
    case isFalse =>
      repeat' split at h
      all_goals first | (subst_vars; cases h; decide) | cases h
  · have hall : ∀ letter ∈ letters, escaped? letter.1 = some letter.2 := by decide
    exact fun h => hall (e, c) h

/-! ## Soundness -/

/-- The escape of a second half that an inside begins with is one that the reader sees. -/
theorem not_beginsWithLowHalf {inside t rest : Text} {m : CodePoint} (ht : m :: t = inside ++ .ofChar '"' :: rest)
    (hno : ∀ n p q r s x t' low, t = n :: p :: q :: r :: s :: x :: t' → unit? p q r s = some low →
      ¬(m = '\\' ∧ n = 'u' ∧ low.isLowSurrogate = true)) : ¬BeginsWithLowHalf inside := by
  rintro ⟨unit, n, after, rfl, hu, hl⟩
  obtain ⟨p, q, r, s, low, rfl, hlow, rfl⟩ := hu.exists_eq
  obtain ⟨x, t', hx⟩ : ∃ x t', after ++ .ofChar '"' :: rest = x :: t' := List.exists_cons_of_ne_nil (by simp)
  simp only [hx, List.cons_append, List.nil_append, List.cons.injEq] at ht
  obtain ⟨rfl, rfl⟩ := ht
  exact hno _ p q r s x t' low rfl hlow ⟨rfl, rfl, isLowSurrogate_iff.mpr hl⟩

/-- **A string that is read is spelled up to its closing quote.** -/
theorem stringBody_sound {t s rest : Text} (h : stringBody t = .ok (s, rest)) :
    ∃ inside, t = inside ++ .ofChar '"' :: rest ∧ SpellsChars inside s := by
  fun_induction stringBody t generalizing s with
  | case2 =>
    cases h
    exact ⟨[], rfl, .nil⟩
  | case5 i j k l m unit hu hh n p q r s' x t low hl hp _ ih =>
    obtain ⟨rfl, rfl, hlow⟩ := hp
    obtain ⟨s', hr, rfl⟩ := prepend_eq_ok.mp h
    obtain ⟨inside, ht, hs⟩ := ih hr
    have hhigh := isHighSurrogate_iff.mp hh
    have hlow := isLowSurrogate_iff.mp hlow
    refine ⟨_, ?_, .pair (unit?_eq_some.mp hu) hhigh (unit?_eq_some.mp hl) hlow (val_joined hhigh hlow) hs⟩
    simp [ht]
  | case6 i j k l m unit hu hh n p q r s' x t low hl hp _ ih =>
    obtain ⟨s', hr, rfl⟩ := prepend_eq_ok.mp h
    obtain ⟨inside, ht, hs⟩ := ih hr
    refine ⟨_, by simp [ht], .unit (unit?_eq_some.mp hu) (fun hno => not_beginsWithLowHalf ht ?_ hno.2) hs⟩
    intro n' p' q' r' s'' x' t' low' ht' hl'
    cases ht'
    cases hl.symm.trans hl'
    exact hp
  | case7 i j k l m unit hu hh n p q r s' x t hl _ ih =>
    obtain ⟨s', hr, rfl⟩ := prepend_eq_ok.mp h
    obtain ⟨inside, ht, hs⟩ := ih hr
    refine ⟨_, by simp [ht], .unit (unit?_eq_some.mp hu) (fun hno => not_beginsWithLowHalf ht ?_ hno.2) hs⟩
    intro n' p' q' r' s'' x' t' low' ht' hl'
    cases ht'
    cases hl.symm.trans hl'
  | case8 i j k l m unit hu hh t hlen _ ih =>
    obtain ⟨s', hr, rfl⟩ := prepend_eq_ok.mp h
    obtain ⟨inside, ht, hs⟩ := ih hr
    refine ⟨_, by simp [ht], .unit (unit?_eq_some.mp hu) (fun hno => not_beginsWithLowHalf ht ?_ hno.2) hs⟩
    -- no second escape has room in what is left
    exact fun n p q r s x t' _ ht' _ => absurd ht' (hlen n p q r s x t')
  | case9 i j k l m t unit hu hh _ ih =>
    obtain ⟨s', hr, rfl⟩ := prepend_eq_ok.mp h
    obtain ⟨inside, ht, hs⟩ := ih hr
    exact ⟨_, by simp [ht], .unit (unit?_eq_some.mp hu) (fun hno => hh (isHighSurrogate_iff.mpr hno.1)) hs⟩
  | case11 e t he c hc _ ih =>
    obtain ⟨s', hr, rfl⟩ := prepend_eq_ok.mp h
    obtain ⟨inside, rfl, hs⟩ := ih hr
    exact ⟨_, rfl, .letter (escaped?_eq_some.mp hc) hs⟩
  | case14 c t hq hb hv ih =>
    obtain ⟨s', hr, rfl⟩ := prepend_eq_ok.mp h
    obtain ⟨inside, rfl, hs⟩ := ih hr
    exact ⟨_, rfl, .plain hq hb (Nat.le_of_not_lt hv) hs⟩
  | case1 | case3 | case4 | case10 | case12 | case13 => cases h

/-! ## Completeness -/

/-- An inside with the beginning of an escape of a unit begins with the escape. -/
theorem SpellsChars.beginsWithUnit {t inside s rest : Text} (h : SpellsChars inside s)
    (ht : inside ++ .ofChar '"' :: rest = .ofChar '\\' :: .ofChar 'u' :: t) :
    ∃ p q r u after, inside = .ofChar '\\' :: .ofChar 'u' :: p :: q :: r :: u :: after := by
  cases h with
  | nil => cases ht
  | plain _ hb => exact absurd (List.cons.inj ht).1 hb
  | letter hm =>
    have hall : ∀ letter ∈ letters, letter.1 ≠ 'u' := by decide
    exact absurd (List.cons.inj (List.cons.inj ht).2).1 (hall _ hm)
  | unit hu =>
    obtain ⟨p, q, r, u, -, rfl, -⟩ := hu.exists_eq
    exact ⟨p, q, r, u, _, rfl⟩
  | pair hu =>
    obtain ⟨p, q, r, u, -, rfl, -⟩ := hu.exists_eq
    exact ⟨p, q, r, u, _, rfl⟩

/-- **The inside of a string is read as what it spells**, up to the closing quote. -/
theorem stringBody_complete {inside s : Text} (h : SpellsChars inside s) (rest : Text) :
    stringBody (inside ++ .ofChar '"' :: rest) = .ok (s, rest) := by
  induction h with
  | nil =>
    rw [List.nil_append, stringBody.eq_def]
    exact if_pos rfl
  | @plain c t s hq hb hv _ ih =>
    rw [List.cons_append, stringBody.eq_def]
    dsimp only
    rw [if_neg hq, if_neg hb, if_neg (Nat.not_lt.mpr hv)]
    exact prepend_eq_ok.mpr ⟨s, ih, rfl⟩
  | @letter e c t s hm _ ih =>
    have hall : ∀ letter ∈ letters, letter.1 ≠ 'u' := by decide
    rw [List.cons_append, List.cons_append, stringBody.eq_def]
    dsimp only
    rw [if_neg (by decide), if_pos rfl, if_neg (hall _ hm), escaped?_eq_some.mpr hm]
    exact prepend_eq_ok.mpr ⟨s, ih, rfl⟩
  | @unit _ t s c hu hno hs ih =>
    obtain ⟨i, j, k, l, unit, rfl, hunit, hv⟩ := hu.exists_eq
    obtain rfl := CodePoint.ext hv
    obtain ⟨m, after, hm⟩ : ∃ m after, t ++ .ofChar '"' :: rest = m :: after := List.exists_cons_of_ne_nil (by simp)
    simp only [List.cons_append, List.nil_append]
    rw [hm] at ih ⊢
    refine (stringBody_unit hunit ?_).trans (prepend_eq_ok.mpr ⟨s, ih, rfl⟩)
    rintro n p q r s' x t' low rfl hl hh ⟨rfl, rfl, hlow⟩
    obtain ⟨p', q', r', u', after, rfl⟩ := hs.beginsWithUnit hm
    simp only [List.cons_append, List.cons.injEq, true_and] at hm
    obtain ⟨rfl, rfl, rfl, rfl, -⟩ := hm
    exact hno ⟨isHighSurrogate_iff.mp hh, _, low.val, after, rfl, unit?_eq_some.mp hl, isLowSurrogate_iff.mp hlow⟩
  | @pair _ _ t s m n c hu hh hl hlow hc _ ih =>
    obtain ⟨i, j, k, l, high, rfl, hhigh, rfl⟩ := hu.exists_eq
    obtain ⟨p, q, r, u, low, rfl, hlow', rfl⟩ := hl.exists_eq
    obtain ⟨x, after, hx⟩ : ∃ x after, t ++ .ofChar '"' :: rest = x :: after := List.exists_cons_of_ne_nil (by simp)
    have hj : joined high low = c := CodePoint.ext (by rw [val_joined hh hlow, hc])
    simp only [List.cons_append, List.nil_append]
    rw [hx] at ih ⊢
    refine (stringBody_pair hhigh (isHighSurrogate_iff.mpr hh) hlow' (isLowSurrogate_iff.mpr hlow)).trans ?_
    exact prepend_eq_ok.mpr ⟨s, ih, by rw [hj]⟩

end LiquidationDrill.Json
