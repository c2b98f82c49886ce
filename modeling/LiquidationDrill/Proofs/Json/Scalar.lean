import LiquidationDrill.Json.Reader
import LiquidationDrill.Proofs.Result

/-!
# Numbers and names in JSON

The readers of the parts of a number take code points of numbers only, and take the same whatever comes after them,
as long as it cannot continue a number (`IsPart`). So do `numeral?` (`numeral?_used`, `numeral?_append`) and `scalar`
(`scalar_append`); the names of values are told apart by their first code points (`named?_eq_some`).
-/

namespace LiquidationDrill.Json

/-- Stands in a number. -/
def IsNumeric (c : CodePoint) : Prop :=
  c.isDigit = true ∨ c = '-' ∨ c = '+' ∨ c = '.' ∨ c = 'e' ∨ c = 'E'

instance : DecidablePred IsNumeric := fun c => inferInstanceAs (Decidable (c.isDigit = true ∨ _))

/-- The text does not go on with a number. -/
def Foreign (t : Text) : Prop := ∀ c, t.head? = some c → ¬IsNumeric c

/-- Reads a part of a number: what it takes stands in numbers, and what cannot continue them is left. -/
structure IsPart {α : Type} (part : Text → α × Text) : Prop where
  used : ∀ t, ∃ used, t = used ++ (part t).2 ∧ ∀ c ∈ used, IsNumeric c
  append : ∀ t more, Foreign more → part (t ++ more) = ((part t).1, (part t).2 ++ more)

variable {t rest more : Text}

/-- A digit is no foreign code point. -/
theorem Foreign.not_digit {c : CodePoint} {t : Text} (h : Foreign (c :: t)) : c.isDigit = false :=
  Bool.eq_false_iff.mpr fun hd => h c rfl (Or.inl hd)

/-- Digits end where a text goes on with something foreign. -/
theorem digits_append (t : Text) (h : Foreign more) : digits (t ++ more) = ((digits t).1, (digits t).2 ++ more) := by
  induction t with
  | nil =>
    cases more with
    | nil => rfl
    | cons c more => simp [digits, h.not_digit]
  | cons c t ih =>
    simp only [digits, Prod.mk.injEq] at ih
    cases hc : c.isDigit with
    | true => simp [digits, hc, ih.1, ih.2]
    | false => simp [digits, hc]

theorem digits_isPart : IsPart digits where
  used t := ⟨t.takeWhile CodePoint.isDigit, List.takeWhile_append_dropWhile.symm, fun c hc =>
    Or.inl (List.all_eq_true.mp List.all_takeWhile c hc)⟩
  append t _ h := digits_append t h

theorem minus_isPart : IsPart minus where
  used t := by
    cases t with
    | nil => exact ⟨[], rfl, by simp⟩
    | cons c t =>
      by_cases hc : c = '-'
      · exact ⟨[c], by simp [minus, hc], by simp [IsNumeric, hc]⟩
      · exact ⟨[], by simp [minus, hc], by simp⟩
  append t more h := by
    cases t with
    | nil =>
      cases more with
      | nil => rfl
      | cons c more =>
        have hc : c ≠ '-' := fun e => h c rfl (Or.inr (Or.inl e))
        simp [minus, hc]
    | cons c t => by_cases hc : c = '-' <;> simp [minus, hc]

theorem sign_isPart : IsPart sign where
  used t := by
    cases t with
    | nil => exact ⟨[], rfl, by simp⟩
    | cons c t =>
      by_cases hm : c = '-'
      · exact ⟨[c], by simp [sign, hm], by simp [IsNumeric, hm]⟩
      · by_cases hp : c = '+'
        · exact ⟨[c], by simp [sign, hp], by simp [IsNumeric, hp]⟩
        · exact ⟨[], by simp [sign, hm, hp], by simp⟩
  append t more h := by
    cases t with
    | nil =>
      cases more with
      | nil => rfl
      | cons c more =>
        have hm : c ≠ '-' := fun e => h c rfl (Or.inr (Or.inl e))
        have hp : c ≠ '+' := fun e => h c rfl (Or.inr (Or.inr (Or.inl e)))
        simp [sign, hm, hp]
    | cons c t =>
      by_cases hm : c = '-'
      · simp [sign, hm]
      · by_cases hp : c = '+'
        · simp [sign, hp]
        · simp [sign, hm, hp]

theorem fractionPart_isPart : IsPart fractionPart where
  used t := by
    unfold fractionPart
    split
    case h_1 c d t =>
      split
      case isTrue h =>
        obtain ⟨used, hu, hn⟩ := digits_isPart.used (d :: t)
        refine ⟨c :: used, by rw [List.cons_append, ← hu], List.forall_mem_cons.mpr ⟨?_, hn⟩⟩
        exact Or.inr (Or.inr (Or.inr (Or.inl h.1)))
      case isFalse => exact ⟨[], rfl, by simp⟩
    case h_2 => exact ⟨[], rfl, by simp⟩
  append t more h := by
    match t with
    | [] =>
      match more with
      | [] | [_] => rfl
      | c :: d :: more =>
        have hc : c ≠ '.' := fun e => h c rfl (Or.inr (Or.inr (Or.inr (Or.inl e))))
        simp [fractionPart, hc]
    | [c] =>
      match more with
      | [] => rfl
      | d :: more => simp [fractionPart, h.not_digit]
    | c :: d :: t =>
      have hd := digits_isPart.append (d :: t) more h
      rw [List.cons_append] at hd
      by_cases hc : c = '.' ∧ d.isDigit = true
      · simp only [fractionPart, List.cons_append, if_pos hc, hd]
      · simp only [fractionPart, List.cons_append, if_neg hc]

theorem exponentPart_isPart : IsPart exponentPart where
  used t := by
    cases t with
    | nil => exact ⟨[], rfl, by simp⟩
    | cons c t =>
      obtain ⟨used, hu, hn⟩ := sign_isPart.used t
      obtain ⟨used', hu', hn'⟩ := digits_isPart.used (sign t).2
      by_cases hc : c = 'e' ∨ c = 'E'
      · simp only [exponentPart, if_pos hc]
        split
        · exact ⟨[], rfl, by simp⟩
        next ds rest hd =>
          rw [hd] at hu'
          refine ⟨c :: used ++ used', by simp [← hu', ← hu], fun d hd => ?_⟩
          simp only [List.cons_append, List.mem_cons, List.mem_append] at hd
          rcases hd with rfl | hd | hd
          · exact Or.inr (Or.inr (Or.inr (Or.inr hc)))
          · exact hn d hd
          · exact hn' d hd
      · exact ⟨[], by simp [exponentPart, hc], by simp⟩
  append t more h := by
    cases t with
    | nil =>
      cases more with
      | nil => rfl
      | cons c more =>
        have hc : ¬(c = 'e' ∨ c = 'E') := fun e => h c rfl (Or.inr (Or.inr (Or.inr (Or.inr e))))
        simp [exponentPart, hc]
    | cons c t =>
      by_cases hc : c = 'e' ∨ c = 'E'
      · have hs := sign_isPart.append t more h
        have hd := digits_isPart.append (sign t).2 more h
        rcases hq : digits (sign t).2 with ⟨ds, rest⟩
        rw [hq] at hd
        simp only [exponentPart, List.cons_append, if_pos hc, hs, hd, hq]
        cases ds <;> rfl
      · simp [exponentPart, hc]

/-- The digits before the point are digits, and at least one. -/
theorem wholePart?_used {whole : Text} (h : wholePart? t = some (whole, rest)) :
    t = whole ++ rest ∧ whole ≠ [] ∧ ∀ c ∈ whole, c.isDigit = true := by
  unfold wholePart? at h
  split at h
  · cases h
  next c t =>
    split at h
    case isTrue hc =>
      cases h
      exact ⟨rfl, by simp, by simp [hc, show (CodePoint.ofChar '0').isDigit = true by decide]⟩
    case isFalse hc =>
      split at h
      case isFalse => cases h
      case isTrue hd =>
        cases h
        refine ⟨List.takeWhile_append_dropWhile.symm, by simp [hd], ?_⟩
        exact fun e he => List.all_eq_true.mp List.all_takeWhile e he

/-- The digits before the point end where a text goes on with something foreign. -/
theorem wholePart?_append {whole : Text} (h : wholePart? t = some (whole, rest)) (hm : Foreign more) :
    wholePart? (t ++ more) = some (whole, rest ++ more) := by
  unfold wholePart? at h
  split at h
  · cases h
  next c t =>
    split at h
    case isTrue hc =>
      cases h
      exact if_pos hc
    case isFalse hc =>
      split at h
      case isFalse => cases h
      case isTrue hd =>
        have ha := digits_append (c :: t) hm
        cases h
        rw [List.cons_append] at ha
        rw [List.cons_append, wholePart?, if_neg hc, if_pos hd, ha]
        rfl

/-- A number that is read, by its parts. -/
theorem numeral?_eq_some {n : Numeral} :
    numeral? t = some (n, rest) ↔ ∃ whole after, wholePart? (minus t).2 = some (whole, after) ∧
      n = ⟨(minus t).1, whole, (fractionPart after).1, (exponentPart (fractionPart after).2).1⟩ ∧
      rest = (exponentPart (fractionPart after).2).2 := by
  unfold numeral?
  dsimp only
  constructor
  · intro h
    split at h
    · cases h
    next whole after hw =>
      cases h
      exact ⟨whole, after, hw, rfl, rfl⟩
  · rintro ⟨whole, after, hw, rfl, rfl⟩
    rw [hw]

/-- A number takes code points of numbers, among them the digits before its point. -/
theorem numeral?_used {n : Numeral} (h : numeral? t = some (n, rest)) :
    ∃ used, t = used ++ rest ∧ used ≠ [] ∧ (∀ c ∈ used, IsNumeric c) ∧ n.whole <:+: t ∧
      ∀ c ∈ n.whole, c.isDigit = true := by
  obtain ⟨whole, after, hw, rfl, rfl⟩ := numeral?_eq_some.mp h
  obtain ⟨m, hm, hm'⟩ := minus_isPart.used t
  obtain ⟨hw, hne, hw'⟩ := wholePart?_used hw
  obtain ⟨f, hf, hf'⟩ := fractionPart_isPart.used after
  obtain ⟨e, he, he'⟩ := exponentPart_isPart.used (fractionPart after).2
  refine ⟨m ++ whole ++ f ++ e, ?_, by simp [hne], fun c hc => ?_, ⟨m, after, ?_⟩, hw'⟩
  · rw [List.append_assoc, ← he, List.append_assoc, ← hf, List.append_assoc, ← hw, ← hm]
  · simp only [List.mem_append] at hc
    rcases hc with ((hc | hc) | hc) | hc
    · exact hm' c hc
    · exact Or.inl (hw' c hc)
    · exact hf' c hc
    · exact he' c hc
  · rw [List.append_assoc, ← hw, ← hm]

/-- A number ends where a text goes on with something foreign. -/
theorem numeral?_append {n : Numeral} (h : numeral? t = some (n, rest)) (hm : Foreign more) :
    numeral? (t ++ more) = some (n, rest ++ more) := by
  obtain ⟨whole, after, hw, rfl, rfl⟩ := numeral?_eq_some.mp h
  refine numeral?_eq_some.mpr ⟨whole, after ++ more, ?_, ?_, ?_⟩
  · rw [minus_isPart.append t more hm]
    exact wholePart?_append hw hm
  · rw [minus_isPart.append t more hm, fractionPart_isPart.append after more hm,
      exponentPart_isPart.append _ more hm]
  · rw [fractionPart_isPart.append after more hm, exponentPart_isPart.append _ more hm]

/-! ## Names -/

/-- The first code points of the names tell them apart. -/
theorem named?_eq_some {x : Value} : named? t = some (x, rest) ↔ ∃ name, (name, x) ∈ names ∧ t = name ++ rest := by
  constructor
  · intro h
    obtain ⟨⟨name, y⟩, hn, h⟩ := List.exists_of_findSome?_eq_some h
    obtain ⟨rest', hd, h⟩ := Option.map_eq_some_iff.mp h
    cases h
    exact ⟨name, hn, Text.dropStart?_eq_some.mp hd⟩
  · rintro ⟨name, hn, rfl⟩
    simp only [names, List.mem_cons, Prod.mk.injEq, List.not_mem_nil, or_false] at hn
    rcases hn with ⟨rfl, rfl⟩ | ⟨rfl, rfl⟩ | ⟨rfl, rfl⟩ | ⟨rfl, rfl⟩ | ⟨rfl, rfl⟩ | ⟨rfl, rfl⟩ <;>
      simp [named?, names, Text.ofString, Text.dropStart?, List.findSome?]

end LiquidationDrill.Json
