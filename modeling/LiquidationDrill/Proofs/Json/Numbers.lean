import LiquidationDrill.Proofs.Json.Extension
import LiquidationDrill.Proofs.Json.Grammar

/-!
# Numbers as they are spelled

The reader of numbers takes a sign, digits, a fraction and an exponent that spell what it reads (`numeral?_sound`), and
takes as much of each as there is (`wholePart?_spelled`, `fractionPart_spelled`, `exponentPart_spelled`). So every number
is read as what it spells, or it is an integer that is too long (`numeral?_complete`), and after an integer that is read
nothing goes on with its digits (`numeral?_integer`).
-/

namespace LiquidationDrill.Json

open Text (IsRow StartsOutside)

/-! ## Parts of a number -/

section Parts

variable {t ds rest : Text}

/-- Digits are taken up to something else. -/
theorem digits_row (hd : IsRow CodePoint.isDigit ds) (hr : StartsOutside CodePoint.isDigit rest) :
    digits (ds ++ rest) = (ds, rest) := by
  rw [digits, Text.takeWhile_row hd.2 hr, Text.dropWhile_row hd.2 hr]

/-- A minus is taken if it is there. -/
theorem minus_sound (t : Text) : t = minusSign (minus t).1 ++ (minus t).2 := by
  cases t with
  | nil => rfl
  | cons c t => by_cases hc : c = '-' <;> simp [minus, hc, minusSign]

theorem minus_spelled (negative : Bool) (h : t.head? ≠ some (.ofChar '-')) :
    minus (minusSign negative ++ t) = (negative, t) := by
  cases negative with
  | true => rfl
  | false =>
    cases t with
    | nil => rfl
    | cons c t => exact if_neg fun hc => h (congrArg some hc)

theorem IsWhole.isRow (h : IsWhole ds) : IsRow CodePoint.isDigit ds := by
  rcases h with rfl | ⟨h, -⟩
  · decide
  · exact h

/-- The digits before the point, all of them unless they are a zero. -/
theorem wholePart?_sound {whole : Text} (h : wholePart? t = some (whole, rest)) :
    t = whole ++ rest ∧ IsWhole whole ∧ (whole = [.ofChar '0'] ∨ StartsOutside CodePoint.isDigit rest) := by
  obtain ⟨ht, hne, hd⟩ := wholePart?_used h
  unfold wholePart? at h
  split at h
  · cases h
  next c t =>
    split at h
    case isTrue hc =>
      cases h
      exact ⟨ht, Or.inl (congrArg (· :: []) hc), Or.inl (congrArg (· :: []) hc)⟩
    case isFalse hc =>
      split at h
      case isFalse => cases h
      case isTrue hdigit =>
        cases h
        refine ⟨ht, Or.inr ⟨⟨hne, hd⟩, ?_⟩, Or.inr (Text.startsOutside_dropWhile _ _)⟩
        rw [List.takeWhile_cons_of_pos hdigit, List.head?_cons]
        exact fun he => hc (Option.some.inj he)

theorem wholePart?_spelled {whole : Text} (hw : IsWhole whole) (hr : StartsOutside CodePoint.isDigit rest) :
    wholePart? (whole ++ rest) = some (whole, rest) := by
  rcases hw with rfl | ⟨hrow, h0⟩
  · rfl
  · have hd := digits_row hrow hr
    obtain ⟨c, whole, rfl⟩ := List.exists_cons_of_ne_nil hrow.1
    rw [List.cons_append] at hd ⊢
    rw [wholePart?, if_neg fun hc => h0 (congrArg some hc), if_pos (hrow.2 c List.mem_cons_self), hd]

theorem fractionPart_sound (t : Text) :
    ∃ fraction, t = fraction ++ (fractionPart t).2 ∧ SpellsFraction fraction (fractionPart t).1 := by
  unfold fractionPart
  split
  case h_2 => exact ⟨[], rfl, .absent⟩
  next c d t =>
    split
    case isFalse => exact ⟨[], rfl, .absent⟩
    case isTrue h =>
      obtain ⟨rfl, hd⟩ := h
      refine ⟨'.' :: (digits (d :: t)).1, ?_, .digits ⟨?_, fun c hc => ?_⟩⟩
      · simp [digits]
      · simp [digits, hd]
      · exact List.all_eq_true.mp List.all_takeWhile c hc

theorem fractionPart_digits (hd : IsRow CodePoint.isDigit ds) (hr : StartsOutside CodePoint.isDigit rest) :
    fractionPart (.ofChar '.' :: (ds ++ rest)) = (ds, rest) := by
  have hrow := digits_row hd hr
  obtain ⟨d, ds, rfl⟩ := List.exists_cons_of_ne_nil hd.1
  rw [List.cons_append] at hrow ⊢
  rw [fractionPart, if_pos ⟨rfl, hd.2 d List.mem_cons_self⟩, hrow]

theorem fractionPart_absent (h : t.head? ≠ some (.ofChar '.')) : fractionPart t = ([], t) := by
  match t with
  | [] | [_] => rfl
  | c :: d :: t => exact if_neg fun hc => h (congrArg some hc.1)

/-- A fraction is taken before what is neither a digit nor a point. -/
theorem fractionPart_spelled {fraction : Text} (hf : SpellsFraction fraction ds)
    (hr : StartsOutside CodePoint.isDigit rest) (hp : rest.head? ≠ some (.ofChar '.')) :
    fractionPart (fraction ++ rest) = (ds, rest) := by
  cases hf with
  | absent => exact fractionPart_absent hp
  | digits hd => exact fractionPart_digits hd hr

/-- What the exponent of a number is. -/
def shift : Option (Bool × Text) → Int
  | none => 0
  | some (negative, ds) => signed negative (ofDigits ds)

theorem sign_sound (t : Text) : ∃ mark, t = mark ++ (sign t).2 ∧ SpellsSign mark (sign t).1 := by
  cases t with
  | nil => exact ⟨[], rfl, .absent⟩
  | cons c t =>
    rw [sign]
    split
    case isTrue hc => exact ⟨['-'], by rw [hc]; rfl, .minus⟩
    case isFalse =>
      split
      case isTrue hc => exact ⟨['+'], by rw [hc]; rfl, .plus⟩
      case isFalse => exact ⟨[], rfl, .absent⟩

theorem sign_spelled {mark : Text} {negative : Bool} (hm : SpellsSign mark negative)
    (hd : IsRow CodePoint.isDigit ds) : sign (mark ++ (ds ++ rest)) = (negative, ds ++ rest) := by
  cases hm with
  | plus | minus => rfl
  | absent =>
    obtain ⟨d, ds, rfl⟩ := List.exists_cons_of_ne_nil hd.1
    have hdigit := hd.2 d List.mem_cons_self
    have hne (c : CodePoint) (hc : c.isDigit = false) : d ≠ c := by
      rintro rfl
      rw [hdigit] at hc
      cases hc
    rw [List.nil_append, List.cons_append, sign, if_neg (hne _ (by decide)), if_neg (hne _ (by decide))]

theorem exponentPart_sound (t : Text) : ∃ exponent, t = exponent ++ (exponentPart t).2 ∧
    SpellsExponent exponent (shift (exponentPart t).1) ∧ (exponent = [] ↔ (exponentPart t).1 = none) := by
  have habsent {t : Text} : ∃ exponent, t = exponent ++ t ∧ SpellsExponent exponent (shift none) ∧
      (exponent = [] ↔ (none : Option (Bool × Text)) = none) := ⟨[], rfl, .absent, iff_of_true rfl rfl⟩
  cases t with
  | nil => exact habsent
  | cons c t =>
    obtain ⟨mark, ht, hmark⟩ := sign_sound t
    rw [exponentPart]
    split
    case isFalse => exact habsent
    case isTrue hc =>
      dsimp only
      split
      · exact habsent
      next ds rest hne hds =>
        obtain ⟨rfl, rfl⟩ := Prod.mk.inj hds
        have hrow : IsRow CodePoint.isDigit ((sign t).2.takeWhile CodePoint.isDigit) :=
          ⟨hne, fun c hc => List.all_eq_true.mp List.all_takeWhile c hc⟩
        refine ⟨_, ?_, .digits hc hmark hrow, iff_of_false (List.cons_ne_nil _ _) (Option.some_ne_none _)⟩
        rw [List.cons_append, List.append_assoc, List.takeWhile_append_dropWhile, ← ht]

theorem exponentPart_digits {mark : CodePoint} {plusMinus : Text} {negative : Bool} (hm : mark = 'e' ∨ mark = 'E')
    (hs : SpellsSign plusMinus negative) (hd : IsRow CodePoint.isDigit ds)
    (hr : StartsOutside CodePoint.isDigit rest) :
    exponentPart (mark :: (plusMinus ++ (ds ++ rest))) = (some (negative, ds), rest) := by
  have hrow := digits_row hd hr
  obtain ⟨d, ds, rfl⟩ := List.exists_cons_of_ne_nil hd.1
  simp only [exponentPart, if_pos hm, sign_spelled hs hd, hrow]

/-- An exponent is taken at the end of a text. -/
theorem exponentPart_spelled {exponent : Text} {e : Int} (he : SpellsExponent exponent e) :
    ∃ parts, exponentPart exponent = (parts, []) ∧ shift parts = e ∧ (exponent = [] ↔ parts = none) := by
  cases he with
  | absent => exact ⟨none, rfl, rfl, iff_of_true rfl rfl⟩
  | @digits mark plusMinus ds negative hm hs hd =>
    have hp := exponentPart_digits hm hs hd (Text.startsOutside_nil _)
    rw [List.append_nil] at hp
    exact ⟨_, hp, rfl, iff_of_false (List.cons_ne_nil _ _) (Option.some_ne_none _)⟩

end Parts

/-! ## Whole numbers and others -/

theorem SpellsFraction.eq_nil_iff {fraction ds : Text} (h : SpellsFraction fraction ds) : fraction = [] ↔ ds = [] := by
  cases h with
  | absent => exact iff_of_true rfl rfl
  | digits hd => exact iff_of_false (List.cons_ne_nil _ _) hd.1

/-- The text goes on with the digits before it: with a digit, a fraction or an exponent. -/
def GoesOn (t : Text) : Prop :=
  ∃ part rest, t = part ++ rest ∧ part ≠ [] ∧
    (IsRow CodePoint.isDigit part ∨ (∃ ds, SpellsFraction part ds) ∨ ∃ e, SpellsExponent part e)

variable {t rest : Text}

/-- A row of digits and the digits that follow it are one. -/
theorem exists_row {ds : Text} (hd : IsRow CodePoint.isDigit ds) (rest : Text) :
    ∃ ds' rest', ds ++ rest = ds' ++ rest' ∧ IsRow CodePoint.isDigit ds' ∧ StartsOutside CodePoint.isDigit rest' := by
  refine ⟨ds ++ rest.takeWhile CodePoint.isDigit, rest.dropWhile CodePoint.isDigit, ?_, ⟨?_, ?_⟩,
    Text.startsOutside_dropWhile _ rest⟩
  · rw [List.append_assoc, List.takeWhile_append_dropWhile]
  · exact List.append_ne_nil_of_left_ne_nil hd.1 _
  · exact List.forall_mem_append.mpr ⟨hd.2, fun c hc => List.all_eq_true.mp List.all_takeWhile c hc⟩

/-- What has neither digits, nor a fraction, nor an exponent for the reader does not go on. -/
theorem not_goesOn (hd : StartsOutside CodePoint.isDigit t) (hf : (fractionPart t).1 = [])
    (he : (exponentPart t).1 = none) : ¬GoesOn t := by
  rintro ⟨part, rest, rfl, hne, hrow | ⟨ds, hfraction⟩ | ⟨e, hexponent⟩⟩
  · obtain ⟨c, part, rfl⟩ := List.exists_cons_of_ne_nil hne
    have hc := hd c rfl
    rw [hrow.2 c List.mem_cons_self] at hc
    cases hc
  · cases hfraction with
    | absent => exact hne rfl
    | digits hrow =>
      obtain ⟨ds', rest', hds, hrow', hrest'⟩ := exists_row hrow rest
      rw [List.cons_append, hds, fractionPart_digits hrow' hrest'] at hf
      exact hrow'.1 hf
  · cases hexponent with
    | absent => exact hne rfl
    | digits hm hs hrow =>
      obtain ⟨ds', rest', hds, hrow', hrest'⟩ := exists_row hrow rest
      rw [List.cons_append, List.append_assoc, hds, exponentPart_digits hm hs hrow' hrest'] at he
      cases he

/-- What a number with a fraction or an exponent is, and any other. -/
theorem Numeral.number_eq (n : Numeral) : n.number =
    if n.fraction = [] ∧ n.exponent = none then
      if Text.maxDigits < n.whole.length then .error (.beyond (.integerTooLong n.whole.length))
      else .ok (.int (signed n.negative (ofDigits n.whole)))
    else
      .ok (.float (.ofDecimal n.negative (ofDigits (n.whole ++ n.fraction))
        (shift n.exponent - n.fraction.length))) := by
  obtain ⟨negative, whole, fraction, exponent⟩ := n
  rcases fraction with _ | ⟨c, fraction⟩ <;> rcases exponent with _ | ⟨negative', ds⟩ <;> rfl

/-- **An integer is read with all its digits.** -/
theorem numeral?_integer {n : Numeral} (h : numeral? t = some (n, rest)) (hf : n.fraction = [])
    (he : n.exponent = none) : t = minusSign n.negative ++ (n.whole ++ rest) ∧ IsWhole n.whole ∧
      (n.whole = [.ofChar '0'] ∨ ¬GoesOn rest) := by
  obtain ⟨whole, after, hw, rfl, rfl⟩ := numeral?_eq_some.mp h
  obtain ⟨ha, hwhole, hmax⟩ := wholePart?_sound hw
  obtain ⟨fraction, hfraction, hspelled⟩ := fractionPart_sound after
  obtain ⟨exponent, hexponent, -, hnone⟩ := exponentPart_sound (fractionPart after).2
  obtain rfl := hspelled.eq_nil_iff.mpr hf
  obtain rfl := hnone.mpr he
  rw [List.nil_append] at hfraction hexponent
  rw [← hexponent, ← hfraction, ← ha]
  refine ⟨minus_sound t, hwhole, hmax.imp_right fun hd => not_goesOn hd hf ?_⟩
  rw [hfraction]
  exact he

/-- **A number that is read is spelled.** -/
theorem numeral?_sound {n : Numeral} {x : Number} (h : numeral? t = some (n, rest)) (hx : n.number = .ok x) :
    ∃ used, t = used ++ rest ∧ SpellsNumber used x := by
  rw [Numeral.number_eq] at hx
  split at hx
  case isTrue hint =>
    obtain ⟨ht, hwhole, -⟩ := numeral?_integer h hint.1 hint.2
    split at hx
    case isTrue => cases hx
    case isFalse =>
      cases hx
      exact ⟨_, by rw [List.append_assoc, ← ht], .int hwhole⟩
  case isFalse hfloat =>
    cases hx
    obtain ⟨whole, after, hw, rfl, rfl⟩ := numeral?_eq_some.mp h
    obtain ⟨ha, hwhole, -⟩ := wholePart?_sound hw
    obtain ⟨fraction, hf, hfraction⟩ := fractionPart_sound after
    obtain ⟨exponent, he, hexponent, hnone⟩ := exponentPart_sound (fractionPart after).2
    refine ⟨_, ?_, .float hwhole hfraction hexponent (fun hnil => hfloat ?_) (Double.ofDecimal_isNearest _ _ _)⟩
    · simp only [List.append_assoc]
      rw [← he, ← hf, ← ha]
      exact minus_sound t
    · obtain ⟨rfl, rfl⟩ := List.append_eq_nil_iff.mp hnil
      exact ⟨hfraction.eq_nil_iff.mp rfl, hnone.mp rfl⟩

/-- An exponent begins with its letter. -/
theorem SpellsExponent.head_eq {exponent : Text} {e : Int} (he : SpellsExponent exponent e) {c : CodePoint}
    (hc : exponent.head? = some c) : c = 'e' ∨ c = 'E' := by
  cases he with
  | absent => cases hc
  | digits hm => exact Option.some.inj hc ▸ hm

/-- A fraction and an exponent begin with no digit. -/
theorem startsOutside_fraction {fraction exponent ds : Text} {e : Int} (hf : SpellsFraction fraction ds)
    (he : SpellsExponent exponent e) : StartsOutside CodePoint.isDigit (fraction ++ exponent) := by
  intro c hc
  cases hf with
  | digits => exact Option.some.inj hc ▸ (by decide)
  | absent => rcases he.head_eq hc with rfl | rfl <;> decide

/-- **A number is read as its parts**, the last of which ends with it. -/
theorem numeral?_complete {x : Number} (h : SpellsNumber t x) :
    ∃ n, numeral? t = some (n, []) ∧ (n.number = .ok x ∨ ∃ limit, n.number = .error (.beyond limit)) := by
  have hminus {whole : Text} (hw : IsWhole whole) (more : Text) : (whole ++ more).head? ≠ some (.ofChar '-') := by
    obtain ⟨hne, hd⟩ := hw.isRow
    obtain ⟨c, whole, rfl⟩ := List.exists_cons_of_ne_nil hne
    intro hc
    have hdigit := hd c List.mem_cons_self
    rw [Option.some.inj hc] at hdigit
    exact absurd hdigit (by decide)
  cases h with
  | @int negative whole hw =>
    have hm := minus_spelled negative (hminus hw [])
    have hp := wholePart?_spelled hw (Text.startsOutside_nil _)
    rw [List.append_nil] at hm hp
    refine ⟨⟨negative, whole, [], none⟩, numeral?_eq_some.mpr ⟨whole, [], by rw [hm, hp], by rw [hm]; rfl, rfl⟩, ?_⟩
    rw [Numeral.number_eq, if_pos ⟨rfl, rfl⟩]
    split
    case isTrue => exact Or.inr ⟨_, rfl⟩
    case isFalse => exact Or.inl rfl
  | @float negative whole fraction exponent ds e x hw hf he hne hx =>
    obtain rfl := hx.unique (Double.ofDecimal_isNearest negative _ _)
    have hm := minus_spelled negative (hminus hw (fraction ++ exponent))
    have hp := wholePart?_spelled hw (startsOutside_fraction hf he)
    have hfrac : fractionPart (fraction ++ exponent) = (ds, exponent) := by
      refine fractionPart_spelled hf (startsOutside_fraction .absent he) fun hc => ?_
      rcases he.head_eq hc with hc | hc <;> exact absurd hc (by decide)
    obtain ⟨parts, hparts, rfl, hnone⟩ := exponentPart_spelled he
    refine ⟨⟨negative, whole, ds, parts⟩, numeral?_eq_some.mpr ⟨whole, fraction ++ exponent, by rw [hm, hp], ?_, ?_⟩,
      Or.inl ?_⟩
    · rw [hm, hfrac, hparts]
    · rw [hfrac, hparts]
    · rw [Numeral.number_eq, if_neg]
      rintro ⟨hds, hparts⟩
      exact hne (by rw [hf.eq_nil_iff.mpr hds, hnone.mpr hparts]; rfl)

end LiquidationDrill.Json
