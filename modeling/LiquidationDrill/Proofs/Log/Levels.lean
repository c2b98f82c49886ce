import LiquidationDrill.Log.Record
import LiquidationDrill.Proofs.Text.Numeral
import LiquidationDrill.Proofs.Text.Rows

/-!
# What names a level

A level is named by strings only (`Record.levelOf?_eq_some`), although every value is looked at as text: no text of
another value has the name of a level in upper case. Numbers begin with a digit or a minus, unless they are none or
infinite (`Number.text_head`); bytes, arrays and objects begin with a mark of their own; and the names of null and of
the truth values are no level's.
-/

namespace LiquidationDrill

/-! ## Texts of numbers -/

/-- The text begins with a digit or a minus. -/
def BeginsAsNumber (t : Text) : Prop := ∃ c t', t = c :: t' ∧ (c.isDigit = true ∨ c = '-')

namespace BeginsAsNumber

variable {t : Text}

theorem of_row (h : Text.IsRow CodePoint.isDigit t) (more : Text) : BeginsAsNumber (t ++ more) := by
  obtain ⟨c, t, rfl⟩ := List.exists_cons_of_ne_nil h.1
  exact ⟨c, t ++ more, rfl, Or.inl (h.2 c List.mem_cons_self)⟩

/-- A minus may stand before it. -/
theorem minus_if (h : BeginsAsNumber t) (p : Prop) [Decidable p] :
    BeginsAsNumber ((if p then ("-" : Text) else []) ++ t) := by
  split
  · exact ⟨'-', t, rfl, Or.inr rfl⟩
  · exact h

end BeginsAsNumber

theorem Text.ofNat_isRow (n : Nat) : IsRow CodePoint.isDigit (ofNat n) := by
  refine ⟨fun hnil => ?_, ofNat_isDigit n⟩
  rcases head_ofNat n with ⟨-, h⟩ | ⟨c, t, h, -⟩ <;> rw [hnil] at h <;> cases h

namespace Double

/-- Digits without the zeros at their end are still digits, and at least one. -/
theorem normal_isRow (x : Decimal) : Text.IsRow CodePoint.isDigit x.normal.1 := by
  simp only [Decimal.normal]
  split
  case isTrue => decide
  case isFalse hne =>
    refine ⟨fun hnil => hne (by rw [hnil]; rfl), fun c hc => Text.ofNat_isDigit x.digits c ?_⟩
    exact List.mem_reverse.mp (List.dropWhile_subset _ (List.mem_reverse.mp hc))

section Formats

variable {digits : Text} (h : Text.IsRow CodePoint.isDigit digits) (lead : Int)
include h

theorem positional_head : BeginsAsNumber (positional digits lead) := by
  obtain ⟨c, digits, rfl⟩ := List.exists_cons_of_ne_nil h.1
  unfold positional
  split
  · exact ⟨'0', _, rfl, Or.inl (by decide)⟩
  · exact ⟨c, _, rfl, Or.inl (h.2 c List.mem_cons_self)⟩

theorem scientific_head (format : DecimalFormat) : BeginsAsNumber (scientific format digits lead) := by
  obtain ⟨c, digits, rfl⟩ := List.exists_cons_of_ne_nil h.1
  exact ⟨c, _, rfl, Or.inl (h.2 c List.mem_cons_self)⟩

end Formats

/-- A double is shown as a number, or it is none or infinite. -/
theorem text_head (x : Double) : BeginsAsNumber x.text ∨ x.text = "nan" ∨ x.text = "inf" := by
  unfold text textIn
  split
  · exact Or.inr (Or.inl rfl)
  · exact Or.inr (Or.inr rfl)
  · exact Or.inl ⟨'-', _, rfl, Or.inr rfl⟩
  · exact Or.inl ⟨'-', _, rfl, Or.inr rfl⟩
  next value =>
    left
    dsimp only
    split
    · exact ⟨'0', _, rfl, Or.inl (by decide)⟩
    · refine .minus_if ?_ _
      unfold decimalText
      split
      · exact positional_head (normal_isRow _) _
      · exact scientific_head (normal_isRow _) _ _

end Double

theorem Number.text_head (n : Number) : BeginsAsNumber n.text ∨ n.text = "nan" ∨ n.text = "inf" := by
  cases n with
  | int n =>
    have hrow := BeginsAsNumber.of_row (Text.ofNat_isRow n.natAbs) []
    rw [List.append_nil] at hrow
    left
    change BeginsAsNumber (Text.ofInt n)
    rw [Text.ofInt]
    split
    · exact ⟨'-', _, rfl, Or.inr rfl⟩
    · exact hrow
  | float x => exact x.text_head

/-! ## Levels -/

namespace Log.Record

/-- A text is no level's name in any case if it does not begin like one. -/
theorem ofName?_upper_eq_none {c d : CodePoint} (hc : c.toUpper = [d])
    (hd : ∀ level ∈ Level.all, level.name.head? ≠ some d) (t : Text) : Level.ofName? (Text.upper (c :: t)) = none := by
  rw [Option.eq_none_iff_forall_ne_some]
  intro level hl
  have hname := Level.ofName?_eq_some.mp hl
  refine hd level level.mem_all ?_
  rw [← hname, Text.upper, List.flatMap_cons, hc]
  rfl

/-- The text of a number is no level's name. -/
theorem ofName?_number (n : Number) : Level.ofName? n.text.upper = none := by
  have hbelow : ∀ k < 0x3A, (CodePoint.ofNat k).toUpper = [CodePoint.ofNat k] ∧
      ∀ level ∈ Level.all, level.name.head? ≠ some (CodePoint.ofNat k) := by decide +kernel
  rcases n.text_head with ⟨c, t, ht, hc⟩ | ht | ht
  · have hv : c.val < 0x3A := by
      rcases hc with hc | rfl
      · simp only [CodePoint.isDigit, Bool.and_eq_true, decide_eq_true_eq] at hc
        omega
      · decide
    have hk := hbelow c.val hv
    rw [show CodePoint.ofNat c.val = c from CodePoint.ext (CodePoint.val_ofNat c.val_lt)] at hk
    rw [ht]
    exact ofName?_upper_eq_none hk.1 hk.2 t
  · rw [ht]
    decide +kernel
  · rw [ht]
    decide +kernel

/-- No other value than a string names a level. -/
theorem levelOf?_eq_none_of_ne_string {value : Value} (h : ∀ t, value ≠ .string t) : levelOf? value = none := by
  cases value with
  | string t => exact absurd rfl (h t)
  | null => decide +kernel
  | bool b => cases b <;> decide +kernel
  | number n => exact ofName?_number n
  | bytes bs => exact ofName?_upper_eq_none (d := 'B') (by decide +kernel) (by decide +kernel) _
  | array items => exact ofName?_upper_eq_none (d := '[') (by decide +kernel) (by decide +kernel) _
  | object members => exact ofName?_upper_eq_none (d := '\x7b') (by decide +kernel) (by decide +kernel) _

/-- The value is the name of the level, in any case. -/
def NamesLevel (value : Value) (level : Level) : Prop := ∃ name, value = .string name ∧ name.upper = level.name

/-- **Only strings name levels.** -/
theorem levelOf?_eq_some {value : Value} {level : Level} : levelOf? value = some level ↔ NamesLevel value level := by
  constructor
  · intro h
    by_cases hs : ∃ t, value = .string t
    · obtain ⟨name, rfl⟩ := hs
      exact ⟨name, rfl, Level.ofName?_eq_some.mp h⟩
    · rw [levelOf?_eq_none_of_ne_string fun t ht => hs ⟨t, ht⟩] at h
      cases h
  · rintro ⟨name, rfl, hn⟩
    exact Level.ofName?_eq_some.mpr hn

theorem levelOf?_eq_none {value : Value} : levelOf? value = none ↔ ∀ level, ¬NamesLevel value level := by
  simp only [Option.eq_none_iff_forall_ne_some, ne_eq, levelOf?_eq_some]

end Log.Record

end LiquidationDrill
