import LiquidationDrill.Json.Reader
import Mathlib.Data.Nat.Digits.Defs

/-!
# Numerals are read back

A numeral has one digit for a number below its base, and otherwise its last digit after the numeral of what is left
(`Text.numeral_of_lt`, `Text.numeral_of_le`). By induction along these two: a decimal numeral spells its number
(`Text.ofDigits_ofNat`), in digits of ASCII of which the first is no zero (`Text.ofNat_isDigit`, `Text.head_ofNat`).
In base sixteen numbers have four digits where four are asked for (`Text.hexPadded_four`), and bytes that are written
in two digits each are read back (`Text.bytes?_hexBytes`).
-/

namespace LiquidationDrill

/-! ## Digits -/

namespace CodePoint

/-- A digit has its value in sixteen. -/
theorem hex?_ofDigit {d : Nat} (h : d < 16) : (ofDigit d).hex? = some d := by
  have hall : ∀ d < 16, (ofDigit d).hex? = some d := by decide
  exact hall d h

theorem val_ofDigit {d : Nat} (h : d < 10) : (ofDigit d).val = 0x30 + d := by
  rw [ofDigit, if_pos h, val_ofNat (by omega)]

/-- A digit below ten is a digit of ASCII. -/
theorem isDigit_ofDigit {d : Nat} (h : d < 10) : (ofDigit d).isDigit = true := by
  rw [isDigit, val_ofDigit h, Bool.and_eq_true, decide_eq_true_eq, decide_eq_true_eq]
  omega

theorem digit_ofDigit {d : Nat} (h : d < 10) : (ofDigit d).digit = d := by
  rw [digit, val_ofDigit h]
  omega

end CodePoint

namespace Text

/-! ## Numerals -/

/-- Enough fuel gives all digits. -/
theorem digitsRev_eq {base : Nat} (hb : 1 < base) {fuel n : Nat} (h : n < 2 ^ fuel) :
    digitsRev base fuel n = Nat.digits base n := by
  induction fuel generalizing n with
  | zero =>
    obtain rfl : n = 0 := by omega
    rw [digitsRev, Nat.digits_zero]
  | succ fuel ih =>
    rw [digitsRev]
    by_cases hn : n = 0
    · rw [if_pos hn, hn, Nat.digits_zero]
    · have hdiv : n / base < 2 ^ fuel := by
        have h1 : n / base ≤ n / 2 := Nat.div_le_div_left hb (by decide)
        have h2 : n / 2 < 2 ^ fuel := Nat.div_lt_of_lt_mul (by rwa [← Nat.pow_succ'])
        exact Nat.lt_of_le_of_lt h1 h2
      rw [if_neg hn, ih hdiv, Nat.digits_def' hb (Nat.pos_of_ne_zero hn)]

/-- Its digits are counted. -/
theorem decimalLength_eq (n : Nat) : Double.decimalLength n = (Nat.digits 10 n).length := by
  rw [Double.decimalLength, digitsRev_eq (by decide) Nat.lt_log2_self]

/-- A numeral of a positive number has its digits. -/
theorem numeral_eq {base n : Nat} (hb : 1 < base) (hn : n ≠ 0) :
    numeral base n = ((Nat.digits base n).map CodePoint.ofDigit).reverse := by
  rw [numeral, if_neg hn, digitsRev_eq hb Nat.lt_log2_self]

section Steps

variable {base n : Nat}

/-- A number below the base is one digit. -/
theorem numeral_of_lt (hb : 1 < base) (h : n < base) : numeral base n = [CodePoint.ofDigit n] := by
  by_cases hn : n = 0
  · rw [numeral, if_pos hn, hn]
  · rw [numeral_eq hb hn, Nat.digits_of_lt base n hn h]
    rfl

/-- The last digit stands after the numeral of what is left. -/
theorem numeral_of_le (hb : 1 < base) (h : base ≤ n) :
    numeral base n = numeral base (n / base) ++ [CodePoint.ofDigit (n % base)] := by
  have hq : n / base ≠ 0 := Nat.ne_of_gt (Nat.div_pos h (by omega))
  rw [numeral_eq hb (by omega), numeral_eq hb hq, Nat.digits_def' hb (by omega), List.map_cons, List.reverse_cons]

end Steps

/-! ## Decimal numerals -/

/-- What holds of single digits, and of a numeral with one more digit, holds of all decimal numerals. -/
theorem ofNat_induction {P : Nat → Text → Prop} (one : ∀ d < 10, P d [CodePoint.ofDigit d])
    (more : ∀ n d, 0 < n → d < 10 → P n (ofNat n) → P (10 * n + d) (ofNat n ++ [CodePoint.ofDigit d])) (n : Nat) :
    P n (ofNat n) := by
  induction n using Nat.strong_induction_on with
  | _ n ih =>
    rcases Nat.lt_or_ge n 10 with h | h
    · have hn : ofNat n = [CodePoint.ofDigit n] := numeral_of_lt (by decide) h
      rw [hn]
      exact one n h
    · have hn : ofNat n = ofNat (n / 10) ++ [CodePoint.ofDigit (n % 10)] := numeral_of_le (by decide) h
      have hm := more (n / 10) (n % 10) (by omega) (Nat.mod_lt n (by decide)) (ih (n / 10) (by omega))
      rw [Nat.div_add_mod] at hm
      rwa [hn]

/-- One digit more. -/
theorem ofDigits_append (t : Text) (c : CodePoint) : Json.ofDigits (t ++ [c]) = 10 * Json.ofDigits t + c.digit := by
  simp only [Json.ofDigits, ofDigits, List.map_append, List.map_cons, List.map_nil, List.foldl_append,
    List.foldl_cons, List.foldl_nil]

/-- **A decimal numeral spells its number.** -/
theorem ofDigits_ofNat (n : Nat) : Json.ofDigits (ofNat n) = n := by
  refine ofNat_induction (P := fun n t => Json.ofDigits t = n) (fun d hd => ?_) (fun n d _ hd ih => ?_) n
  · have h := ofDigits_append [] (CodePoint.ofDigit d)
    rw [CodePoint.digit_ofDigit hd] at h
    simpa [Json.ofDigits, ofDigits] using h
  · rw [ofDigits_append, ih, CodePoint.digit_ofDigit hd]

/-- Its digits are digits of ASCII. -/
theorem ofNat_isDigit (n : Nat) : ∀ c ∈ ofNat n, c.isDigit = true := by
  refine ofNat_induction (P := fun _ t => ∀ c ∈ t, c.isDigit = true) (fun d hd => ?_) (fun n d _ hd ih => ?_) n
  · exact List.forall_mem_singleton.mpr (CodePoint.isDigit_ofDigit hd)
  · exact List.forall_mem_append.mpr ⟨ih, List.forall_mem_singleton.mpr (CodePoint.isDigit_ofDigit hd)⟩

/-- It begins with a zero only if it is the numeral of zero. -/
theorem head_ofNat (n : Nat) : n = 0 ∧ ofNat n = [.ofChar '0'] ∨ ∃ c t, ofNat n = c :: t ∧ c ≠ '0' := by
  refine ofNat_induction (P := fun n t => n = 0 ∧ t = [.ofChar '0'] ∨ ∃ c t', t = c :: t' ∧ c ≠ '0')
    (fun d hd => ?_) (fun n d hn _ ih => ?_) n
  · by_cases h0 : d = 0
    · exact Or.inl ⟨h0, by rw [h0]; rfl⟩
    · refine Or.inr ⟨_, _, rfl, fun e => h0 ?_⟩
      have hv := CodePoint.val_ofDigit hd
      rw [e] at hv
      change 0x30 = 0x30 + d at hv
      omega
  · rcases ih with ⟨h0, -⟩ | ⟨c, t, hc, hne⟩
    · omega
    · exact Or.inr ⟨c, t ++ _, by rw [hc, List.cons_append], hne⟩

/-! ## Sixteen -/

/-- A digit more is a digit at the end. -/
theorem hexPadded_succ {width n : Nat} (hw : 0 < width) :
    hexPadded (width + 1) n = hexPadded width (n / 16) ++ [CodePoint.ofDigit (n % 16)] := by
  simp only [hexPadded]
  rcases Nat.lt_or_ge n 16 with h | h
  · have hq : n / 16 = 0 := Nat.div_eq_of_lt h
    obtain ⟨width, rfl⟩ : ∃ w, width = w + 1 := ⟨width - 1, by omega⟩
    rw [numeral_of_lt (by decide) h, hq, numeral_of_lt (by decide) (by decide), Nat.mod_eq_of_lt h]
    simp [List.replicate_succ']
  · rw [numeral_of_le (by decide) h]
    simp

/-- **Below U+10000 four digits are enough.** -/
theorem hexPadded_four {n : Nat} (h : n < 0x10000) :
    hexPadded 4 n = [CodePoint.ofDigit (n / 0x1000), CodePoint.ofDigit (n / 0x100 % 16),
      CodePoint.ofDigit (n / 0x10 % 16), CodePoint.ofDigit (n % 16)] := by
  have hone : hexPadded 1 (n / 0x1000) = [CodePoint.ofDigit (n / 0x1000)] := by
    simp only [hexPadded]
    rw [numeral_of_lt (by decide) (by omega)]
    rfl
  have htwo : n / 16 / 16 = n / 0x100 := Nat.div_div_eq_div_mul n 16 16
  have hthree : n / 0x100 / 16 = n / 0x1000 := Nat.div_div_eq_div_mul n 0x100 16
  rw [hexPadded_succ (by decide), hexPadded_succ (by decide), hexPadded_succ (by decide), htwo, hthree, hone]
  rfl

/-- **Bytes in two digits each are read back.** -/
theorem bytes?_hexBytes (bytes : List UInt8) : bytes? (hexBytes bytes) = some bytes := by
  induction bytes with
  | nil => rfl
  | cons b bytes ih =>
    have hb := b.toNat_lt
    have hhigh : (CodePoint.ofDigit (b.toNat / 16)).hex? = some (b.toNat / 16) := CodePoint.hex?_ofDigit (by omega)
    have hlow : (CodePoint.ofDigit (b.toNat % 16)).hex? = some (b.toNat % 16) := CodePoint.hex?_ofDigit (by omega)
    have hsum : 16 * (b.toNat / 16) + b.toNat % 16 = b.toNat := Nat.div_add_mod _ _
    change bytes? (CodePoint.ofDigit (b.toNat / 16) :: CodePoint.ofDigit (b.toNat % 16) :: hexBytes bytes) = _
    rw [bytes?, hhigh, hlow, ih]
    simp only [hsum, UInt8.ofNat_toNat]

end Text

end LiquidationDrill
