import LiquidationDrill.Number.Double
import LiquidationDrill.Proofs.Text.Numeral
import Mathlib.Algebra.Order.Field.Power
import Mathlib.Data.Nat.Digits.Lemmas
import Mathlib.Data.Rat.Cast.Order
import Mathlib.Tactic.FieldSimp
import Mathlib.Tactic.Linarith
import Mathlib.Tactic.Positivity
import Mathlib.Tactic.Ring

/-!
# The double nearest to a number

Near a number the doubles are the multiples of a power of two (`HasScale`), and the number is rounded to one of these,
a half to the even one (`IsRound`, `IsNearest`). So there is one double that it is rounded to (`IsNearest.unique`), and
no number with as many bits is nearer (`IsNearest.abs_sub_le`). The quotients and the decimals that are read are rounded
so (`nearestQuotient_isNearest`, `ofDecimal_isNearest`).
-/

namespace LiquidationDrill

/-! ## Whole numbers -/

/-- The integer nearest to a number, the even one of two. -/
structure IsRound (q : Rat) (m : Nat) : Prop where
  near : |q - m| ≤ 1 / 2
  even : |q - m| = 1 / 2 → m % 2 = 0

/-- Two integers are at least one apart, and so are their distances to any number together. -/
theorem one_le_abs_sub_add_abs_sub (q : Rat) {m m' : Nat} (hne : m ≠ m') :
    1 ≤ |q - m| + |q - m'| := by
  have hone : (1 : Rat) ≤ |(m : Rat) - m'| := by
    exact_mod_cast Int.one_le_abs (show (m : Int) - m' ≠ 0 by omega)
  calc (1 : Rat) ≤ |(m : Rat) - m'| := hone
    _ ≤ |(m : Rat) - q| + |q - m'| := abs_sub_le _ _ _
    _ = |q - m| + |q - m'| := by rw [abs_sub_comm]

namespace IsRound

variable {q : Rat} {m m' : Nat}

/-- It is the only one: of two that are as near, one is odd. -/
theorem unique (h : IsRound q m) (h' : IsRound q m') : m = m' := by
  by_contra hne
  have hsum := one_le_abs_sub_add_abs_sub q hne
  have hnear := h.near
  have hnear' := h'.near
  have heven := h.even (by linarith)
  have heven' := h'.even (by linarith)
  have htwo : (2 : Rat) ≤ |(m : Rat) - m'| := by
    have hi : (2 : Int) ≤ |(m : Int) - m'| := by
      rw [le_abs]
      omega
    exact_mod_cast hi
  have hle := abs_sub_le (m : Rat) q m'
  rw [abs_sub_comm (m : Rat) q] at hle
  linarith

/-- No other is nearer. -/
theorem abs_sub_le (h : IsRound q m) (k : Nat) : |q - m| ≤ |q - k| := by
  rcases eq_or_ne m k with rfl | hne
  · exact le_rfl
  · linarith [one_le_abs_sub_add_abs_sub q hne, h.near]

end IsRound

/-- A quotient is rounded to what is at most half the divisor away. -/
theorem isRound_of_rest {n d m rest : Nat} (hd : 0 < d) (hn : n = m * d + rest ∨ n + rest = m * d)
    (hle : 2 * rest ≤ d) (heven : 2 * rest = d → m % 2 = 0) : IsRound (n / d) m := by
  have hd' : (0 : Rat) < d := by exact_mod_cast hd
  have hdist : |(n / d : Rat) - m| = rest / d := by
    have hpos : (0 : Rat) ≤ rest / d := by positivity
    rcases hn with hn | hn
    · have hn' : (n : Rat) = m * d + rest := by exact_mod_cast hn
      have hdiff : (n / d : Rat) - m = rest / d := by
        rw [hn']
        field_simp
        ring
      rw [hdiff, abs_of_nonneg hpos]
    · have hn' : (n : Rat) + rest = m * d := by exact_mod_cast hn
      have hdiff : (n / d : Rat) - m = -(rest / d) := by
        rw [eq_sub_of_add_eq hn']
        field_simp
        ring
      rw [hdiff, abs_neg, abs_of_nonneg hpos]
  refine ⟨?_, fun h => heven ?_⟩
  · rw [hdist, div_le_div_iff₀ hd' two_pos]
    exact_mod_cast (by omega : rest * 2 ≤ 1 * d)
  · rw [hdist, div_eq_div_iff hd'.ne' two_ne_zero] at h
    have hi : rest * 2 = 1 * d := by exact_mod_cast h
    omega

/-- **Quotients are rounded so.** -/
theorem roundDiv_isRound {n d : Nat} (hd : 0 < d) : IsRound (n / d) (roundDiv n d) := by
  have hlt := Nat.mod_lt n hd
  have hbelow : n = n / d * d + n % d := by
    rw [Nat.mul_comm, Nat.div_add_mod]
  have habove : n + (d - n % d) = (n / d + 1) * d := by
    rw [Nat.add_mul, Nat.one_mul]
    omega
  unfold roundDiv
  dsimp only
  split_ifs with h h' heven
  · exact isRound_of_rest hd (Or.inl hbelow) (by omega) (by omega)
  · exact isRound_of_rest hd (Or.inr habove) (by omega) (by omega)
  · exact isRound_of_rest hd (Or.inl hbelow) (by omega) fun _ => heven
  · exact isRound_of_rest hd (Or.inr habove) (by omega) (by omega)

namespace Double

/-! ## Scales -/

/-- The doubles about a number are the multiples of `2 ^ e`. -/
structure HasScale (q : Rat) (e : Int) : Prop where
  lowest_le : lowestExponent ≤ e
  lt : q < 2 ^ (e + precision)
  le : e = lowestExponent ∨ 2 ^ (e + precision - 1) ≤ q

theorem cast_pow_toNat (b : Nat) {e : Int} (he : 0 ≤ e) : ((Nat.pow b e.toNat : Nat) : Rat) = (b : Rat) ^ e := by
  rw [Nat.pow_eq, Nat.cast_pow, ← zpow_natCast, Int.toNat_of_nonneg he]

theorem cast_shiftLeft_toNat (n : Nat) {e : Int} (he : 0 ≤ e) : ((n <<< e.toNat : Nat) : Rat) = n * 2 ^ e := by
  rw [Nat.shiftLeft_eq, Nat.cast_mul, ← Nat.pow_eq, cast_pow_toNat 2 he, Nat.cast_ofNat]

/-- Where a scale ends from below. -/
theorem pow_mul_zpow (e : Int) : ((Nat.pow 2 (precision - 1) : Nat) : Rat) * 2 ^ e = 2 ^ (e + precision - 1) := by
  rw [Nat.pow_eq, Nat.cast_pow, Nat.cast_ofNat, ← zpow_natCast, ← zpow_add₀ two_ne_zero]
  congr 1
  simp only [precision]
  omega

/-- No number has two scales. -/
theorem HasScale.unique {q : Rat} {e e' : Int} (h : HasScale q e) (h' : HasScale q e') : e = e' := by
  have hle {e e' : Int} (h : HasScale q e) (h' : HasScale q e') : e' ≤ e := by
    rcases h'.le with rfl | hle
    · exact h.lowest_le
    · have hlt := (zpow_lt_zpow_iff_right₀ one_lt_two).mp (hle.trans_lt h.lt)
      omega
  exact le_antisymm (hle h' h) (hle h h')

/-! ## Rounded numbers -/

/-- The multiple of `2 ^ e` with the sign, where it is a double or too large for one. -/
inductive HasMagnitude (negative : Bool) (r : Rat) : Double → Prop
  | zero : r = 0 → HasMagnitude negative r (if negative then negativeZero else finite 0)
  | finite {value : Dyadic} : r ≠ 0 → r < 2 ^ exponentLimit → value.toRat = (if negative then -r else r) →
      HasMagnitude negative r (finite value)
  | infinity : 2 ^ exponentLimit ≤ r → HasMagnitude negative r (infinity negative)

/-- The double is the number with the sign, rounded. -/
def IsNearest (negative : Bool) (q : Rat) (x : Double) : Prop :=
  ∃ e m, HasScale q e ∧ IsRound (q / 2 ^ e) m ∧ HasMagnitude negative (m * 2 ^ e) x

theorem HasMagnitude.unique {negative : Bool} {r : Rat} {x y : Double} (h : HasMagnitude negative r x)
    (h' : HasMagnitude negative r y) : x = y := by
  have hpos : (0 : Rat) < 2 ^ exponentLimit := zpow_pos two_pos _
  cases h with
  | zero hr =>
    cases h' with
    | zero => rfl
    | finite hne => exact absurd hr hne
    | infinity hle => exact absurd (hr ▸ hle) (not_le.mpr hpos)
  | finite hne hlt hx =>
    cases h' with
    | zero hr => exact absurd hr hne
    | finite _ _ hy => exact congrArg Double.finite (Dyadic.toRat_inj.mp (hx.trans hy.symm))
    | infinity hle => exact absurd hle (not_le.mpr hlt)
  | infinity hle =>
    cases h' with
    | zero hr => exact absurd (hr ▸ hle) (not_le.mpr hpos)
    | finite _ hlt => exact absurd hle (not_le.mpr hlt)
    | infinity => rfl

/-- **A number is rounded to one double.** -/
theorem IsNearest.unique {negative : Bool} {q : Rat} {x y : Double} (h : IsNearest negative q x)
    (h' : IsNearest negative q y) : x = y := by
  obtain ⟨e, m, hs, hr, hm⟩ := h
  obtain ⟨e', m', hs', hr', hm'⟩ := h'
  obtain rfl := hs.unique hs'
  obtain rfl := hr.unique hr'
  exact hm.unique hm'

/-- No multiple with as many bits is nearer than that of the scale. -/
theorem HasScale.abs_sub_le {q : Rat} {e : Int} {m : Nat} (hs : HasScale q e) (hr : IsRound (q / 2 ^ e) m)
    {e' : Int} {m' : Nat} (hm : m' < Nat.pow 2 precision) (he : lowestExponent ≤ e') :
    |q - m * 2 ^ e| ≤ |q - m' * 2 ^ e'| := by
  have htwo (e : Int) : (0 : Rat) < 2 ^ e := zpow_pos two_pos e
  have hmultiple (k : Nat) : |q - m * 2 ^ e| ≤ |q - k * 2 ^ e| := by
    have hscaled (k : Nat) : |q - k * 2 ^ e| = |q / 2 ^ e - k| * 2 ^ e := by
      rw [← abs_of_pos (htwo e), ← abs_mul, abs_of_pos (htwo e), sub_mul, div_mul_cancel₀ q (htwo e).ne']
    rw [hscaled, hscaled]
    exact mul_le_mul_of_nonneg_right (hr.abs_sub_le k) (htwo e).le
  rcases le_or_gt e e' with hee | hee
  · have hk : (m' : Rat) * 2 ^ e' = (m' <<< (e' - e).toNat : Nat) * 2 ^ e := by
      rw [cast_shiftLeft_toNat m' (by omega), mul_assoc, ← zpow_add₀ two_ne_zero, sub_add_cancel]
    rw [hk]
    exact hmultiple _
  · have hle : (2 : Rat) ^ (e + precision - 1) ≤ q := hs.le.resolve_left (by omega)
    have hm' : (m' : Rat) * 2 ^ e' ≤ 2 ^ (e + precision - 1) := by
      have hcast : (m' : Rat) ≤ 2 ^ (precision : Int) := by
        rw [zpow_natCast]
        exact_mod_cast hm.le
      calc (m' : Rat) * 2 ^ e' ≤ 2 ^ (precision : Int) * 2 ^ e' := mul_le_mul_of_nonneg_right hcast (htwo e').le
        _ = 2 ^ (precision + e') := (zpow_add₀ two_ne_zero _ _).symm
        _ ≤ 2 ^ (e + precision - 1) := zpow_le_zpow_right₀ one_le_two (by omega)
    calc |q - m * 2 ^ e| ≤ |q - (Nat.pow 2 (precision - 1) : Nat) * 2 ^ e| := hmultiple _
      _ = q - 2 ^ (e + precision - 1) := by rw [pow_mul_zpow, abs_of_nonneg (sub_nonneg.mpr hle)]
      _ ≤ q - m' * 2 ^ e' := by linarith
      _ ≤ |q - m' * 2 ^ e'| := le_abs_self _

/-- **No number with as many bits is nearer**, on whatever scale. -/
theorem IsNearest.abs_sub_le {negative : Bool} {q r : Rat} {x : Double} (h : IsNearest negative q x)
    (hx : x.toRat? = some r) {m : Nat} {e : Int} (hm : m < Nat.pow 2 precision) (he : lowestExponent ≤ e) :
    |(if negative then -q else q) - r| ≤ |q - m * 2 ^ e| := by
  obtain ⟨e', m', hs, hr, hmagnitude⟩ := h
  have hvalue : r = if negative then -(m' * 2 ^ e' : Rat) else m' * 2 ^ e' := by
    cases hmagnitude with
    | zero h0 =>
      rw [h0]
      cases negative <;> cases hx <;> simp
    | finite _ _ hv =>
      cases hx
      exact hv
    | infinity => cases hx
  have hdist : |(if negative then -q else q) - r| = |q - m' * 2 ^ e'| := by
    rw [hvalue]
    cases negative with
    | false => rfl
    | true => rw [if_pos rfl, if_pos rfl, ← neg_sub', abs_neg]
  rw [hdist]
  exact hs.abs_sub_le hr hm he

/-! ## Quotients -/

/-- A number lies between two powers of two. -/
theorem zpow_log2_le {n : Nat} (hn : n ≠ 0) : (2 : Rat) ^ (n.log2 : Int) ≤ n ∧ (n : Rat) < 2 ^ (n.log2 + 1 : Int) := by
  constructor
  · rw [zpow_natCast]
    exact_mod_cast Nat.log2_self_le hn
  · rw [← Nat.cast_succ, zpow_natCast]
    exact_mod_cast Nat.lt_log2_self

/-- A quotient is compared with a power of two by shifting one of its numbers. -/
theorem zpow_le_div_iff (n : Nat) {d : Nat} (hd : 0 < d) (e : Int) :
    (2 : Rat) ^ e ≤ n / d ↔ if 0 ≤ e then d <<< e.toNat ≤ n else d ≤ n <<< (-e).toNat := by
  have hd' : (0 : Rat) < d := by exact_mod_cast hd
  rw [le_div_iff₀ hd']
  split_ifs with he
  · rw [← @Nat.cast_le Rat, cast_shiftLeft_toNat d he, mul_comm]
  · have htwo : (0 : Rat) < 2 ^ e := zpow_pos two_pos e
    rw [← @Nat.cast_le Rat, cast_shiftLeft_toNat n (by omega), zpow_neg, ← div_eq_mul_inv, le_div_iff₀ htwo, mul_comm]

/-- A quotient lies between two powers of two. -/
theorem zpow_floorLog2_le {n d : Nat} (hn : n ≠ 0) (hd : 0 < d) :
    (2 : Rat) ^ floorLog2 n d ≤ n / d ∧ (n / d : Rat) < 2 ^ (floorLog2 n d + 1) := by
  have hd' : (0 : Rat) < d := by exact_mod_cast hd
  have htwo (e : Int) : (0 : Rat) < 2 ^ e := zpow_pos two_pos e
  obtain ⟨hnl, hnu⟩ := zpow_log2_le hn
  obtain ⟨hdl, hdu⟩ := zpow_log2_le hd.ne'
  have hupper : (n / d : Rat) < 2 ^ ((n.log2 : Int) - d.log2 + 1) := by
    rw [div_lt_iff₀ hd']
    calc (n : Rat) < 2 ^ (n.log2 + 1 : Int) := hnu
      _ = 2 ^ ((n.log2 : Int) - d.log2 + 1) * 2 ^ (d.log2 : Int) := by
        rw [← zpow_add₀ two_ne_zero]
        congr 1
        ring
      _ ≤ 2 ^ ((n.log2 : Int) - d.log2 + 1) * d := mul_le_mul_of_nonneg_left hdl (htwo _).le
  have hlower : (2 : Rat) ^ ((n.log2 : Int) - d.log2 - 1) ≤ n / d := by
    rw [le_div_iff₀ hd']
    calc (2 : Rat) ^ ((n.log2 : Int) - d.log2 - 1) * d
        ≤ 2 ^ ((n.log2 : Int) - d.log2 - 1) * 2 ^ (d.log2 + 1 : Int) := mul_le_mul_of_nonneg_left hdu.le (htwo _).le
      _ = 2 ^ (n.log2 : Int) := by
        rw [← zpow_add₀ two_ne_zero]
        congr 1
        ring
      _ ≤ n := hnl
  have hfloor : floorLog2 n d = if (2 : Rat) ^ ((n.log2 : Int) - d.log2) ≤ n / d then (n.log2 : Int) - d.log2
      else (n.log2 : Int) - d.log2 - 1 := if_congr (zpow_le_div_iff n hd _).symm rfl rfl
  rw [hfloor]
  split_ifs with h
  · exact ⟨h, hupper⟩
  · exact ⟨hlower, by rw [sub_add_cancel]; exact not_le.mp h⟩

/-- A multiple that is told from the others by its bits. -/
theorem hasMagnitude_mul (negative : Bool) (m : Nat) (e : Int) : HasMagnitude negative (m * 2 ^ e)
    (if m = 0 then if negative then negativeZero else finite 0
      else if exponentLimit ≤ (m.log2 : Int) + e then infinity negative
      else finite (.ofIntWithPrec (if negative then -(m : Int) else m) (-e))) := by
  have htwo : (0 : Rat) < 2 ^ e := zpow_pos two_pos e
  by_cases hm : m = 0
  · rw [if_pos hm]
    exact .zero (by rw [hm, Nat.cast_zero, zero_mul])
  rw [if_neg hm]
  by_cases hlimit : exponentLimit ≤ (m.log2 : Int) + e
  · rw [if_pos hlimit]
    refine .infinity ?_
    calc (2 : Rat) ^ exponentLimit ≤ 2 ^ ((m.log2 : Int) + e) := zpow_le_zpow_right₀ one_le_two hlimit
      _ = 2 ^ (m.log2 : Int) * 2 ^ e := zpow_add₀ two_ne_zero _ _
      _ ≤ m * 2 ^ e := mul_le_mul_of_nonneg_right (zpow_log2_le hm).1 htwo.le
  · rw [if_neg hlimit]
    refine .finite (mul_ne_zero (by exact_mod_cast hm) htwo.ne') ?_ ?_
    · calc (m : Rat) * 2 ^ e < 2 ^ (m.log2 + 1 : Int) * 2 ^ e := mul_lt_mul_of_pos_right (zpow_log2_le hm).2 htwo
        _ = 2 ^ ((m.log2 + 1 : Int) + e) := (zpow_add₀ two_ne_zero _ _).symm
        _ ≤ 2 ^ exponentLimit := zpow_le_zpow_right₀ one_le_two (by omega)
    · rw [Dyadic.toRat_ofIntWithPrec_eq_mul_two_pow, neg_neg]
      cases negative <;> simp

/-- A quotient over a power of two is that of shifted numbers. -/
theorem shifted_eq (n d : Nat) (e : Int) :
    (n / d : Rat) / 2 ^ e =
      if 0 ≤ e then (n : Rat) / (d <<< e.toNat : Nat) else (n <<< (-e).toNat : Nat) / (d : Rat) := by
  split_ifs with he
  · rw [cast_shiftLeft_toNat d he, div_div]
  · rw [cast_shiftLeft_toNat n (by omega), zpow_neg, ← div_eq_mul_inv, div_right_comm]

/-- **A quotient is rounded to the nearest double.** -/
theorem nearestQuotient_isNearest (negative : Bool) (n : Nat) {d : Nat} (hd : 0 < d) :
    IsNearest negative (n / d) (nearestQuotient negative n d) := by
  rw [nearestQuotient]
  split
  case isTrue hn =>
    refine ⟨lowestExponent, 0, ⟨le_rfl, ?_, Or.inl rfl⟩, ?_, .zero (by simp)⟩
    · rw [hn, Nat.cast_zero, zero_div]
      exact zpow_pos two_pos _
    · rw [hn, Nat.cast_zero, zero_div, zero_div]
      exact ⟨by norm_num, fun _ => rfl⟩
  case isFalse hn =>
    obtain ⟨hl, hu⟩ := zpow_floorLog2_le hn hd
    refine ⟨_, _, ⟨le_max_right _ _, ?_, ?_⟩, ?_, hasMagnitude_mul _ _ _⟩
    · refine hu.trans_le (zpow_le_zpow_right₀ one_le_two ?_)
      simp only [precision]
      omega
    · rcases le_total (floorLog2 n d - (precision - 1 : Nat)) lowestExponent with hle | hle
      · exact Or.inl (max_eq_right hle)
      · rw [max_eq_left hle]
        refine Or.inr ((zpow_le_zpow_right₀ one_le_two ?_).trans hl)
        simp only [precision]
        omega
    · rw [shifted_eq]
      split
      case isTrue => exact roundDiv_isRound (by rw [Nat.shiftLeft_eq]; positivity)
      case isFalse => exact roundDiv_isRound hd

/-! ## Decimals -/

/-- A number lies between two powers of ten. -/
theorem zpow_decimalLength_le {n : Nat} (hn : n ≠ 0) :
    (10 : Rat) ^ ((decimalLength n : Int) - 1) ≤ n ∧ (n : Rat) < 10 ^ (decimalLength n : Int) := by
  rw [Text.decimalLength_eq]
  constructor
  · have hle : (10 : Rat) ^ (Nat.digits 10 n).length ≤ 10 * n := by
      exact_mod_cast Nat.base_pow_length_digits_le 10 n (by decide) hn
    rw [zpow_sub_one₀ (by decide), zpow_natCast, ← div_eq_mul_inv, div_le_iff₀ (by decide), mul_comm]
    exact hle
  · rw [zpow_natCast]
    exact_mod_cast Nat.lt_base_pow_length_digits (by decide)

/-- Three powers of two are less than one of ten. -/
theorem two_zpow_le_ten_zpow {e : Int} (he : e ≤ 3 * 400) : (2 : Rat) ^ e ≤ 10 ^ (400 : Int) :=
  calc (2 : Rat) ^ e ≤ 2 ^ (3 * 400 : Int) := zpow_le_zpow_right₀ one_le_two he
    _ = (2 ^ (3 : Int)) ^ (400 : Int) := zpow_mul 2 3 400
    _ ≤ 10 ^ (400 : Int) := zpow_le_zpow_left₀ (by decide) (by decide) (by decide)

/-- What is no less than the limit is rounded to an infinity. -/
theorem HasScale.infinity {negative : Bool} {q : Rat} {e : Int} {m : Nat} (hs : HasScale q e)
    (hr : IsRound (q / 2 ^ e) m) (hq : 2 ^ exponentLimit ≤ q) : IsNearest negative q (infinity negative) := by
  have htwo : (0 : Rat) < 2 ^ e := zpow_pos two_pos e
  have he : exponentLimit < e + precision := (zpow_lt_zpow_iff_right₀ one_lt_two).mp (hq.trans_lt hs.lt)
  have hle : (2 : Rat) ^ (e + precision - 1) ≤ q := hs.le.resolve_left fun h => by
    rw [h] at he
    exact absurd he (by decide)
  have hscaled : ((Nat.pow 2 (precision - 1) : Nat) : Rat) ≤ q / 2 ^ e := by
    rw [le_div_iff₀ htwo, pow_mul_zpow]
    exact hle
  have hm : Nat.pow 2 (precision - 1) ≤ m := by
    have hnear := (abs_le.mp hr.near).2
    have hlt : ((Nat.pow 2 (precision - 1) : Nat) : Rat) < (m + 1 : Nat) := by
      push_cast
      linarith
    exact Nat.lt_succ_iff.mp (by exact_mod_cast hlt)
  refine ⟨e, m, hs, hr, .infinity ?_⟩
  calc (2 : Rat) ^ exponentLimit ≤ 2 ^ (e + precision - 1) := zpow_le_zpow_right₀ one_le_two (by omega)
    _ = (Nat.pow 2 (precision - 1) : Nat) * 2 ^ e := (pow_mul_zpow e).symm
    _ ≤ m * 2 ^ e := mul_le_mul_of_nonneg_right (by exact_mod_cast hm) htwo.le

/-- What is less than half of the least double is rounded to a zero. -/
theorem isNearest_zero {negative : Bool} {q : Rat} (hq : 0 ≤ q) (hlt : q < 2 ^ (lowestExponent - 1)) :
    IsNearest negative q (if negative then negativeZero else finite 0) := by
  have htwo : (0 : Rat) < 2 ^ lowestExponent := zpow_pos two_pos _
  have hhalf : q / 2 ^ lowestExponent < 1 / 2 := by
    rw [zpow_sub_one₀ two_ne_zero] at hlt
    rw [div_lt_iff₀ htwo]
    linarith
  have hround : |q / 2 ^ lowestExponent - (0 : Nat)| < 1 / 2 := by
    rw [Nat.cast_zero, sub_zero, abs_of_nonneg (div_nonneg hq htwo.le)]
    exact hhalf
  refine ⟨lowestExponent, 0, ⟨le_rfl, hlt.trans ?_, Or.inl rfl⟩, ⟨hround.le, fun _ => rfl⟩, .zero (by simp)⟩
  exact zpow_lt_zpow_right₀ one_lt_two (by decide)

/-- **A decimal is rounded to the nearest double**, also where its size alone decides. -/
theorem ofDecimal_isNearest (negative : Bool) (digits : Nat) (e : Int) :
    IsNearest negative (digits * 10 ^ e) (ofDecimal negative digits e) := by
  have hten (e : Int) : (0 : Rat) < 10 ^ e := zpow_pos (by decide) e
  have hquotient : IsNearest negative (digits * 10 ^ e)
      (if 0 ≤ e then nearestQuotient negative (digits * Nat.pow 10 e.toNat) 1
        else nearestQuotient negative digits (Nat.pow 10 (-e).toNat)) := by
    split_ifs with he
    · have h := nearestQuotient_isNearest negative (digits * Nat.pow 10 e.toNat) Nat.one_pos
      rwa [Nat.cast_mul, cast_pow_toNat 10 he, Nat.cast_one, div_one] at h
    · have h := nearestQuotient_isNearest negative digits (Nat.pow_pos (n := (-e).toNat) (by decide : 0 < 10))
      rwa [← Nat.pow_eq, cast_pow_toNat 10 (by omega), zpow_neg, div_inv_eq_mul] at h
  have hnonneg : (0 : Rat) ≤ digits * 10 ^ e := mul_nonneg (Nat.cast_nonneg digits) (hten e).le
  rw [ofDecimal]
  by_cases hzero : digits = 0
  · rw [if_pos hzero]
    refine isNearest_zero hnonneg ?_
    rw [hzero, Nat.cast_zero, zero_mul]
    exact zpow_pos two_pos _
  obtain ⟨hl, hu⟩ := zpow_decimalLength_le hzero
  rw [if_neg hzero]
  by_cases hlarge : 400 < (decimalLength digits : Int) + e
  · rw [if_pos hlarge]
    have hq : (2 : Rat) ^ exponentLimit ≤ digits * 10 ^ e :=
      calc (2 : Rat) ^ exponentLimit ≤ 10 ^ (400 : Int) := two_zpow_le_ten_zpow (by decide)
        _ ≤ 10 ^ ((decimalLength digits : Int) - 1 + e) := zpow_le_zpow_right₀ (by decide) (by omega)
        _ = 10 ^ ((decimalLength digits : Int) - 1) * 10 ^ e := zpow_add₀ (by decide) _ _
        _ ≤ digits * 10 ^ e := mul_le_mul_of_nonneg_right hl (hten e).le
    obtain ⟨_, _, hs, hr, -⟩ := hquotient
    exact hs.infinity hr hq
  rw [if_neg hlarge]
  by_cases hsmall : (decimalLength digits : Int) + e < -400
  · rw [if_pos hsmall]
    refine isNearest_zero hnonneg ?_
    calc (digits : Rat) * 10 ^ e < 10 ^ (decimalLength digits : Int) * 10 ^ e := mul_lt_mul_of_pos_right hu (hten e)
      _ = 10 ^ ((decimalLength digits : Int) + e) := (zpow_add₀ (by decide) _ _).symm
      _ ≤ 10 ^ (-400 : Int) := zpow_le_zpow_right₀ (by decide) (by omega)
      _ = (10 ^ (400 : Int))⁻¹ := zpow_neg 10 400
      _ ≤ (2 ^ (1 - lowestExponent))⁻¹ := inv_anti₀ (zpow_pos two_pos _) (two_zpow_le_ten_zpow (by decide))
      _ = 2 ^ (lowestExponent - 1) := by rw [← zpow_neg, neg_sub]
  · rw [if_neg hsmall]
    exact hquotient

end Double

end LiquidationDrill
