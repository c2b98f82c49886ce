import LiquidationDrill.Proofs.Text.Numeral
import Mathlib.Data.List.DropRight

/-!
# Cutting and filling bytes in digits

Every byte has two digits in lower case (`Text.length_hexBytes`, `Text.mem_lowerDigits_of_mem_hexBytes`), and zeros are
the digits of zeros (`Text.hexBytes_zeros`). So digits can be cut and filled up for bytes, if it is done by an even
number of them (`Text.hexBytes_take`, `Text.hexBytes_rightpad`): `Text.fitted_hexBytes` says that `2 * n` digits of
bytes are the digits of `n` bytes.

What fills up bytes cannot be told from zeros at their end. So bytes that are cut and filled up are the same as bytes
that are only filled up iff they are few enough without their last zeros (`Bytes.fitted_eq_iff`).
-/

namespace LiquidationDrill

namespace Bytes

/-- The first `n` bytes, and zeros where there are fewer. -/
def fitted (n : Nat) (bytes : List UInt8) : List UInt8 := (bytes.take n).rightpad n 0

section Fitted

variable {bytes : List UInt8} {n m : Nat}

theorem length_fitted (n : Nat) (bytes : List UInt8) : (fitted n bytes).length = n := by
  simp [fitted]

/-- It makes no difference whether bytes are cut or filled up first. -/
theorem take_rightpad (n : Nat) (bytes : List UInt8) : (bytes.rightpad n 0).take n = fitted n bytes := by
  simp only [fitted, List.rightpad, List.take_append, List.take_replicate, List.length_take]
  congr 2
  omega

/-- Without their last zeros there are at most `n` bytes iff all bytes after these are zeros. -/
theorem length_rdropWhile_le_iff :
    (bytes.rdropWhile (· = 0)).length ≤ n ↔ ∀ b ∈ bytes.drop n, b = 0 := by
  induction bytes using List.reverseRecOn with
  | nil => simp
  | append_singleton bytes b ih =>
    rw [List.rdropWhile_concat, List.drop_append]
    by_cases hb : b = 0
    · rw [if_pos (by simpa using hb), ih]
      constructor
      · intro h c hc
        rcases List.mem_append.mp hc with hc | hc
        · exact h c hc
        · obtain rfl := List.mem_singleton.mp (List.mem_of_mem_drop hc)
          exact hb
      · intro h c hc
        exact h c (List.mem_append_left _ hc)
    · rw [if_neg (by simpa using hb), List.length_append, List.length_singleton]
      constructor
      · intro h c hc
        rw [List.drop_eq_nil_of_le (by omega), List.drop_eq_nil_of_le (by simp; omega)] at hc
        cases hc
      · intro h
        by_contra hn
        have hlast : n - bytes.length = 0 := by omega
        exact hb (h b (List.mem_append_right _ (by simp [hlast])))

/-- **Cut and filled up, bytes are what they are filled up only iff nothing but zeros was cut.** -/
theorem fitted_eq_iff (hn : n ≤ m) (hm : bytes.length ≤ m) :
    fitted n bytes ++ List.replicate (m - n) 0 = bytes.rightpad m 0 ↔ (bytes.rdropWhile (· = 0)).length ≤ n := by
  have hcut : fitted n bytes ++ List.replicate (m - n) 0 =
      bytes.take n ++ List.replicate (m - (bytes.take n).length) 0 := by
    have hzeros : n - (bytes.take n).length + (m - n) = m - (bytes.take n).length := by
      have hlen : (bytes.take n).length ≤ n := List.length_take_le n bytes
      omega
    rw [fitted, List.rightpad, List.append_assoc, List.replicate_append_replicate, hzeros]
  have hwhole : bytes.rightpad m 0 = bytes.take n ++ (bytes.drop n ++ List.replicate (m - bytes.length) 0) := by
    rw [List.rightpad, ← List.append_assoc, List.take_append_drop]
  have hlen : (bytes.drop n ++ List.replicate (m - bytes.length) (0 : UInt8)).length = m - (bytes.take n).length := by
    simp only [List.length_append, List.length_drop, List.length_replicate, List.length_take]
    omega
  rw [hcut, hwhole, List.append_cancel_left_eq, eq_comm, List.eq_replicate_iff, length_rdropWhile_le_iff]
  constructor
  · intro h b hb
    exact h.2 b (List.mem_append_left _ hb)
  · intro h
    refine ⟨hlen, ?_⟩
    intro b hb
    rcases List.mem_append.mp hb with hb | hb
    · exact h b hb
    · exact List.eq_of_mem_replicate hb

end Fitted

end Bytes

namespace Text

open Bytes (fitted)

/-! ## Digits of bytes -/

/-- The sixteen digits in lower case. -/
def lowerDigits : Text := "0123456789abcdef"

theorem ofDigit_mem_lowerDigits {d : Nat} (h : d < 16) : CodePoint.ofDigit d ∈ lowerDigits := by
  have hall : ∀ d < 16, CodePoint.ofDigit d ∈ lowerDigits := by decide
  exact hall d h

section HexBytes

variable (bytes others : List UInt8) (n : Nat)

theorem hexBytes_append : hexBytes (bytes ++ others) = hexBytes bytes ++ hexBytes others := List.flatMap_append

theorem length_hexBytes : (hexBytes bytes).length = 2 * bytes.length := by
  induction bytes with
  | nil => rfl
  | cons b bytes ih =>
    simp only [hexBytes, List.flatMap_cons, List.length_append, List.length_cons] at ih ⊢
    simp only [ih, hexByte, List.length_cons, List.length_nil]
    omega

/-- Bytes are written in lower case. -/
theorem mem_lowerDigits_of_mem_hexBytes {c : CodePoint} (h : c ∈ hexBytes bytes) : c ∈ lowerDigits := by
  obtain ⟨b, -, hc⟩ := List.mem_flatMap.mp h
  have hb := b.toNat_lt
  simp only [hexByte, List.mem_cons, List.not_mem_nil, or_false] at hc
  rcases hc with rfl | rfl
  · exact ofDigit_mem_lowerDigits (by omega)
  · exact ofDigit_mem_lowerDigits (by omega)

/-- Zeros have zeros for their digits. -/
theorem hexBytes_zeros : hexBytes (List.replicate n 0) = List.replicate (2 * n) (CodePoint.ofDigit 0) := by
  induction n with
  | zero => rfl
  | succ n ih =>
    simp only [hexBytes, List.replicate_succ, List.flatMap_cons, Nat.mul_succ] at ih ⊢
    rw [ih]
    rfl

/-- An even number of digits are the digits of half as many bytes. -/
theorem hexBytes_take : (hexBytes bytes).take (2 * n) = hexBytes (bytes.take n) := by
  have hsplit := hexBytes_append (bytes.take n) (bytes.drop n)
  rw [List.take_append_drop] at hsplit
  rw [hsplit, List.take_append, length_hexBytes]
  rcases Nat.le_total bytes.length n with h | h
  · rw [List.drop_eq_nil_of_le h, List.take_of_length_le (by rw [length_hexBytes, List.length_take]; omega)]
    simp [hexBytes]
  · rw [List.length_take, Nat.min_eq_left h, Nat.sub_self, List.take_zero, List.append_nil,
      List.take_of_length_le (by rw [length_hexBytes, List.length_take]; omega)]

/-- Filled up with zeros, digits are those of bytes that are filled up with zeros. -/
theorem hexBytes_rightpad : hexBytes (bytes.rightpad n 0) =
    hexBytes bytes ++ List.replicate (2 * n - (hexBytes bytes).length) (CodePoint.ofDigit 0) := by
  rw [List.rightpad, hexBytes_append, hexBytes_zeros, length_hexBytes, Nat.mul_sub]

/-- **Digits that are filled up and cut to `2 * n` are those of `n` bytes.** -/
theorem fitted_hexBytes :
    (hexBytes bytes ++ List.replicate (2 * n - (hexBytes bytes).length) (CodePoint.ofDigit 0)).take (2 * n) =
      hexBytes (fitted n bytes) := by
  rw [← hexBytes_rightpad, hexBytes_take, Bytes.take_rightpad]

/-- A row of `n` digits in lower case that is read as these bytes. -/
structure IsHexOf (n : Nat) (digits : Text) (bytes : List UInt8) : Prop where
  length : digits.length = n
  lower : ∀ c ∈ digits, c ∈ lowerDigits
  read : bytes? digits = some bytes

variable {bytes others n}

/-- The digits of bytes are such a row. -/
theorem hexBytes_isHexOf (h : 2 * bytes.length = n) : IsHexOf n (hexBytes bytes) bytes :=
  ⟨(length_hexBytes bytes).trans h, fun _ hc => mem_lowerDigits_of_mem_hexBytes bytes hc, bytes?_hexBytes bytes⟩

/-- Bytes are told by their digits. -/
theorem hexBytes_inj : hexBytes bytes = hexBytes others ↔ bytes = others := by
  constructor
  · intro h
    have hsome := bytes?_hexBytes bytes
    rw [h, bytes?_hexBytes] at hsome
    exact (Option.some.inj hsome).symm
  · intro h
    rw [h]

end HexBytes

end Text

end LiquidationDrill
