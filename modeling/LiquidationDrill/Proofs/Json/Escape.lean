import LiquidationDrill.Json.Writer
import LiquidationDrill.Proofs.Json.Extension
import LiquidationDrill.Proofs.Text.Numeral

/-!
# Strings that are written in JSON are read back

What stands for a code point within a string is read as this code point, whatever comes next (`stringBody_escape`): a
letter after a backslash, the code point itself, the digits of its number, or those of two halves of a surrogate pair.
By induction along the text, a string without such halves of its own is read back (`stringBody_written`). All of it is
written in visible characters and blanks (`writeString_inAscii`).
-/

namespace LiquidationDrill.Json

/-- A character of ASCII that is shown, or the blank. -/
def InAscii (c : CodePoint) : Prop := 0x20 ≤ c.val ∧ c.val < 0x7F

instance : DecidablePred InAscii := fun c => inferInstanceAs (Decidable (0x20 ≤ c.val ∧ c.val < 0x7F))

theorem inAscii_ofDigit {d : Nat} (h : d < 16) : InAscii (CodePoint.ofDigit d) := by
  have hall : ∀ d < 16, InAscii (CodePoint.ofDigit d) := by decide
  exact hall d h

/-! ## Units -/

section Units

variable {n : Nat} (h : n < 0x10000)
include h

/-- The escape of a unit is a backslash, a letter and four digits. -/
theorem unitEscape_eq : unitEscape n = [.ofChar '\\', .ofChar 'u', CodePoint.ofDigit (n / 0x1000),
    CodePoint.ofDigit (n / 0x100 % 16), CodePoint.ofDigit (n / 0x10 % 16), CodePoint.ofDigit (n % 16)] := by
  rw [unitEscape, Text.hexPadded_four h]
  rfl

/-- The four digits spell the unit. -/
theorem unit?_ofDigit : unit? (CodePoint.ofDigit (n / 0x1000)) (CodePoint.ofDigit (n / 0x100 % 16))
    (CodePoint.ofDigit (n / 0x10 % 16)) (CodePoint.ofDigit (n % 16)) = some (CodePoint.ofNat n) := by
  have hmod (k : Nat) : k % 16 < 16 := Nat.mod_lt k (by decide)
  have hn : ((n / 0x1000 * 16 + n / 0x100 % 16) * 16 + n / 0x10 % 16) * 16 + n % 16 = n := by omega
  simp only [unit?, CodePoint.hex?_ofDigit (show n / 0x1000 < 16 by omega), CodePoint.hex?_ofDigit (hmod _), hn]

theorem unitEscape_inAscii : ∀ c ∈ unitEscape n, InAscii c := by
  have hmod (k : Nat) : InAscii (CodePoint.ofDigit (k % 16)) := inAscii_ofDigit (Nat.mod_lt k (by decide))
  rw [unitEscape_eq h]
  simp only [List.forall_mem_cons]
  exact ⟨by decide, by decide, inAscii_ofDigit (by omega), hmod _, hmod _, hmod _, List.forall_mem_nil _⟩

end Units

/-! ## Single code points -/

/-- The forms in which a code point is written within a string. -/
inductive Escape (c : CodePoint) : Text → Prop
  | letter {e : CodePoint} : e ≠ 'u' → InAscii e → escaped? e = some c → Escape c ['\\', e]
  | plain : c ≠ '"' → c ≠ '\\' → InAscii c → Escape c [c]
  | unit : c.val < 0x10000 → Escape c (unitEscape c.val)
  | pair : 0x10000 ≤ c.val →
      Escape c (unitEscape (0xD800 + (c.val - 0x10000) / 0x400) ++ unitEscape (0xDC00 + (c.val - 0x10000) % 0x400))

/-- A code point is written in one of these forms. -/
theorem escape_cases (c : CodePoint) : Escape c (escape c) := by
  have hval {n : Nat} (h : c.val = n) : c = CodePoint.ofNat n :=
    CodePoint.ext (by rw [CodePoint.val_ofNat (h ▸ c.val_lt), h])
  unfold escape
  split
  case isTrue h => subst h; exact .letter (by decide) (by decide) (by decide)
  case isFalse hq =>
  split
  case isTrue h => subst h; exact .letter (by decide) (by decide) (by decide)
  case isFalse hb =>
  split
  case isTrue h => subst h; exact .letter (by decide) (by decide) (by decide)
  split
  case isTrue h => subst h; exact .letter (by decide) (by decide) (by decide)
  split
  case isTrue h => subst h; exact .letter (by decide) (by decide) (by decide)
  split
  case isTrue h => obtain rfl := hval h; exact .letter (by decide) (by decide) (by decide)
  split
  case isTrue h => obtain rfl := hval h; exact .letter (by decide) (by decide) (by decide)
  split
  case isTrue h => exact .plain hq hb ⟨h.1, by omega⟩
  split
  case isTrue h => exact .unit h
  case isFalse h => exact .pair (by omega)

variable {c : CodePoint} {written : Text}

/-- Each of them is made of visible characters and blanks. -/
theorem Escape.inAscii (h : Escape c written) : ∀ d ∈ written, InAscii d := by
  have hlt := c.val_lt
  cases h with
  | letter _ he _ => exact List.forall_mem_cons.mpr ⟨by decide, List.forall_mem_singleton.mpr he⟩
  | plain _ _ hc => exact List.forall_mem_singleton.mpr hc
  | unit h => exact unitEscape_inAscii h
  | pair h => exact List.forall_mem_append.mpr ⟨unitEscape_inAscii (by omega), unitEscape_inAscii (by omega)⟩

/-- Each of them is read as the code point, if something comes after it. -/
theorem Escape.stringBody_eq (h : Escape c written) (hc : c.isSurrogate = false) (m : CodePoint) (t : Text) :
    stringBody (written ++ m :: t) = prepend c (stringBody (m :: t)) := by
  have hs : ¬(0xD800 ≤ c.val ∧ c.val ≤ 0xDFFF) := by
    simpa [CodePoint.isSurrogate, Nat.not_le] using hc
  cases h with
  | letter hu _ he =>
    rw [List.cons_append, List.cons_append, List.nil_append, stringBody.eq_def]
    dsimp only
    rw [if_neg (by decide), if_pos rfl, if_neg hu, he]
  | plain hq hb ha =>
    rw [List.singleton_append, stringBody.eq_def]
    dsimp only
    rw [if_neg hq, if_neg hb, if_neg (Nat.not_lt.mpr ha.1)]
  | unit h =>
    have hv : CodePoint.ofNat c.val = c := CodePoint.ext (CodePoint.val_ofNat c.val_lt)
    have hu := unit?_ofDigit h
    rw [hv] at hu
    rw [unitEscape_eq h]
    refine stringBody_unit hu fun _ _ _ _ _ _ _ _ _ _ hh => absurd hh ?_
    simp only [CodePoint.isHighSurrogate, Bool.and_eq_true, decide_eq_true_eq]
    omega
  | pair h =>
    have hlt := c.val_lt
    have hh : 0xD800 + (c.val - 0x10000) / 0x400 < 0x10000 := by omega
    have hl : 0xDC00 + (c.val - 0x10000) % 0x400 < 0x10000 := by omega
    have hhigh := CodePoint.val_ofNat (n := 0xD800 + (c.val - 0x10000) / 0x400) (by omega)
    have hlow := CodePoint.val_ofNat (n := 0xDC00 + (c.val - 0x10000) % 0x400) (by omega)
    rw [unitEscape_eq hh, unitEscape_eq hl]
    refine (stringBody_pair (unit?_ofDigit hh) ?_ (unit?_ofDigit hl) ?_).trans ?_
    · simp only [CodePoint.isHighSurrogate, hhigh, Bool.and_eq_true, decide_eq_true_eq]
      omega
    · simp only [CodePoint.isLowSurrogate, hlow, Bool.and_eq_true, decide_eq_true_eq]
      omega
    · have hj : joined (CodePoint.ofNat (0xD800 + (c.val - 0x10000) / 0x400))
          (CodePoint.ofNat (0xDC00 + (c.val - 0x10000) % 0x400)) = c := by
        apply CodePoint.ext
        rw [joined, hhigh, hlow, CodePoint.val_ofNat (by omega)]
        omega
      rw [hj]

/-- **What stands for a code point in a string is read as this code point**, if something comes after it. -/
theorem stringBody_escape (hc : c.isSurrogate = false) (m : CodePoint) (t : Text) :
    stringBody (escape c ++ m :: t) = prepend c (stringBody (m :: t)) := (escape_cases c).stringBody_eq hc m t

/-! ## Strings -/

/-- **A string is read back up to its closing quote.** -/
theorem stringBody_written {s : Text} (hs : s.isScalar = true) (rest : Text) :
    stringBody (s.flatMap escape ++ .ofChar '"' :: rest) = .ok (s, rest) := by
  induction s with
  | nil =>
    rw [List.flatMap_nil, List.nil_append, stringBody.eq_def]
    exact if_pos rfl
  | cons c s ih =>
    simp only [Text.isScalar, List.all_cons, Bool.and_eq_true, Bool.not_eq_true'] at hs ih
    -- the digits of an escape are read only if something follows them, and at least the closing quote does
    obtain ⟨m, t, ht⟩ : ∃ m t, s.flatMap escape ++ .ofChar '"' :: rest = m :: t :=
      List.exists_cons_of_ne_nil (by simp)
    rw [List.flatMap_cons, List.append_assoc, ht, stringBody_escape hs.1, ← ht, ih hs.2]
    rfl

/-- A string in quotes before more text. -/
theorem writeString_append (t more : Text) :
    writeString t ++ more = .ofChar '"' :: (t.flatMap escape ++ .ofChar '"' :: more) := by
  simp [writeString, Text.ofString]

/-- A string in quotes is written in visible characters and blanks. -/
theorem writeString_inAscii (t : Text) : ∀ c ∈ writeString t, InAscii c := by
  have hq : InAscii (.ofChar '"') := by decide
  intro c hc
  rw [writeString] at hc
  rcases List.mem_append.mp hc with hc | hc
  · rcases List.mem_append.mp hc with hc | hc
    · exact List.mem_singleton.mp hc ▸ hq
    · obtain ⟨d, -, hc⟩ := List.mem_flatMap.mp hc
      exact (escape_cases d).inAscii c hc
  · exact List.mem_singleton.mp hc ▸ hq

end LiquidationDrill.Json
