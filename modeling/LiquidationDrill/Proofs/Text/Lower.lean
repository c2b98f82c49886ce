import LiquidationDrill.Proofs.Text.Numeral
import LiquidationDrill.Proofs.Text.Rows
import LiquidationDrill.Text.Case

/-!
# Hexadecimal digits in lower case

What the runs of the map to lower case move, they move by the distance of one run (`CaseRuns.apply_eq`). So a code point
up to `h`, or an `x`, is the lower case of itself and of a capital of ASCII only (`CodePoint.toLower_eq_singleton`), and
lower case is read off code point by code point where it consists of these (`Text.lowerAfter_eq_cons`).

The lower case of a text is that of a row of hexadecimal digits iff the text is made of the same digits, in whatever case
(`Text.SameDigits`, `Text.lowerAfter_eq_lower`).
-/

namespace LiquidationDrill

/-! ## Runs -/

/-- What is moved is moved by the run that holds it. -/
theorem CaseRuns.apply_eq (runs : CaseRuns) (n : Nat) :
    runs.apply n = n ∨ ∃ run ∈ runs, run.1 ≤ n ∧ n ≤ run.2.1 ∧ runs.apply n = (n + run.2.2.2).toNat := by
  induction runs with
  | nil => exact Or.inl rfl
  | cons run runs ih =>
    obtain ⟨first, last, step, move⟩ := run
    rw [apply]
    by_cases hf : n < first
    · exact Or.inl (if_pos hf)
    · rw [if_neg hf]
      by_cases hl : n ≤ last
      · rw [if_pos hl]
        split
        · exact Or.inr ⟨_, List.mem_cons_self, Nat.le_of_not_lt hf, hl, rfl⟩
        · exact Or.inl rfl
      · rw [if_neg hl]
        refine ih.imp_right ?_
        rintro ⟨run, hm, hrun⟩
        exact ⟨run, List.mem_cons_of_mem _ hm, hrun⟩

/-- Of the numbers up to that of `h`, and that of `x`, the runs make only themselves and those of capitals. -/
theorem lowerRuns_apply_eq {n : Nat} (h : lowerRuns.apply n < 0x69 ∨ lowerRuns.apply n = 0x78) :
    lowerRuns.apply n = n ∨ 0x41 ≤ n ∧ n ≤ 0x5A ∧ lowerRuns.apply n = n + 0x20 := by
  -- one run is that of the capitals, one makes a `k` of the sign for kelvin, and all others end up beyond `x`
  have hall : ∀ run ∈ lowerRuns, run = (0x41, 0x5A, 1, 0x20) ∨ 0x79 ≤ (run.1 : Int) + run.2.2.2 ∨
      run.1 = run.2.1 ∧ (run.1 : Int) + run.2.2.2 = 0x6B := by decide +kernel
  rcases CaseRuns.apply_eq lowerRuns n with he | ⟨run, hm, hfirst, hlast, he⟩
  · exact Or.inl he
  · rcases hall run hm with rfl | hmove | ⟨hone, hmove⟩
    · right
      dsimp only at hfirst hlast he
      omega
    · omega
    · omega

namespace CodePoint

/-! ## Single code points -/

/-- Nothing outside of ASCII has this code point for its lower case: it is at most `h`, or it is `x`. -/
def OnlyOfAscii (d : CodePoint) : Prop := d.val < 0x69 ∨ d.val = 0x78

instance (d : CodePoint) : Decidable d.OnlyOfAscii := inferInstanceAs (Decidable (_ ∨ _))

/-- Such a code point is the lower case of itself or of a capital. -/
theorem toLower_eq_singleton {c d : CodePoint} (hd : d.OnlyOfAscii) (h : c.toLower = [d]) :
    c = d ∨ 0x41 ≤ c.val ∧ c.val ≤ 0x5A ∧ d.val = c.val + 0x20 := by
  unfold toLower at h
  split at h
  · simp at h
  · obtain rfl := List.singleton_inj.mp h
    have hv : (ofNat (lowerRuns.apply c.val)).val = lowerRuns.apply c.val := by
      unfold ofNat at hd ⊢
      split at hd
      next hlt => rw [dif_pos hlt]
      · exact absurd hd (by simp [OnlyOfAscii, replacement])
    rw [OnlyOfAscii, hv] at hd
    rcases lowerRuns_apply_eq hd with he | ⟨hfirst, hlast, he⟩
    · left
      rw [he]
      exact ext (val_ofNat c.val_lt).symm
    · exact Or.inr ⟨hfirst, hlast, hv.trans he⟩

/-- The zero is the lower case of itself only. -/
theorem toLower_eq_zero {c : CodePoint} : c.toLower = [.ofChar '0'] ↔ c = '0' := by
  constructor
  · intro h
    rcases toLower_eq_singleton (Or.inl (by decide)) h with rfl | ⟨hfirst, -, hv⟩
    · rfl
    · have hzero : (ofChar '0').val = 0x30 := rfl
      omega
  · rintro rfl
    decide +kernel

/-- An `x` is the lower case of itself and of its capital. -/
theorem toLower_eq_x {c : CodePoint} : c.toLower = [.ofChar 'x'] ↔ c = 'x' ∨ c = 'X' := by
  constructor
  · intro h
    rcases toLower_eq_singleton (Or.inr rfl) h with rfl | ⟨-, -, hv⟩
    · exact Or.inl rfl
    · right
      have hx : (ofChar 'x').val = 0x78 := rfl
      exact ext (show c.val = 0x58 by omega)
  · rintro (rfl | rfl) <;> decide +kernel

/-- The digit of a value in lower case. -/
theorem val_ofDigit_hex {v : Nat} (h : v < 16) : (ofDigit v).val = if v < 10 then 0x30 + v else 0x57 + v := by
  rw [ofDigit, val_ofNat]
  split <;> omega

theorem onlyOfAscii_ofDigit {v : Nat} (h : v < 16) : (ofDigit v).OnlyOfAscii := by
  left
  rw [val_ofDigit_hex h]
  split <;> omega

/-- **The digit of a value is the lower case of what has this value**, and of nothing else. -/
theorem toLower_eq_ofDigit {c : CodePoint} {v : Nat} (hv : v < 16) : c.toLower = [ofDigit v] ↔ c.hex? = some v := by
  constructor
  · intro h
    rcases toLower_eq_singleton (onlyOfAscii_ofDigit hv) h with rfl | ⟨hfirst, -, hval⟩
    · exact hex?_ofDigit hv
    · rw [val_ofDigit_hex hv] at hval
      unfold hex?
      split at hval
      · omega
      · rw [if_neg (by simp; omega), if_pos (by simp; omega), Option.some_inj]
        omega
  · intro h
    have hall : ∀ n < 0x67, (ofNat n).hex?.all (fun v => (ofNat n).toLower = [ofDigit v]) = true := by decide +kernel
    have hlt : c.val < 0x67 := by
      unfold hex? at h
      grind
    have hc : ofNat c.val = c := ext (val_ofNat c.val_lt)
    have ha := hall c.val hlt
    rw [hc, h] at ha
    simpa using ha

end CodePoint

namespace Text

/-! ## Texts -/

/-- Lower case is read off code point by code point. -/
theorem lowerAfter_eq_cons {before t ds : Text} {c d : CodePoint} (hd : d.OnlyOfAscii) :
    lowerAfter before (c :: t) = d :: ds ↔ c.toLower = [d] ∧ lowerAfter (c :: before) t = ds := by
  rw [lowerAfter]
  by_cases hs : c.val = 0x3A3
  · -- a sigma becomes one of two letters beyond ASCII
    rw [if_pos hs, List.singleton_append, List.cons_eq_cons]
    constructor
    · rintro ⟨rfl, -⟩
      split at hd
      · exact absurd hd (by decide)
      · exact absurd hd (by decide)
    · rintro ⟨h, -⟩
      rcases CodePoint.toLower_eq_singleton hd h with rfl | hc
      · rw [CodePoint.OnlyOfAscii, hs] at hd
        omega
      · omega
  · rw [if_neg hs, CodePoint.toLower]
    by_cases hi : c.val = 0x130
    · rw [if_pos hi]
      refine iff_of_false (fun h => ?_) (fun h => ?_)
      · obtain rfl := (List.cons.inj h).1
        exact absurd hd (by decide)
      · simp at h
    · rw [if_neg hi, List.singleton_append, List.cons_eq_cons, List.singleton_inj]

/-- The same hexadecimal digits, in whatever case. -/
def SameDigits (s t : Text) : Prop := s.map CodePoint.hex? = t.map CodePoint.hex?

instance (s t : Text) : Decidable (SameDigits s t) := inferInstanceAs (Decidable (_ = _))

/-- What has the digits of a row of digits is one. -/
theorem SameDigits.isRow {s t : Text} (h : SameDigits s t) (ht : IsRow CodePoint.isHex t) : IsRow CodePoint.isHex s := by
  constructor
  · rintro rfl
    exact ht.1 (List.map_eq_nil_iff.mp (Eq.symm h))
  · intro c hc
    have hm : c.hex? ∈ t.map CodePoint.hex? := h ▸ List.mem_map_of_mem hc
    obtain ⟨d, hd, hv⟩ := List.mem_map.mp hm
    rw [CodePoint.isHex, ← hv]
    exact ht.2 d hd

/-- The values of hexadecimal digits. -/
theorem exists_values {t : Text} (h : ∀ c ∈ t, c.isHex = true) :
    ∃ values : List Nat, (∀ v ∈ values, v < 16) ∧ t.map CodePoint.hex? = values.map some := by
  induction t with
  | nil => exact ⟨[], List.forall_mem_nil _, rfl⟩
  | cons c t ih =>
    obtain ⟨hc, ht⟩ := List.forall_mem_cons.mp h
    obtain ⟨v, hv⟩ := Option.isSome_iff_exists.mp hc
    obtain ⟨values, hlt, hvalues⟩ := ih ht
    refine ⟨v :: values, List.forall_mem_cons.mpr ⟨CodePoint.hex?_lt hv, hlt⟩, ?_⟩
    rw [List.map_cons, List.map_cons, hv, hvalues]

/-- The lower case is a row of digits iff the text has their values. -/
theorem lowerAfter_eq_digits {before t : Text} {values : List Nat} (h : ∀ v ∈ values, v < 16) :
    lowerAfter before t = values.map CodePoint.ofDigit ↔ t.map CodePoint.hex? = values.map some := by
  induction t generalizing before values with
  | nil => cases values <;> simp [lowerAfter]
  | cons c t ih =>
    cases values with
    | nil =>
      refine iff_of_false (fun hl => ?_) (fun hl => by cases hl)
      rw [lowerAfter, List.map_nil, List.append_eq_nil_iff] at hl
      have hne := hl.1
      unfold CodePoint.toLower at hne
      split at hne
      · cases hne
      · split at hne <;> cases hne
    | cons v values =>
      obtain ⟨hv, hvalues⟩ := List.forall_mem_cons.mp h
      rw [List.map_cons, lowerAfter_eq_cons (CodePoint.onlyOfAscii_ofDigit hv), CodePoint.toLower_eq_ofDigit hv,
        ih hvalues, List.map_cons, List.map_cons, List.cons_eq_cons]

/-- **The lower case is that of a row of digits iff the text is made of the same digits**, whatever stands before it. -/
theorem lowerAfter_eq_lower {before s digits : Text} (h : ∀ c ∈ digits, c.isHex = true) :
    lowerAfter before s = digits.lower ↔ SameDigits s digits := by
  obtain ⟨values, hlt, hvalues⟩ := exists_values h
  rw [lower, (lowerAfter_eq_digits hlt).mpr hvalues, lowerAfter_eq_digits hlt, SameDigits, hvalues]

/-- Lower case keeps the digits. -/
theorem sameDigits_lower {digits : Text} (h : ∀ c ∈ digits, c.isHex = true) : SameDigits digits.lower digits := by
  obtain ⟨values, hlt, hvalues⟩ := exists_values h
  rw [SameDigits, hvalues, lower, (lowerAfter_eq_digits hlt).mpr hvalues, List.map_map]
  exact List.map_congr_left fun v hv => CodePoint.hex?_ofDigit (hlt v hv)

end Text

end LiquidationDrill
