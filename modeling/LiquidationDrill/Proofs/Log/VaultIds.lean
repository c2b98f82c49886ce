import LiquidationDrill.Log.VaultId
import LiquidationDrill.Proofs.Text.Lower

/-!
# Vault ids are told by their digits

The digits of a vault are shown in either case, after `0x` or `0X` or alone, between quotes and between white space
(`Decoration`). The plain form of an id is the lower case of a row of digits iff the id shows these digits in this way
(`plainVaultId_eq_lower`): what is trimmed is what stands around them, and the mark is told from the digits by its `x`.
So the plain form is kept as it is by taking it again (`plainVaultId_plain`), and two ids that show digits have one
plain form iff these are the same digits (`plainVaultId_eq_iff`).
-/

namespace LiquidationDrill

open Text (IsRow SameDigits)

/-! ## Decorations -/

/-- What may stand directly before the digits of an id. -/
def idMarks : List Text := [[], "0x", "0X"]

/-- A way to show the digits of an id: in whatever case, with white space, quotes and a mark before them, and quotes and
white space after them. -/
structure Decoration (digits : Text) where
  before : Text
  left : Text
  mark : Text
  shown : Text
  right : Text
  after : Text
  blank : ∀ c ∈ before ++ after, c.isBlank = true
  quotes : ∀ c ∈ left ++ right, c = .ofChar '"'
  mark_mem : mark ∈ idMarks
  same : SameDigits shown digits

/-- The digits as they are shown. -/
def Decoration.text {digits : Text} (d : Decoration digits) : Text :=
  d.before ++ (d.left ++ (d.mark ++ d.shown ++ d.right) ++ d.after)

/-- The text is the digits, decorated. -/
def Decorates (digits t : Text) : Prop := ∃ d : Decoration digits, d.text = t

/-- Digits alone are decorated with nothing. -/
theorem decorates_of_sameDigits {digits shown : Text} (h : SameDigits shown digits) : Decorates digits shown := by
  refine ⟨⟨[], [], [], shown, [], [], List.forall_mem_nil _, List.forall_mem_nil _, List.mem_cons_self, h⟩, ?_⟩
  simp [Decoration.text]

/-! ## Trimming -/

/-- No blank and no quote stands in marks. -/
theorem outside_of_mem_mark {mark : Text} (hm : mark ∈ idMarks) :
    ∀ c ∈ mark, c.isBlank = false ∧ c ≠ .ofChar '"' := by
  revert mark
  decide +kernel

/-- And none in digits. -/
theorem outside_of_isHex {c : CodePoint} (h : c.isHex = true) : c.isBlank = false ∧ c ≠ .ofChar '"' := by
  refine ⟨CodePoint.isBlank_of_isWord (CodePoint.isWord_of_isHex h), ?_⟩
  rintro rfl
  exact absurd h (by decide)

section Trimming

variable {digits : Text}

/-- A mark and digits after it are a row without white space and quotes. -/
theorem Decoration.core_row (d : Decoration digits) (h : IsRow CodePoint.isHex digits) :
    IsRow (fun c => !c.isBlank && c ≠ .ofChar '"') (d.mark ++ d.shown) := by
  have hshown := d.same.isRow h
  refine ⟨List.append_ne_nil_of_right_ne_nil _ hshown.1, List.forall_mem_append.mpr ⟨fun c hc => ?_, fun c hc => ?_⟩⟩
  · simpa using outside_of_mem_mark d.mark_mem c hc
  · simpa using outside_of_isHex (hshown.2 c hc)

/-- Of digits that are decorated, trimming leaves the digits and the mark before them. -/
theorem Decoration.trimmed (d : Decoration digits) (h : IsRow CodePoint.isHex digits) :
    d.text.strip.trim (· = .ofChar '"') = d.mark ++ d.shown := by
  obtain ⟨hne, hcore⟩ := d.core_row h
  obtain ⟨hbefore, hafter⟩ := List.forall_mem_append.mp d.blank
  obtain ⟨hleft, hright⟩ := List.forall_mem_append.mp d.quotes
  have hquote (c : CodePoint) (hc : c = .ofChar '"') : (!c.isBlank) = true := by
    rw [hc]
    decide
  have hinner : IsRow (fun c => !c.isBlank) (d.left ++ (d.mark ++ d.shown ++ d.right)) := by
    refine ⟨List.append_ne_nil_of_right_ne_nil _ (List.append_ne_nil_of_left_ne_nil hne _), fun c hc => ?_⟩
    rcases List.mem_append.mp hc with hc | hc
    · exact hquote c (hleft c hc)
    · rcases List.mem_append.mp hc with hc | hc
      · exact (Bool.and_eq_true_iff.mp (hcore c hc)).1
      · exact hquote c (hright c hc)
  rw [text, Text.strip, Text.trim_around hbefore hinner hafter]
  refine Text.trim_around (fun c hc => decide_eq_true (hleft c hc)) ⟨hne, fun c hc => ?_⟩
    fun c hc => decide_eq_true (hright c hc)
  simpa using (Bool.and_eq_true_iff.mp (hcore c hc)).2

/-- Where trimming leaves a mark and digits, what was trimmed decorates these. -/
theorem decorates_of_trim {t mark shown : Text} (hm : mark ∈ idMarks) (hs : SameDigits shown digits)
    (ht : t.strip.trim (· = .ofChar '"') = mark ++ shown) : Decorates digits t := by
  obtain ⟨before, after, hstrip, hbefore, hafter⟩ := Text.exists_trim CodePoint.isBlank t
  obtain ⟨left, right, htrim, hleft, hright⟩ := Text.exists_trim (· = .ofChar '"') t.strip
  refine ⟨⟨before, left, mark, shown, right, after, List.forall_mem_append.mpr ⟨hbefore, hafter⟩,
    List.forall_mem_append.mpr ⟨fun c hc => of_decide_eq_true (hleft c hc), fun c hc => of_decide_eq_true (hright c hc)⟩,
    hm, hs⟩, ?_⟩
  rw [Decoration.text, ← ht, ← htrim]
  exact hstrip.symm

end Trimming

/-! ## Marks -/

section Marks

variable {digits t : Text}

/-- The lower case is `0x` and the digits iff the digits stand after a mark that is not empty. -/
theorem lower_eq_marked (h : ∀ c ∈ digits, c.isHex = true) : t.lower = "0x" ++ digits.lower ↔
    ∃ shown, SameDigits shown digits ∧ (t = "0x" ++ shown ∨ t = "0X" ++ shown) := by
  have hmark : ("0x" : Text) ++ digits.lower = .ofChar '0' :: .ofChar 'x' :: digits.lower := rfl
  have hlower (c d : CodePoint) (shown : Text) : Text.lower (c :: d :: shown) = "0x" ++ digits.lower ↔
      c = '0' ∧ (d = 'x' ∨ d = 'X') ∧ SameDigits shown digits := by
    rw [hmark, Text.lower, Text.lowerAfter_eq_cons (by decide), CodePoint.toLower_eq_zero,
      Text.lowerAfter_eq_cons (by decide), CodePoint.toLower_eq_x, Text.lowerAfter_eq_lower h]
  constructor
  · intro hl
    rcases t with _ | ⟨c, _ | ⟨d, shown⟩⟩
    · cases hl
    · rw [hmark, Text.lower, Text.lowerAfter_eq_cons (by decide)] at hl
      cases hl.2
    · obtain ⟨rfl, rfl | rfl, hs⟩ := (hlower c d shown).mp hl
      · exact ⟨shown, hs, Or.inl rfl⟩
      · exact ⟨shown, hs, Or.inr rfl⟩
  · rintro ⟨shown, hs, rfl | rfl⟩
    · exact (hlower '0' 'x' shown).mpr ⟨rfl, Or.inl rfl, hs⟩
    · exact (hlower '0' 'X' shown).mpr ⟨rfl, Or.inr rfl, hs⟩

/-- Without `0x`, the lower case is that of digits iff a mark and these digits stand there. -/
theorem lower_unmarked (h : IsRow CodePoint.isHex digits) : (t.lower.dropStart? "0x").getD t.lower = digits.lower ↔
    ∃ mark ∈ idMarks, ∃ shown, SameDigits shown digits ∧ t = mark ++ shown := by
  have hdigits := h.2
  constructor
  · intro hl
    cases hd : t.lower.dropStart? "0x" with
    | none =>
      rw [hd, Option.getD_none, Text.lower, Text.lowerAfter_eq_lower hdigits] at hl
      exact ⟨[], List.mem_cons_self, t, hl, rfl⟩
    | some rest =>
      rw [hd, Option.getD_some] at hl
      rw [hl, Text.dropStart?_eq_some, lower_eq_marked hdigits] at hd
      obtain ⟨shown, hs, rfl | rfl⟩ := hd
      · exact ⟨"0x", by decide, shown, hs, rfl⟩
      · exact ⟨"0X", by decide, shown, hs, rfl⟩
  · rintro ⟨mark, hm, shown, hs, rfl⟩
    have hmarked (hl : (mark ++ shown).lower = "0x" ++ digits.lower) :
        ((mark ++ shown).lower.dropStart? "0x").getD (mark ++ shown).lower = digits.lower := by
      rw [Text.dropStart?_eq_some.mpr hl, Option.getD_some]
    simp only [idMarks, List.mem_cons, List.not_mem_nil, or_false] at hm
    rcases hm with rfl | rfl | rfl
    · have hl : shown.lower = digits.lower := (Text.lowerAfter_eq_lower hdigits).mpr hs
      have hrow := (Text.sameDigits_lower hdigits).isRow h
      rw [List.nil_append, hl, Text.dropStart?_eq_none_of_isHex hrow.2, Option.getD_none]
    · exact hmarked ((lower_eq_marked hdigits).mpr ⟨shown, hs, Or.inl rfl⟩)
    · exact hmarked ((lower_eq_marked hdigits).mpr ⟨shown, hs, Or.inr rfl⟩)

end Marks

/-! ## Plain forms -/

section Plain

variable {digits others : Text} {id other : Value}

/-- **The plain form of an id is a row of digits in lower case iff the id shows these digits.** -/
theorem plainVaultId_eq_lower (h : IsRow CodePoint.isHex digits) :
    plainVaultId id = digits.lower ↔ Decorates digits id.display := by
  unfold plainVaultId
  dsimp only
  rw [lower_unmarked h]
  constructor
  · rintro ⟨mark, hm, shown, hs, ht⟩
    exact decorates_of_trim hm hs ht
  · rintro ⟨d, hd⟩
    exact ⟨d.mark, d.mark_mem, d.shown, d.same, hd ▸ d.trimmed h⟩

/-- What is plain stays as it is. -/
theorem plainVaultId_plain (h : IsRow CodePoint.isHex digits) (hid : Decorates digits id.display) :
    plainVaultId (.string (plainVaultId id)) = plainVaultId id := by
  rw [(plainVaultId_eq_lower h).mpr hid, plainVaultId_eq_lower h]
  exact decorates_of_sameDigits (Text.sameDigits_lower h.2)

/-- **Ids that show digits have one plain form iff they show the same digits.** -/
theorem plainVaultId_eq_iff (h : IsRow CodePoint.isHex digits) (hid : Decorates digits id.display)
    (ho : IsRow CodePoint.isHex others) (hother : Decorates others other.display) :
    plainVaultId id = plainVaultId other ↔ SameDigits digits others := by
  rw [(plainVaultId_eq_lower h).mpr hid, (plainVaultId_eq_lower ho).mpr hother, Text.lower,
    Text.lowerAfter_eq_lower ho.2]

end Plain

end LiquidationDrill
