import LiquidationDrill.Text.Blank
import LiquidationDrill.Text.Digit
import LiquidationDrill.Text.Word

/-!
# Rows of code points

A row is at least one code point of a class, and nothing else (`Text.IsRow`). Where something of another class follows a
row, the row is taken as a whole (`Text.takeWhile_row`, `Text.dropWhile_row`), and where code points of one class stand
around a row of others, trimming leaves the row (`Text.trim_around`). No white space stands in words
(`CodePoint.isWord_of_isBlank`), so a row of white space ends where a word begins. Hexadecimal digits stand in words
(`CodePoint.isWord_of_isHex`).
-/

namespace LiquidationDrill

namespace Text

/-- At least one code point, and all of the class. -/
def IsRow (p : CodePoint → Bool) (t : Text) : Prop := t ≠ [] ∧ ∀ c ∈ t, p c = true

instance (p : CodePoint → Bool) (t : Text) : Decidable (IsRow p t) := inferInstanceAs (Decidable (_ ∧ _))

/-- The text begins with no code point of the class. -/
def StartsOutside (p : CodePoint → Bool) (t : Text) : Prop := ∀ c, t.head? = some c → p c = false

theorem startsOutside_nil (p : CodePoint → Bool) : StartsOutside p [] := fun _ hc => by cases hc

section Rows

variable {p : CodePoint → Bool} {row rest : Text}

/-- What is left after the code points of a class begins with none of them. -/
theorem startsOutside_dropWhile (p : CodePoint → Bool) (t : Text) : StartsOutside p (t.dropWhile p) := by
  intro c hc
  have h := List.head?_dropWhile_not p t
  rwa [hc] at h

/-- Nothing is taken of a text that begins outside the class. -/
theorem StartsOutside.takeWhile_eq (h : StartsOutside p rest) : rest.takeWhile p = [] := by
  cases rest with
  | nil => rfl
  | cons c rest => simp [h c rfl]

theorem StartsOutside.dropWhile_eq (h : StartsOutside p rest) : rest.dropWhile p = rest := by
  cases rest with
  | nil => rfl
  | cons c rest => simp [h c rfl]

/-- Code points of the class are taken up to something outside it. -/
theorem takeWhile_row (hr : ∀ c ∈ row, p c = true) (h : StartsOutside p rest) : (row ++ rest).takeWhile p = row := by
  rw [List.takeWhile_append_of_pos hr, h.takeWhile_eq, List.append_nil]

/-- And what is outside is left. -/
theorem dropWhile_row (hr : ∀ c ∈ row, p c = true) (h : StartsOutside p rest) : (row ++ rest).dropWhile p = rest := by
  rw [List.dropWhile_append_of_pos hr, h.dropWhile_eq]

/-- A row of another class that shares nothing with this one begins outside it. -/
theorem IsRow.startsOutside {q : CodePoint → Bool} (h : IsRow q row) (hpq : ∀ c, q c = true → p c = false)
    (rest : Text) : StartsOutside p (row ++ rest) := by
  obtain ⟨c, row, rfl⟩ := List.exists_cons_of_ne_nil h.1
  intro d hd
  obtain rfl : c = d := Option.some.inj hd
  exact hpq c (h.2 c List.mem_cons_self)

/-- A row is a row backwards. -/
theorem IsRow.reverse (h : IsRow p row) : IsRow p row.reverse :=
  ⟨List.reverse_ne_nil_iff.mpr h.1, fun c hc => h.2 c (List.mem_reverse.mp hc)⟩

/-- What is trimmed of a text are code points of the class, on both sides. -/
theorem exists_trim (p : CodePoint → Bool) (t : Text) : ∃ before after : Text,
    t = before ++ (t.trim p ++ after) ∧ (∀ c ∈ before, p c = true) ∧ ∀ c ∈ after, p c = true := by
  have hback : t.dropWhile p = t.trim p ++ ((t.dropWhile p).reverse.takeWhile p).reverse := by
    rw [trim, ← List.reverse_append, List.takeWhile_append_dropWhile, List.reverse_reverse]
  refine ⟨t.takeWhile p, ((t.dropWhile p).reverse.takeWhile p).reverse, ?_, List.all_eq_true.mp List.all_takeWhile,
    fun c hc => List.all_eq_true.mp List.all_takeWhile c (List.mem_reverse.mp hc)⟩
  rw [← hback, List.takeWhile_append_dropWhile]

/-- **Of a row between code points of the class the row is left**, if it holds none of them. -/
theorem trim_around {before after : Text} (hb : ∀ c ∈ before, p c = true) (hr : IsRow (fun c => !p c) row)
    (ha : ∀ c ∈ after, p c = true) : trim p (before ++ (row ++ after)) = row := by
  have hout (c : CodePoint) (hc : (!p c) = true) : p c = false := by simpa using hc
  have hback : StartsOutside p row.reverse := List.append_nil row.reverse ▸ hr.reverse.startsOutside hout []
  have ha' : ∀ c ∈ after.reverse, p c = true := fun c hc => ha c (List.mem_reverse.mp hc)
  rw [trim, dropWhile_row hb (hr.startsOutside hout after), List.reverse_append, dropWhile_row ha' hback,
    List.reverse_reverse]

end Rows

end Text

/-! ## White space and words -/

/-- What is in ranges is in one of them. -/
theorem Ranges.exists_of_has {ranges : Ranges} {n : Nat} (h : ranges.has n = true) :
    ∃ range ∈ ranges, range.1 ≤ n ∧ n ≤ range.2 := by
  induction ranges with
  | nil => cases h
  | cons range ranges ih =>
    obtain ⟨first, last⟩ := range
    rw [has] at h
    split at h
    case isTrue => cases h
    case isFalse hf =>
      rcases Bool.or_eq_true_iff.mp h with hl | hr
      · exact ⟨_, List.mem_cons_self, Nat.le_of_not_lt hf, of_decide_eq_true hl⟩
      · obtain ⟨range, hm, hrange⟩ := ih hr
        exact ⟨range, List.mem_cons_of_mem _ hm, hrange⟩

/-- **No white space stands in words.** -/
theorem CodePoint.isWord_of_isBlank {c : CodePoint} (h : c.isBlank = true) : c.isWord = false := by
  have hall : ∀ range ∈ blankRanges, ∀ k < range.2 + 1 - range.1, wordRanges.has (range.1 + k) = false := by
    decide +kernel
  obtain ⟨range, hm, hfirst, hlast⟩ := Ranges.exists_of_has h
  have hk := hall range hm (c.val - range.1) (by omega)
  rwa [Nat.add_sub_cancel' hfirst] at hk

theorem CodePoint.isBlank_of_isWord {c : CodePoint} (h : c.isWord = true) : c.isBlank = false := by
  rw [← Bool.not_eq_true]
  intro hb
  rw [isWord_of_isBlank hb] at h
  cases h

/-! ## Hexadecimal digits -/

/-- Hexadecimal digits are letters and digits of ASCII. -/
theorem CodePoint.val_of_isHex {c : CodePoint} (h : c.isHex = true) :
    0x30 ≤ c.val ∧ c.val ≤ 0x39 ∨ 0x41 ≤ c.val ∧ c.val ≤ 0x46 ∨ 0x61 ≤ c.val ∧ c.val ≤ 0x66 := by
  unfold isHex hex? at h
  grind

/-- Their values are below sixteen. -/
theorem CodePoint.hex?_lt {c : CodePoint} {v : Nat} (h : c.hex? = some v) : v < 16 := by
  unfold hex? at h
  grind

/-- **Hexadecimal digits stand in words.** -/
theorem CodePoint.isWord_of_isHex {c : CodePoint} (h : c.isHex = true) : c.isWord = true := by
  have hall : ∀ n < 0x67, 0x30 ≤ n ∧ n ≤ 0x39 ∨ 0x41 ≤ n ∧ n ≤ 0x46 ∨ 0x61 ≤ n ∧ n ≤ 0x66 →
      wordRanges.has n = true := by decide +kernel
  have hv := val_of_isHex h
  exact hall c.val (by omega) hv

/-- No `0x` stands before digits alone, since its second code point is no digit. -/
theorem Text.dropStart?_eq_none_of_isHex {t : Text} (h : ∀ c ∈ t, c.isHex = true) : t.dropStart? "0x" = none := by
  rw [← Option.not_isSome_iff_eq_none, Option.isSome_iff_exists]
  rintro ⟨rest, hr⟩
  have hmem : .ofChar 'x' ∈ t := by
    rw [Text.dropStart?_eq_some.mp hr]
    exact List.mem_append_left rest (by decide)
  exact absurd (h _ hmem) (by decide)

end LiquidationDrill
