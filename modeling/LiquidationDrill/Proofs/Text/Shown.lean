import LiquidationDrill.Log.VaultId
import LiquidationDrill.Proofs.Text.Lines
import LiquidationDrill.Proofs.Text.Lower
import LiquidationDrill.Proofs.Text.Printable

/-!
# Texts that are shown on one line

A text that holds neither line feeds nor escape characters (`Text.Shown`) is shown as it is, on one line. Lines of such
texts with a line feed after each are cut apart at the line feeds again (`Text.splitOn_framed`), and no carriage return
in them is taken for part of a line end (`Text.dropPairedReturns_framed`).

Printable texts are of this kind, and so is the plain form of a vault id if the id is (`Shown.plainVaultId`). For that,
lower case must not make a control character of anything else (`Text.mem_of_mem_lower`).
-/

namespace LiquidationDrill

namespace Text

/-- The text is shown as it is, on one line: it holds neither a line feed nor an escape character. -/
def Shown (t : Text) : Prop := ∀ c ∈ t, c ≠ '\n' ∧ c.isEscape = false

instance (t : Text) : Decidable (Shown t) := inferInstanceAs (Decidable (∀ c ∈ t, c ≠ '\n' ∧ c.isEscape = false))

section Parts

variable {s t : Text}

@[simp] theorem shown_append : Shown (s ++ t) ↔ Shown s ∧ Shown t := List.forall_mem_append

theorem Shown.of_subset (h : Shown t) (hs : s ⊆ t) : Shown s := fun c hc => h c (hs hc)

theorem Shown.not_feed (h : Shown t) : .ofChar '\n' ∉ t := fun hc => (h _ hc).1 rfl

theorem Printable.shown (h : Printable t) : Shown t := fun c hc =>
  ⟨fun e => h.not_feed (e ▸ hc), isEscape_eq_false_of_isPrintable (h c hc)⟩

/-- A line feed after a text that is shown as it is changes nothing. -/
theorem Shown.plain_line (h : Shown t) : (t ++ "\n").plain = t ++ [.ofChar '\n'] := by
  refine plain_eq_of_no_escape (t := t ++ [.ofChar '\n']) fun c hc => ?_
  rcases List.mem_append.mp hc with hc | hc
  · exact (h c hc).2
  · obtain rfl := List.mem_singleton.mp hc
    decide

end Parts

/-! ## Lines with a line feed after each -/

theorem framed_cons (line : Text) (ls : List Text) : framed (line :: ls) = line ++ .ofChar '\n' :: framed ls := by
  rw [framed, List.flatMap_cons, List.append_assoc, List.singleton_append, framed]

/-- There is always a piece. -/
theorem exists_splitOn (t : Text) (c : CodePoint) : ∃ piece pieces, t.splitOn c = piece :: pieces := by
  cases t with
  | nil => exact ⟨[], [], rfl⟩
  | cons d t =>
    rw [splitOn]
    split
    · split
      · exact ⟨_, _, rfl⟩
      · exact ⟨_, _, rfl⟩
    · exact ⟨_, _, rfl⟩

/-- What follows the first `c` is cut on its own. -/
theorem splitOn_line {line : Text} {c : CodePoint} (h : c ∉ line) (rest : Text) :
    (line ++ c :: rest).splitOn c = line :: rest.splitOn c := by
  induction line with
  | nil =>
    obtain ⟨piece, pieces, hr⟩ := exists_splitOn rest c
    rw [List.nil_append, splitOn, hr]
    exact if_pos rfl
  | cons d line ih =>
    obtain ⟨hd, hl⟩ := not_or.mp (mt List.mem_cons.mpr h)
    rw [List.cons_append, splitOn, ih hl]
    exact if_neg (Ne.symm hd)

/-- **Lines without line feeds, with a line feed after each, are cut apart at the line feeds.** -/
theorem splitOn_framed {ls : List Text} (h : ∀ line ∈ ls, .ofChar '\n' ∉ line) :
    (framed ls).splitOn '\n' = ls ++ [[]] := by
  induction ls with
  | nil => rfl
  | cons line ls ih =>
    obtain ⟨hl, hls⟩ := List.forall_mem_cons.mp h
    rw [framed_cons, splitOn_line hl, ih hls, List.cons_append]

/-- A line that no carriage return ends keeps all of them. -/
theorem dropPairedReturns_line {line : Text} (h : .ofChar '\n' ∉ line) (hr : line.getLast? ≠ some (.ofChar '\r'))
    (rest : Text) :
    (line ++ .ofChar '\n' :: rest).dropPairedReturns = line ++ .ofChar '\n' :: rest.dropPairedReturns := by
  induction line with
  | nil =>
    rw [List.nil_append, dropPairedReturns, if_neg fun e => absurd e.1 (by decide), List.nil_append]
  | cons c line ih =>
    obtain ⟨hc, hl⟩ := not_or.mp (mt List.mem_cons.mpr h)
    have hnot : ¬(c = '\r' ∧ (line ++ .ofChar '\n' :: rest).head? = some (.ofChar '\n')) := by
      rintro ⟨rfl, hh⟩
      cases line with
      | nil => exact hr rfl
      | cons d line =>
        obtain rfl := Option.some.inj hh
        exact hl List.mem_cons_self
    have hlast : line.getLast? ≠ some (.ofChar '\r') := by
      cases line with
      | nil => simp
      | cons d line => simpa [List.getLast?_cons_cons] using hr
    rw [List.cons_append, dropPairedReturns, if_neg hnot, ih hl hlast, List.cons_append]

/-- **Lines that no carriage return ends keep their carriage returns** when they are shown. -/
theorem dropPairedReturns_framed {ls : List Text}
    (h : ∀ line ∈ ls, .ofChar '\n' ∉ line ∧ line.getLast? ≠ some (.ofChar '\r')) :
    (framed ls).dropPairedReturns = framed ls := by
  induction ls with
  | nil => rfl
  | cons line ls ih =>
    obtain ⟨⟨hl, hr⟩, hls⟩ := List.forall_mem_cons.mp h
    rw [framed_cons, dropPairedReturns_line hl hr, ih hls]

end Text

/-! ## Lower case -/

/-- No run makes a control character. -/
theorem lowerRuns_apply_cases (n : Nat) : lowerRuns.apply n = n ∨ 0x20 ≤ lowerRuns.apply n := by
  have hall : ∀ run ∈ lowerRuns, 0x20 ≤ (run.1 : Int) + run.2.2.2 := by decide +kernel
  rcases CaseRuns.apply_eq lowerRuns n with he | ⟨run, hm, hfirst, -, he⟩
  · exact Or.inl he
  · have := hall run hm
    omega

namespace CodePoint

theorem le_val_ofNat {n : Nat} (h : 0x20 ≤ n) : 0x20 ≤ (ofNat n).val := by
  unfold ofNat
  split
  · exact h
  · decide

/-- The lower case of a code point is the code point, or holds no control character. -/
theorem eq_of_mem_toLower {c d : CodePoint} (h : d ∈ c.toLower) (hd : d.val < 0x20) : d = c := by
  unfold toLower at h
  split at h
  · have hall : ∀ d ∈ [0x69, 0x307].map ofNat, 0x20 ≤ d.val := by decide
    exact absurd (hall d h) (by omega)
  · obtain rfl := List.mem_singleton.mp h
    rcases lowerRuns_apply_cases c.val with he | he
    · rw [he]
      exact ext (val_ofNat c.val_lt)
    · exact absurd (le_val_ofNat he) (by omega)

end CodePoint

namespace Text

theorem mem_of_mem_lowerAfter {before t : Text} {d : CodePoint} (h : d ∈ lowerAfter before t) (hd : d.val < 0x20) :
    d ∈ t := by
  induction t generalizing before with
  | nil => exact h
  | cons c t ih =>
    rw [lowerAfter] at h
    rcases List.mem_append.mp h with h | h
    · split at h
      · have hle : 0x20 ≤ d.val := by
          rw [List.mem_singleton.mp h]
          split <;> decide
        omega
      · exact CodePoint.eq_of_mem_toLower h hd ▸ List.mem_cons_self
    · exact List.mem_cons_of_mem c (ih h)

/-- **Lower case holds no control characters but those of the text.** -/
theorem mem_of_mem_lower {t : Text} {d : CodePoint} (h : d ∈ t.lower) (hd : d.val < 0x20) : d ∈ t :=
  mem_of_mem_lowerAfter h hd

theorem Shown.lower {t : Text} (h : Shown t) : Shown t.lower := by
  intro c hc
  constructor
  · rintro rfl
    exact h.not_feed (mem_of_mem_lower hc (by decide))
  · rw [← Bool.not_eq_true]
    intro he
    have hlt : c.val < 0x20 := by
      rw [CodePoint.isEscape, decide_eq_true_eq] at he
      omega
    rw [(h c (mem_of_mem_lower hc hlt)).2] at he
    cases he

theorem trim_subset (p : CodePoint → Bool) (t : Text) : t.trim p ⊆ t := fun _ hc =>
  List.dropWhile_subset p (List.mem_reverse.mp (List.dropWhile_subset p (List.mem_reverse.mp hc)))

/-- **The plain form of a vault id is shown on one line** if the id is. -/
theorem Shown.plainVaultId {id : Text} (h : Shown id) : Shown (plainVaultId (.string id)) := by
  have hl : Shown ((id.strip.trim (· = .ofChar '"')).lower) :=
    (h.of_subset (List.Subset.trans (trim_subset _ _) (trim_subset _ id))).lower
  show Shown ((((id.strip.trim (· = .ofChar '"')).lower).dropStart? "0x").getD _)
  cases hs : ((id.strip.trim (· = .ofChar '"')).lower).dropStart? "0x" with
  | none => exact hl
  | some rest =>
    rw [dropStart?_eq_some] at hs
    rw [hs] at hl
    exact (shown_append.mp hl).2

end Text

end LiquidationDrill
