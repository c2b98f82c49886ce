import LiquidationDrill.Text.Lines

/-!
# The lines of a text

A text falls into lines in exactly one way (`Text.fallsInto_iff`): each line holds no line end, a line end stands after
every line but perhaps the last one, and what follows the last line end is a line unless it is empty.

- `Text.IsBreak`: a line end as it stands before a rest; a carriage return and its line feed are one;
- `Text.FallsInto`: a text and its lines;
- `Text.lines_append`: the lines of two texts, the first of which ends with a line feed, one after the other;
- `Text.lines_framed`, `Text.lines_join`: lines that are written with a line feed after each, or between any two of
  them, are read back;
- `Text.lines_unifyNewlines`: the lines are the same with line feeds for carriage returns;
- `Text.unifyNewlines_unifyNewlines`: after that no carriage return is left to be replaced.
-/

namespace LiquidationDrill

namespace Text

/-- No line end stands in the text. -/
def Unbroken (t : Text) : Prop := ∀ c ∈ t, c.isLineEnd = false

/-- A line end before `rest`: a carriage return with its line feed, or one code point that is no half of such a
pair. -/
inductive IsBreak (rest : Text) : Text → Prop
  | pair : IsBreak rest ['\r', '\n']
  | single {c : CodePoint} : c.isLineEnd = true → ¬(c = '\r' ∧ rest.head? = some (.ofChar '\n')) → IsBreak rest [c]

/-- A text falls into lines. -/
inductive FallsInto : Text → List Text → Prop
  | nil : FallsInto [] []
  | last {line : Text} : Unbroken line → line ≠ [] → FallsInto line [line]
  | cons {line ending rest : Text} {lines : List Text} :
      Unbroken line → IsBreak rest ending → FallsInto rest lines → FallsInto (line ++ ending ++ rest) (line :: lines)

theorem isLineEnd_return : (CodePoint.ofChar '\r').isLineEnd = true := by decide

theorem isLineEnd_feed : (CodePoint.ofChar '\n').isLineEnd = true := by decide

/-- What is no line end is no carriage return. -/
theorem ne_return {c : CodePoint} (h : c.isLineEnd = false) : c ≠ '\r' := by
  rintro rfl
  rw [isLineEnd_return] at h
  cases h

theorem Unbroken.of_cons {c : CodePoint} {t : Text} (h : Unbroken (c :: t)) : c.isLineEnd = false ∧ Unbroken t :=
  ⟨h c List.mem_cons_self, fun d hd => h d (List.mem_cons_of_mem c hd)⟩

/-- A code point that ends no line belongs to the first line. -/
theorem lines_cons {c : CodePoint} {t line : Text} {rest : List Text} (h : c.isLineEnd = false)
    (ht : lines t = line :: rest) : lines (c :: t) = (c :: line) :: rest := by
  rw [lines, if_neg fun e => ne_return h e.1, if_neg (by simp [h]), ht]

theorem lines_singleton {c : CodePoint} (h : c.isLineEnd = false) : lines [c] = [[c]] := by
  rw [lines, if_neg fun e => ne_return h e.1, if_neg (by simp [h]), lines]

/-- A line end at the beginning closes an empty line. -/
theorem lines_break {rest ending : Text} (h : IsBreak rest ending) : lines (ending ++ rest) = [] :: lines rest := by
  cases h with
  | pair =>
    have hf : ¬(CodePoint.ofChar '\n' = '\r' ∧ rest.head? = some (CodePoint.ofChar '\n')) := fun e =>
      absurd e.1 (by decide)
    rw [List.cons_append, lines, if_pos ⟨rfl, rfl⟩, List.cons_append, List.nil_append, lines, if_neg hf,
      if_pos isLineEnd_feed]
  | single hc hp => rw [List.singleton_append, lines, if_neg hp, if_pos hc]

/-- A line and its end are the first line. -/
theorem lines_append_break {line rest ending : Text} (hl : Unbroken line) (h : IsBreak rest ending) :
    lines (line ++ ending ++ rest) = line :: lines rest := by
  induction line with
  | nil => exact lines_break h
  | cons c line ih =>
    obtain ⟨hc, hl⟩ := hl.of_cons
    have ih := ih hl
    rw [List.cons_append, List.cons_append, lines_cons hc ih]

/-- A text without line ends is one line, unless it is empty. -/
theorem lines_of_unbroken {line : Text} (hl : Unbroken line) (hne : line ≠ []) : lines line = [line] := by
  induction line with
  | nil => exact absurd rfl hne
  | cons c line ih =>
    obtain ⟨hc, hl⟩ := hl.of_cons
    cases line with
    | nil => exact lines_singleton hc
    | cons d line => exact lines_cons hc (ih hl (List.cons_ne_nil d line))

/-- A text falls into its lines only. -/
theorem FallsInto.lines_eq {t : Text} {ls : List Text} (h : FallsInto t ls) : t.lines = ls := by
  induction h with
  | nil => rfl
  | last hl hne => exact lines_of_unbroken hl hne
  | cons hl hb _ ih => rw [lines_append_break hl hb, ih]

/-- A text has a line end or is unbroken. -/
theorem unbroken_or_break (t : Text) :
    Unbroken t ∨ ∃ line ending rest, Unbroken line ∧ IsBreak rest ending ∧ t = line ++ ending ++ rest := by
  induction t with
  | nil => exact Or.inl fun c hc => absurd hc List.not_mem_nil
  | cons c t ih =>
    cases hc : c.isLineEnd with
    | true =>
      right
      by_cases hp : c = '\r' ∧ t.head? = some (.ofChar '\n')
      · obtain ⟨rfl, ht⟩ := hp
        obtain ⟨rest, rfl⟩ := List.head?_eq_some_iff.mp ht
        exact ⟨[], _, rest, fun d hd => absurd hd List.not_mem_nil, .pair, rfl⟩
      · exact ⟨[], [c], t, fun d hd => absurd hd List.not_mem_nil, .single hc hp, rfl⟩
    | false =>
      have hcons {line : Text} (hl : Unbroken line) : Unbroken (c :: line) := fun d hd => by
        rcases List.mem_cons.mp hd with rfl | hd
        · exact hc
        · exact hl d hd
      rcases ih with hl | ⟨line, ending, rest, hl, hb, rfl⟩
      · exact Or.inl (hcons hl)
      · exact Or.inr ⟨c :: line, ending, rest, hcons hl, hb, rfl⟩

/-- A line end is not empty. -/
theorem IsBreak.length_pos {rest ending : Text} (h : IsBreak rest ending) : 0 < ending.length := by
  cases h <;> simp

/-- Every text falls into its lines. -/
theorem fallsInto_lines (t : Text) : FallsInto t t.lines := by
  rcases unbroken_or_break t with hl | ⟨line, ending, rest, hl, hb, rfl⟩
  · by_cases hne : t = []
    · subst hne
      exact .nil
    · rw [lines_of_unbroken hl hne]
      exact .last hl hne
  · rw [lines_append_break hl hb]
    exact .cons hl hb (fallsInto_lines rest)
termination_by t.length
decreasing_by
  have := hb.length_pos
  subst_vars
  simp only [List.length_append]
  omega

/-- **A text falls into its lines and into no others.** -/
theorem fallsInto_iff {t : Text} {ls : List Text} : FallsInto t ls ↔ t.lines = ls :=
  ⟨FallsInto.lines_eq, fun h => h ▸ fallsInto_lines t⟩

theorem FallsInto.unbroken {t : Text} {ls : List Text} (h : FallsInto t ls) : ∀ line ∈ ls, Unbroken line := by
  induction h with
  | nil => exact fun _ hl => absurd hl List.not_mem_nil
  | last hl _ => exact List.forall_mem_singleton.mpr hl
  | cons hl _ _ ih => exact List.forall_mem_cons.mpr ⟨hl, ih⟩

/-- What stands in a line stands in the text. -/
theorem FallsInto.subset {t : Text} {ls : List Text} (h : FallsInto t ls) : ∀ line ∈ ls, line ⊆ t := by
  induction h with
  | nil => exact fun _ hl => absurd hl List.not_mem_nil
  | last => exact List.forall_mem_singleton.mpr fun _ hc => hc
  | @cons line ending rest lines _ _ _ ih =>
    rw [List.forall_mem_cons, List.append_assoc]
    refine ⟨List.subset_append_left _ _, fun later hl c hc => ?_⟩
    exact List.mem_append_right _ (List.mem_append_right _ (ih later hl hc))

/-! ## One text after another -/

/-- The text is empty or ends with a line feed. -/
def Ended (t : Text) : Prop := t = [] ∨ t.getLast? = some (.ofChar '\n')

instance : DecidablePred Ended := fun t => inferInstanceAs (Decidable (t = [] ∨ t.getLast? = some (.ofChar '\n')))

/-- How a text ends is told by its last part. -/
theorem Ended.of_append {front rest : Text} (h : Ended (front ++ rest)) : Ended rest := by
  rcases h with h | h
  · exact Or.inl (List.append_eq_nil_iff.mp h).2
  · rw [List.getLast?_append] at h
    cases hr : rest.getLast? with
    | none => exact Or.inl (List.getLast?_eq_none_iff.mp hr)
    | some c =>
      rw [hr, Option.some_or] at h
      exact Or.inr (hr.trans h)

/-- A line end stays one when a text comes after it, unless it is a carriage return at the end. -/
theorem IsBreak.append {rest ending : Text} (h : IsBreak rest ending) (he : Ended (ending ++ rest)) (t : Text) :
    IsBreak (rest ++ t) ending := by
  cases h with
  | pair => exact .pair
  | single hc hp =>
    refine .single hc ?_
    rintro ⟨rfl, ht⟩
    cases rest with
    | nil => exact absurd he (by decide)
    | cons d rest => exact hp ⟨rfl, ht⟩

theorem FallsInto.lines_append {a : Text} {ls : List Text} (h : FallsInto a ls) (he : Ended a) (b : Text) :
    (a ++ b).lines = ls ++ b.lines := by
  induction h with
  | nil => rfl
  | @last line hl hne =>
    rcases he with he | he
    · exact absurd he hne
    · -- the line feed at the end is no part of a line
      have hn := hl _ (List.mem_of_getLast? he)
      rw [isLineEnd_feed] at hn
      cases hn
  | @cons line ending rest lines hl hb _ ih =>
    have hrest : Ended (ending ++ rest) := by
      rw [List.append_assoc] at he
      exact he.of_append
    have hsplit : line ++ ending ++ rest ++ b = line ++ ending ++ (rest ++ b) := List.append_assoc _ _ _
    rw [hsplit, lines_append_break hl (hb.append hrest b), ih hrest.of_append, List.cons_append]

/-- **The lines of a text that ends with a line feed come before those of the text after it.** -/
theorem lines_append {a : Text} (h : Ended a) (b : Text) : (a ++ b).lines = a.lines ++ b.lines :=
  (fallsInto_lines a).lines_append h b

/-! ## Lines with a line feed after each -/

/-- Lines written one after the other, each with a line feed after it. -/
def framed (ls : List Text) : Text := ls.flatMap fun line => line ++ [.ofChar '\n']

/-- Unbroken lines with a line feed after each come before the lines of the rest. -/
theorem lines_framed_append {ls : List Text} (h : ∀ line ∈ ls, Unbroken line) (t : Text) :
    (framed ls ++ t).lines = ls ++ t.lines := by
  induction ls with
  | nil => simp [framed]
  | cons line ls ih =>
    have hb : IsBreak (framed ls ++ t) [.ofChar '\n'] := .single isLineEnd_feed fun e => absurd e.1 (by decide)
    have hf : framed (line :: ls) ++ t = line ++ [.ofChar '\n'] ++ (framed ls ++ t) := by
      simp [framed]
    rw [hf, lines_append_break (h line List.mem_cons_self) hb,
      ih fun other ho => h other (List.mem_cons_of_mem line ho), List.cons_append]

/-- Unbroken lines with a line feed after each are read back. -/
theorem lines_framed {ls : List Text} (h : ∀ line ∈ ls, Unbroken line) : (framed ls).lines = ls := by
  have hl := lines_framed_append h []
  rwa [List.append_nil, lines, List.append_nil] at hl

/-- **Unbroken lines with a line feed between them are read back**, if none is empty. -/
theorem lines_join {ls : List Text} (h : ∀ line ∈ ls, Unbroken line ∧ line ≠ []) : (join "\n" ls).lines = ls := by
  induction ls with
  | nil => rfl
  | cons line ls ih =>
    obtain ⟨⟨hu, hne⟩, hls⟩ := List.forall_mem_cons.mp h
    cases ls with
    | nil => exact lines_of_unbroken hu hne
    | cons other ls =>
      have hb : IsBreak (join "\n" (other :: ls)) [.ofChar '\n'] :=
        .single isLineEnd_feed fun e => absurd e.1 (by decide)
      have hl := lines_append_break hu hb
      rwa [ih hls] at hl

/-! ## Line ends of other systems -/

/-- Whichever line ends a text has, they part the same lines. -/
theorem lines_unifyNewlines (t : Text) : t.unifyNewlines.lines = t.lines := by
  induction t with
  | nil => rfl
  | cons c t ih =>
    rw [unifyNewlines]
    by_cases hc : c = '\r'
    · subst hc
      rw [if_pos rfl]
      by_cases ht : t.head? = some (.ofChar '\n')
      · rw [if_pos ht, lines, if_pos ⟨rfl, ht⟩, ih]
      · have hf : ¬(CodePoint.ofChar '\n' = '\r' ∧ (unifyNewlines t).head? = some (.ofChar '\n')) := fun e =>
          absurd e.1 (by decide)
        rw [if_neg ht, lines, if_neg hf, if_pos isLineEnd_feed, ih, lines, if_neg fun e => ht e.2,
          if_pos isLineEnd_return]
    · have hp {t : Text} : ¬(c = '\r' ∧ t.head? = some (.ofChar '\n')) := fun e => hc e.1
      rw [if_neg hc, lines, if_neg hp, ih, lines, if_neg hp]

/-- Only line feeds are new in a text with line feeds for its line ends, and no carriage return is left. -/
theorem mem_unifyNewlines {t : Text} {c : CodePoint} (h : c ∈ t.unifyNewlines) :
    c ≠ '\r' ∧ (c ∈ t ∨ c = '\n') := by
  induction t with
  | nil => cases h
  | cons d t ih =>
    have hrest (h : c ∈ unifyNewlines t) : c ≠ '\r' ∧ (c ∈ d :: t ∨ c = '\n') :=
      ⟨(ih h).1, (ih h).2.imp_left (List.mem_cons_of_mem d)⟩
    rw [unifyNewlines] at h
    by_cases hd : d = '\r'
    · rw [if_pos hd] at h
      split at h
      · exact hrest h
      · rcases List.mem_cons.mp h with rfl | h
        · exact ⟨by decide, Or.inr rfl⟩
        · exact hrest h
    · rw [if_neg hd] at h
      rcases List.mem_cons.mp h with rfl | h
      · exact ⟨hd, Or.inl List.mem_cons_self⟩
      · exact hrest h

/-- Without carriage returns there is nothing to replace. -/
theorem unifyNewlines_of_not_mem {t : Text} (h : .ofChar '\r' ∉ t) : t.unifyNewlines = t := by
  induction t with
  | nil => rfl
  | cons c t ih =>
    have hc : c ≠ '\r' := fun e => h (e ▸ List.mem_cons_self)
    rw [unifyNewlines, if_neg hc, ih fun ht => h (List.mem_cons_of_mem c ht)]

/-- **The line ends of a text are replaced once.** -/
theorem unifyNewlines_unifyNewlines (t : Text) : t.unifyNewlines.unifyNewlines = t.unifyNewlines :=
  unifyNewlines_of_not_mem fun h => (mem_unifyNewlines h).1 rfl

/-- A text without halves of surrogate pairs has none with line feeds for its line ends. -/
theorem isScalar_unifyNewlines {t : Text} (h : t.isScalar = true) : t.unifyNewlines.isScalar = true := by
  rw [isScalar, List.all_eq_true] at h ⊢
  intro c hc
  rcases (mem_unifyNewlines hc).2 with hm | rfl
  · exact h c hm
  · decide

end Text

end LiquidationDrill
