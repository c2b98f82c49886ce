import LiquidationDrill.Proofs.Json.Limits
import LiquidationDrill.Proofs.Json.Numbers

/-!
# The integers of a text

An integer stands in a text outside strings, where a value can stand, and no fraction and no exponent goes on with it
(`IntegerIn`). Every value that the reader comes to stands so (`Reaches.foregoes`), and it takes all digits of an
integer. So the reader gives up on integers of the text only (`exists_integerIn`), and on no text whose integers are
short enough and whose arrays and objects are not nested too deep (`read_ne_beyond`).
-/

namespace LiquidationDrill.Json

/-- A value can stand after the text: outside strings, and at first or after white space, a bracket, a comma or a
colon. -/
def Foregoes (before : Text) : Prop :=
  Mode.between.after before = .between ∧
    ∀ c, before.getLast? = some c → isSpace c = true ∨ c = '[' ∨ c = ',' ∨ c = ':'

/-- The digits are those of an integer in the text. -/
def IntegerIn (t ds : Text) : Prop :=
  ∃ before negative after, t = before ++ (minusSign negative ++ (ds ++ after)) ∧ Foregoes before ∧ IsWhole ds ∧
    ¬GoesOn after

/-- An integer is no longer than the text. -/
theorem IntegerIn.length_le {t ds : Text} (h : IntegerIn t ds) : ds.length ≤ t.length := by
  obtain ⟨before, negative, after, rfl, -⟩ := h
  simp only [List.length_append]
  omega

/-! ## Where values stand -/

section Stands

variable {before t : Text}

/-- A value can stand after white space as before it. -/
theorem Foregoes.skipSpace (h : Foregoes before) (t : Text) :
    ∃ before', before ++ t = before' ++ Json.skipSpace t ∧ Foregoes before' := by
  obtain ⟨space, ht, -, hm⟩ := (passes_skipSpace t).passed
  have hsplit : t.takeWhile isSpace ++ Json.skipSpace t = t := List.takeWhile_append_dropWhile
  obtain rfl : space = t.takeWhile isSpace := List.append_cancel_right (ht.symm.trans hsplit.symm)
  refine ⟨before ++ t.takeWhile isSpace, by rw [List.append_assoc, hsplit], ?_, fun c hc => ?_⟩
  · rw [Mode.after_append, h.1, hm]
  · rcases List.eq_nil_or_concat (t.takeWhile isSpace) with hnil | ⟨space, d, hd⟩
    · rw [hnil, List.append_nil] at hc
      exact h.2 c hc
    · rw [List.concat_eq_append] at hd
      rw [hd, ← List.append_assoc, List.getLast?_concat] at hc
      have hmem : c ∈ t.takeWhile isSpace := by
        rw [hd, ← Option.some.inj hc]
        exact List.mem_append_right _ List.mem_cons_self
      exact Or.inl (List.all_eq_true.mp List.all_takeWhile c hmem)

/-- What follows a bracket, a comma or a colon outside strings is a value, after white space. -/
theorem Passes.foregoes {c : CodePoint} {next : Text} (h : Passes t (c :: next))
    (hb : Mode.between.after before = .between) (hc : c = '[' ∨ c = ',' ∨ c = ':') :
    ∃ before', before ++ t = before' ++ Json.skipSpace next ∧ Foregoes before' := by
  obtain ⟨used, rfl, -, hm⟩ := h.passed
  have hf : Foregoes (before ++ used ++ [c]) := by
    refine ⟨?_, fun d hd => ?_⟩
    · have hnext : Mode.between.after [c] = .between := by rcases hc with rfl | rfl | rfl <;> decide
      rw [Mode.after_append, Mode.after_append, hb, hm, hnext]
    · rw [List.getLast?_concat] at hd
      exact Or.inr (Option.some.inj hd ▸ hc)
  obtain ⟨before', ht, hbefore⟩ := hf.skipSpace next
  exact ⟨before', by simpa using ht, hbefore⟩

/-- The name of a member is passed over up to the colon. -/
theorem memberName_colon {name rest : Text} (h : memberName t = .ok (name, rest)) :
    ∃ next, Passes t (.ofChar ':' :: next) ∧ rest = Json.skipSpace next := by
  obtain ⟨body, after, next, rfl, hs, hn, rfl⟩ := memberName_eq_ok.mp h
  exact ⟨next, (stringBody_passes hs).passes.trans (.of_skipSpace hn), rfl⟩

/-- **Every value that the reader comes to stands where a value can stand.** -/
theorem Reaches.foregoes {depth depth' : Nat} {t' : Text} (h : Reaches depth t depth' t') (hb : Foregoes before) :
    ∃ before', before ++ t = before' ++ t' ∧ Foregoes before' := by
  induction h generalizing before with
  | here => exact ⟨before, rfl, hb⟩
  | @firstItem _ _ t _ _ ih =>
    obtain ⟨before', ht, hf⟩ := (Passes.refl ('[' :: t)).foregoes hb.1 (Or.inl rfl)
    rw [ht]
    exact ih hf
  | @firstMember _ _ t _ _ _ hm _ ih =>
    obtain ⟨next, hp, rfl⟩ := memberName_colon hm
    have ho : Mode.between.after (before ++ [.ofChar '\x7b']) = .between := by
      rw [Mode.after_append, hb.1]
      decide
    obtain ⟨before', ht, hf⟩ := ((passes_skipSpace t).trans hp).foregoes ho (Or.inr (Or.inr rfl))
    rw [List.append_cons, ht]
    exact ih hf
  | nextItem hx hn _ ih =>
    have hp := (value_passes hx).trans (.of_skipSpace hn)
    obtain ⟨before', ht, hf⟩ := hp.foregoes hb.1 (Or.inr (Or.inl rfl))
    rw [ht]
    exact ih hf
  | nextMember hx hn hm _ ih =>
    obtain ⟨next, hp, rfl⟩ := memberName_colon hm
    have hp := (value_passes hx).trans ((Passes.of_mark (by decide) hn).trans hp)
    obtain ⟨before', ht, hf⟩ := hp.foregoes hb.1 (Or.inr (Or.inr rfl))
    rw [ht]
    exact ih hf

end Stands

/-! ## Integers that are too long -/

variable {t : Text}

/-- **The reader finds an integer of the text too long, or the nesting too deep.** -/
theorem exists_integerIn {n : Nat} (h : read t = .error (.beyond (.integerTooLong n))) :
    ∃ ds, IntegerIn t ds ∧ ds.length = n ∧ Text.maxDigits < n := by
  obtain ⟨depth, t', hr, hs⟩ := read_stuck h
  have hempty : Foregoes [] := ⟨rfl, fun _ hc => by cases hc⟩
  obtain ⟨space, ht, hspace⟩ := hempty.skipSpace t
  obtain ⟨before, hbefore, hf⟩ := hr.foregoes hspace
  cases hs with
  | @integer _ _ rest parts hn hfraction hexponent hl =>
    obtain ⟨ht', hwhole, hmax⟩ := numeral?_integer hn hfraction hexponent
    refine ⟨parts.whole, ⟨before, parts.negative, rest, ?_, hf, hwhole, hmax.resolve_left fun h0 => ?_⟩, rfl, hl⟩
    · rw [← ht', ← hbefore, ← ht]
      rfl
    · rw [h0] at hl
      exact absurd hl (by decide)

/-- **Where all integers are short enough and nothing is nested too deep, no limit is exceeded.** -/
theorem read_ne_beyond (hn : nesting t ≤ maxDepth) (hd : ∀ ds, IntegerIn t ds → ds.length ≤ Text.maxDigits)
    (limit : Limit) : read t ≠ .error (.beyond limit) := by
  intro h
  obtain ⟨n, rfl⟩ := read_beyond_of_nesting_le hn h
  obtain ⟨ds, hds, rfl, hl⟩ := exists_integerIn h
  exact absurd (hd ds hds) (Nat.not_le.mpr hl)

end LiquidationDrill.Json
