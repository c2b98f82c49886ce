import LiquidationDrill.Proofs.Json.Extension
import LiquidationDrill.Proofs.Log.Line
import LiquidationDrill.Proofs.Log.Records

/-!
# Logs with one event per line feed

Lines that are records, written with a line feed after each, are read back one by one unless one of them holds a line
end that JSON allows within strings: next line, or the line or paragraph separator (`IsHiddenBreak`). At the first of
these the line is cut, what stands before the cut is no record (`not_accepted_before_hidden`), and the whole log is
refused. `records_framed` says both.
-/

namespace LiquidationDrill.Log

open Json (IsLegal IsNumeric)

/-! ## Hidden line ends -/

/-- A line end that JSON allows within strings: next line, line separator, paragraph separator. -/
def IsHiddenBreak (c : CodePoint) : Prop := c.val = 0x85 ∨ c.val = 0x2028 ∨ c.val = 0x2029

instance : DecidablePred IsHiddenBreak := fun c =>
  inferInstanceAs (Decidable (c.val = 0x85 ∨ c.val = 0x2028 ∨ c.val = 0x2029))

/-- Besides line feeds and carriage returns these are the only line ends in JSON. -/
theorem isLineEnd_iff_isHiddenBreak {c : CodePoint} (hc : IsLegal c) (hf : c ≠ '\n') (hr : c ≠ '\r') :
    c.isLineEnd = true ↔ IsHiddenBreak c := by
  have hv : 0x20 ≤ c.val ∨ c.val = 0x09 := by
    rcases hc with hc | hc
    · exact Or.inl hc
    simp only [Json.isSpace, Bool.or_eq_true, decide_eq_true_eq] at hc
    rcases hc with ((rfl | rfl) | rfl) | rfl
    · exact Or.inl (by decide)
    · exact Or.inr (by decide)
    · exact absurd rfl hf
    · exact absurd rfl hr
  simp only [CodePoint.isLineEnd, IsHiddenBreak, Bool.or_eq_true, Bool.and_eq_true, decide_eq_true_eq]
  omega

theorem IsHiddenBreak.isLineEnd {c : CodePoint} (h : IsHiddenBreak c) : c.isLineEnd = true := by
  simp only [CodePoint.isLineEnd, IsHiddenBreak, Bool.or_eq_true, Bool.and_eq_true, decide_eq_true_eq] at *
  omega

/-- A hidden line end is a code point outside ASCII. -/
theorem IsHiddenBreak.lt_val {c : CodePoint} (h : IsHiddenBreak c) : 0x7F < c.val := by
  unfold IsHiddenBreak at h
  omega

/-- It is no white space of JSON. -/
theorem IsHiddenBreak.isSpace_eq {c : CodePoint} (h : IsHiddenBreak c) : Json.isSpace c = false := by
  have hv := h.lt_val
  rw [← Bool.not_eq_true]
  intro hs
  simp only [Json.isSpace, Bool.or_eq_true, decide_eq_true_eq] at hs
  rcases hs with ((rfl | rfl) | rfl) | rfl <;> exact absurd hv (by decide)

/-- It stands in no number. -/
theorem IsHiddenBreak.not_isNumeric {c : CodePoint} (h : IsHiddenBreak c) : ¬IsNumeric c := by
  have hv := h.lt_val
  rintro (hd | rfl | rfl | rfl | rfl | rfl)
  · simp only [CodePoint.isDigit, Bool.and_eq_true, decide_eq_true_eq] at hd
    omega
  all_goals exact absurd hv (by decide)

/-! ## Accepted lines -/

theorem isBlank_eq_false_of_isVisible {c : CodePoint} (h : Json.IsVisible c) : c.isBlank = false := by
  unfold Json.IsVisible at h
  simp [CodePoint.isBlank, blankRanges, Ranges.has]
  omega

/-- A text that begins, after white space, with a visible character is not blank. -/
theorem isBlank_eq_false_of_skipSpace {t next : Text} {c : CodePoint} (h : Json.skipSpace t = c :: next)
    (hc : Json.IsVisible c) : t.isBlank = false := by
  have hm : c ∈ t.dropWhile Json.isSpace := by
    rw [← Json.skipSpace, h]
    exact List.mem_cons_self
  rw [Text.isBlank, List.all_eq_false]
  exact ⟨c, List.dropWhile_subset Json.isSpace hm, by simp [isBlank_eq_false_of_isVisible hc]⟩

/-- A text that is read begins, after white space, with a visible character. -/
theorem exists_visible_of_read {t : Text} {x : Value} (h : Json.read t = .ok x) :
    ∃ c next, Json.skipSpace t = c :: next ∧ Json.IsVisible c := by
  obtain ⟨-, rest, hv, -⟩ := Json.read_eq_ok.mp h
  have hr := Json.value_eq_ok.mp hv
  obtain ⟨c, next, hn⟩ := List.exists_cons_of_ne_nil hr.ne_nil
  rw [hn] at hr
  exact ⟨c, next, hn, hr.isVisible⟩

/-- What stands before a hidden line end in a text that is read is not blank. -/
theorem not_blank_before_hidden {before after : Text} {c : CodePoint} {x : Value}
    (h : Json.read (before ++ c :: after) = .ok x) (hc : IsHiddenBreak c) : before.isBlank = false := by
  obtain ⟨d, next, hn, hd⟩ := exists_visible_of_read h
  by_cases hs : Json.skipSpace before = []
  · -- only white space before it: the hidden line end would have to be visible
    rw [Json.skipSpace_append_of_nil hs, Json.skipSpace, List.dropWhile_cons_of_neg (by simp [hc.isSpace_eq])] at hn
    obtain ⟨rfl, -⟩ := List.cons.inj hn
    have h1 := hd.2
    have h2 := hc.lt_val
    omega
  · obtain ⟨e, next', he⟩ := List.exists_cons_of_ne_nil hs
    rw [Json.skipSpace_append he] at hn
    obtain ⟨rfl, -⟩ := List.cons.inj hn
    exact isBlank_eq_false_of_skipSpace he hd

/-- What stands before a hidden line end in a record is neither blank nor a record. -/
theorem not_accepted_before_hidden {before after : Text} {c : CodePoint} {n m : Int} {record : Record}
    (h : Record.ofLine (before ++ c :: after) n = .ok record) (hc : IsHiddenBreak c) :
    before.isBlank = false ∧ ∃ fault, Record.ofLine before m = .error fault := by
  obtain ⟨x, hx⟩ := Record.read_of_ofLine h
  refine ⟨not_blank_before_hidden hx hc, ?_⟩
  cases hr : Record.ofLine before m with
  | error fault => exact ⟨fault, rfl⟩
  | ok record' =>
    obtain ⟨y, hy⟩ := Record.read_of_ofLine hr
    rw [Json.read_append hy hc.isSpace_eq hc.not_isNumeric] at hx
    cases hx

/-- A record holds hidden line ends or none. -/
theorem unbroken_iff_of_ofLine {line : Text} {n : Int} {record : Record} (h : Record.ofLine line n = .ok record)
    (hf : .ofChar '\n' ∉ line) (hr : .ofChar '\r' ∉ line) : line.Unbroken ↔ ∀ c ∈ line, ¬IsHiddenBreak c := by
  obtain ⟨x, hx⟩ := Record.read_of_ofLine h
  refine forall_congr' fun c => imp_congr_right fun hc => ?_
  have hne {d : CodePoint} (hd : d ∉ line) : c ≠ d := fun e => hd (e ▸ hc)
  rw [← isLineEnd_iff_isHiddenBreak (Json.isLegal_of_read hx c hc) (hne hf) (hne hr), Bool.not_eq_true]

/-- A record is not blank. -/
theorem not_blank_of_ofLine {line : Text} {n : Int} {record : Record} (h : Record.ofLine line n = .ok record) :
    line.isBlank = false := by
  obtain ⟨x, hx⟩ := Record.read_of_ofLine h
  obtain ⟨c, next, hn, hc⟩ := exists_visible_of_read hx
  exact isBlank_eq_false_of_skipSpace hn hc

/-! ## Logs -/

/-- Where something in a list has a property, there is a first such thing. -/
theorem exists_first {α : Type} {p : α → Prop} [DecidablePred p] {l : List α} (h : ∃ a ∈ l, p a) :
    ∃ before a after, l = before ++ a :: after ∧ p a ∧ ∀ b ∈ before, ¬p b := by
  cases hf : l.find? fun a => decide (p a) with
  | none =>
    obtain ⟨a, ha, hp⟩ := h
    exact absurd (decide_eq_true hp) (List.find?_eq_none.mp hf a ha)
  | some a =>
    obtain ⟨hp, before, after, hl, hb⟩ := List.find?_eq_some_iff_append.mp hf
    refine ⟨before, a, after, hl, of_decide_eq_true hp, fun b hm => ?_⟩
    have h := hb b hm
    rwa [Bool.not_eq_true', decide_eq_false_iff_not] at h

/-- Records of lines that are not blank stand where their lines do. -/
theorem Reads.getElem? {n : Nat} {ls : List Text} {rs : List Record} (h : Reads n ls rs)
    (hb : ∀ line ∈ ls, line.isBlank = false) {i : Nat} {line : Text} (hl : ls[i]? = some line) :
    ∃ r, rs[i]? = some r ∧ Record.ofLine line (i + n : Nat) = .ok r := by
  induction h generalizing i with
  | nil n => cases hl
  | blank ht _ _ => simp [hb _ List.mem_cons_self] at ht
  | @cons n first ls r rs _ hr _ ih =>
    cases i with
    | zero =>
      obtain rfl : first = line := Option.some.inj hl
      exact ⟨r, rfl, by rwa [Nat.zero_add]⟩
    | succ i =>
      rw [Nat.add_right_comm]
      exact ih (fun other ho => hb other (List.mem_cons_of_mem first ho)) hl

section Framed

variable {ls : List Text} (hok : ∀ line ∈ ls, ∃ n r, Record.ofLine line n = .ok r)
  (hends : ∀ line ∈ ls, .ofChar '\n' ∉ line ∧ .ofChar '\r' ∉ line)
include hok hends

omit hends in
/-- Every line is accepted under every number. -/
theorem accepted_of_mem {line : Text} (hl : line ∈ ls) (n : Nat) : Accepted n line := by
  obtain ⟨m, r, hr⟩ := hok line hl
  exact Or.inr (Record.ofLine_isOk_any hr n)

/-- A line without hidden line ends is unbroken. -/
theorem unbroken_of_mem {line : Text} (hl : line ∈ ls) (h : ∀ c ∈ line, ¬IsHiddenBreak c) : line.Unbroken := by
  obtain ⟨n, r, hr⟩ := hok line hl
  exact (unbroken_iff_of_ofLine hr (hends line hl).1 (hends line hl).2).mpr h

/-- Lines without hidden line ends are read back one by one. -/
theorem records_framed_of_none (h : ∀ line ∈ ls, ∀ c ∈ line, ¬IsHiddenBreak c) :
    ∃ rs, records (Text.framed ls) = .ok rs ∧ rs.length = ls.length ∧
      ∀ i line, ls[i]? = some line → ∃ r, rs[i]? = some r ∧ Record.ofLine line (i + 1 : Nat) = .ok r := by
  have hb : ∀ line ∈ ls, line.isBlank = false := fun line hl => by
    obtain ⟨n, r, hr⟩ := hok line hl
    exact not_blank_of_ofLine hr
  have hu : ∀ line ∈ ls, line.Unbroken := fun line hl => unbroken_of_mem hok hends hl (h line hl)
  obtain ⟨rs, hrs⟩ := recordsFrom_isOk.mpr fun i line hl => accepted_of_mem hok (List.mem_of_getElem? hl) (i + 1)
  have hreads := recordsFrom_eq_ok.mp hrs
  refine ⟨rs, by rw [records_eq, Text.lines_framed hu, hrs], ?_, fun i line hl => hreads.getElem? hb hl⟩
  have hall : ls.filter (!·.isBlank) = ls := List.filter_eq_self.mpr fun line hl => by simp [hb line hl]
  rw [← hall, ← hreads.map_raw, List.length_map]

/-- The line is cut at its first hidden line end. -/
theorem lines_framed_of_first {earlier later : List Text} {before after : Text} {c : CodePoint}
    (hls : ls = earlier ++ (before ++ c :: after) :: later) (hc : IsHiddenBreak c)
    (hbefore : ∀ d ∈ before, ¬IsHiddenBreak d) (hearlier : ∀ line ∈ earlier, ∀ d ∈ line, ¬IsHiddenBreak d) :
    ∃ rest : List Text, (Text.framed ls).lines = earlier ++ before :: rest := by
  have hue : ∀ line ∈ earlier, line.Unbroken := fun line hl =>
    unbroken_of_mem hok hends (hls ▸ List.mem_append_left _ hl) (hearlier line hl)
  have hat : before ++ c :: after ∈ ls := hls ▸ List.mem_append_right earlier List.mem_cons_self
  obtain ⟨n, r, hr⟩ := hok _ hat
  obtain ⟨x, hx⟩ := Record.read_of_ofLine hr
  have hub : before.Unbroken := fun d hd => by
    have hda : d ∈ before ++ c :: after := List.mem_append_left _ hd
    have hne {e : CodePoint} (he : e ∉ before ++ c :: after) : d ≠ e := fun h => he (h ▸ hda)
    rw [← Bool.not_eq_true, isLineEnd_iff_isHiddenBreak (Json.isLegal_of_read hx d hda) (hne (hends _ hat).1)
      (hne (hends _ hat).2)]
    exact hbefore d hd
  have hbreak : Text.IsBreak (after ++ .ofChar '\n' :: Text.framed later) [c] :=
    .single hc.isLineEnd fun h => absurd (h.1 ▸ hc) (by decide)
  have hsplit : Text.framed ls =
      Text.framed earlier ++ (before ++ [c] ++ (after ++ .ofChar '\n' :: Text.framed later)) := by
    simp [hls, Text.framed]
  exact ⟨_, by rw [hsplit, Text.lines_framed_append hue, Text.lines_append_break hub hbreak]⟩

/-- At the first hidden line end the log is refused with the fault of what stands before it in its line. -/
theorem records_framed_of_first {earlier later : List Text} {before after : Text} {c : CodePoint}
    (hls : ls = earlier ++ (before ++ c :: after) :: later) (hc : IsHiddenBreak c)
    (hbefore : ∀ d ∈ before, ¬IsHiddenBreak d) (hearlier : ∀ line ∈ earlier, ∀ d ∈ line, ¬IsHiddenBreak d) :
    ∃ fault, records (Text.framed ls) = .error fault ∧
      Record.ofLine before (earlier.length + 1 : Nat) = .error fault := by
  obtain ⟨rest, hlines⟩ := lines_framed_of_first hok hends hls hc hbefore hearlier
  obtain ⟨n, r, hr⟩ := hok _ (hls ▸ List.mem_append_right earlier List.mem_cons_self)
  obtain ⟨hblank, fault, hfault⟩ := not_accepted_before_hidden (m := (earlier.length + 1 : Nat)) hr hc
  refine ⟨fault, ?_, hfault⟩
  rw [records_eq, recordsFrom_eq_error]
  refine ⟨earlier.length, before, ?_, hblank, hfault, fun j hj line hl => ?_⟩
  · rw [hlines, List.getElem?_append_right (Nat.le_refl _), Nat.sub_self, List.getElem?_cons_zero]
  · rw [hlines, List.getElem?_append_left hj] at hl
    exact accepted_of_mem hok (hls ▸ List.mem_append_left _ (List.mem_of_getElem? hl)) (j + 1)

end Framed

/-- **Records that are written with a line feed after each are read back iff none holds a hidden line end.** The
records are then those of the lines, in order, with their numbers and texts. Otherwise the first hidden line end cuts
its line, and the log has no records at all but the fault of what stands before the cut. -/
theorem records_framed (ls : List Text) (hok : ∀ line ∈ ls, ∃ n r, Record.ofLine line n = .ok r)
    (hends : ∀ line ∈ ls, .ofChar '\n' ∉ line ∧ .ofChar '\r' ∉ line) :
    ((∃ rs, records (Text.framed ls) = .ok rs ∧ rs.length = ls.length ∧
        ∀ i line, ls[i]? = some line → ∃ r, rs[i]? = some r ∧ Record.ofLine line (i + 1 : Nat) = .ok r) ↔
      ∀ line ∈ ls, ∀ c ∈ line, ¬IsHiddenBreak c) ∧
    ∀ earlier before c after later, ls = earlier ++ (before ++ c :: after) :: later → IsHiddenBreak c →
      (∀ d ∈ before, ¬IsHiddenBreak d) → (∀ line ∈ earlier, ∀ d ∈ line, ¬IsHiddenBreak d) →
        ∃ fault, records (Text.framed ls) = .error fault ∧
          Record.ofLine before (earlier.length + 1 : Nat) = .error fault := by
  refine ⟨⟨?_, records_framed_of_none hok hends⟩, fun earlier before c after later hls hc hb he =>
    records_framed_of_first hok hends hls hc hb he⟩
  rintro ⟨rs, hrs, -⟩ line hl c hm hc
  obtain ⟨earlier, first, later, hls, hh, he⟩ :=
    exists_first (p := fun line : Text => ∃ c ∈ line, IsHiddenBreak c) ⟨line, hl, c, hm, hc⟩
  obtain ⟨before, d, after, rfl, hd, hb⟩ := exists_first hh
  obtain ⟨fault, hf, -⟩ := records_framed_of_first hok hends hls hd hb fun other ho e hm h => he other ho ⟨e, hm, h⟩
  rw [hrs] at hf
  cases hf

/-- An event without hidden line ends. -/
def ordinary : Text := "\x7b\"level\":\"INFO\",\"fields\":\x7b\"message\":\"sold\"\x7d\x7d"

/-- Two of them are read back. -/
theorem ordinary_read_back : ∃ rs, records (Text.framed [ordinary, ordinary]) = .ok rs ∧ rs.length = 2 := by
  have hok : ∀ line ∈ [ordinary, ordinary], ∃ n r, Record.ofLine line n = .ok r := by
    intro line hl
    obtain rfl : line = ordinary := by simpa using hl
    exact ⟨0, Result.isOk_iff.mp (by decide +kernel)⟩
  have hends : ∀ line ∈ [ordinary, ordinary], .ofChar '\n' ∉ line ∧ .ofChar '\r' ∉ line := by decide +kernel
  obtain ⟨rs, hrs, hlen, -⟩ := (records_framed _ hok hends).1.mpr (by decide +kernel)
  exact ⟨rs, hrs, hlen⟩

/-- An event whose message holds a line separator. -/
def separated : Text := "\x7b\"level\":\"INFO\",\"fields\":\x7b\"message\":\"sold\u2028bought\"\x7d\x7d"

/-- It is a record without line feeds and carriage returns, and a log of it alone has no records. -/
theorem separated_not_read_back :
    (∃ r, Record.ofLine separated 1 = .ok r) ∧ .ofChar '\n' ∉ separated ∧ .ofChar '\r' ∉ separated ∧
      ¬∃ rs, records (Text.framed [separated]) = .ok rs := by
  refine ⟨Result.isOk_iff.mp (by decide +kernel), by decide +kernel, by decide +kernel, ?_⟩
  rw [← Result.isOk_iff]
  decide +kernel

end LiquidationDrill.Log
