import LiquidationDrill.Proofs.Log.Framing

/-!
# Where records stand

A record stands on the line with its number (`exists_line_of_mem`, `mem_of_line`), and records stand in the order of
their lines (`lineNumber_lt`). So the first record of some kind is on the first line of this kind
(`not_of_earlier_line`), and the last record on the last line that is not blank (`isBlank_of_later_line`); it is the one
with the largest number (`getLast?_iff_largest`).
-/

namespace LiquidationDrill.Log

variable {log : Text} {rs : List Record}

/-- A record stands on the line with its number. -/
theorem exists_line_of_mem (h : records log = .ok rs) {record : Record} (hr : record ∈ rs) :
    ∃ i : Nat, log.lines[i]? = some record.raw ∧ record.lineNumber = (i + 1 : Nat) ∧
      Record.ofLine record.raw (i + 1 : Nat) = .ok record := by
  rw [records_eq, recordsFrom_eq_ok] at h
  obtain ⟨i, line, hl, -, ho⟩ := (h.mem_iff record).mp hr
  obtain ⟨hn, rfl⟩ := Record.ofLine_place ho
  exact ⟨i, hl, hn, ho⟩

/-- A line that is a record gives it to the log. -/
theorem mem_of_line (h : records log = .ok rs) {i : Nat} {line : Text} {record : Record}
    (hl : log.lines[i]? = some line) (ho : Record.ofLine line (i + 1 : Nat) = .ok record) : record ∈ rs := by
  rw [records_eq, recordsFrom_eq_ok] at h
  exact (h.mem_iff record).mpr ⟨i, line, hl, not_blank_of_ofLine ho, ho⟩

/-- Of two records the one that comes first has the smaller number. -/
theorem lineNumber_lt (h : records log = .ok rs) {before after : List Record} {a b : Record}
    (hrs : rs = before ++ after) (ha : a ∈ before) (hb : b ∈ after) : a.lineNumber < b.lineNumber := by
  rw [records_eq, recordsFrom_eq_ok] at h
  have hrising := h.rising
  rw [hrs] at hrising
  exact (List.pairwise_append.mp hrising).2.2 a ha b hb

/-- **No line before the first record of some kind is a record of this kind.** -/
theorem not_of_earlier_line {kind : Record → Bool} (h : records log = .ok rs) {record : Record}
    (hf : rs.find? kind = some record) {j : Nat} {earlier : Text} {other : Record}
    (hj : ((j + 1 : Nat) : Int) < record.lineNumber) (hl : log.lines[j]? = some earlier)
    (ho : Record.ofLine earlier (j + 1 : Nat) = .ok other) : kind other = false := by
  obtain ⟨-, before, after, hrs, hbefore⟩ := List.find?_eq_some_iff_append.mp hf
  have hn := (Record.ofLine_place ho).1
  have hm : other ∈ before ++ record :: after := hrs ▸ mem_of_line h hl ho
  rcases List.mem_append.mp hm with hm | hm
  · simpa using hbefore other hm
  · -- neither the first record itself nor one after it has so small a number
    rcases List.mem_cons.mp hm with rfl | hm
    · omega
    · have hsplit : rs = (before ++ [record]) ++ after := by rw [hrs, List.append_assoc, List.singleton_append]
      have hlt := lineNumber_lt h hsplit (List.mem_append_right before List.mem_cons_self) hm
      omega

/-- The numbers of the other records are smaller than that of the last one. -/
theorem lineNumber_lt_or_eq_last (h : records log = .ok rs) {last : Record} (hl : rs.getLast? = some last)
    {record : Record} (hr : record ∈ rs) : record.lineNumber < last.lineNumber ∨ record = last := by
  obtain ⟨before, hrs⟩ := List.getLast?_eq_some_iff.mp hl
  rw [hrs, List.mem_append, List.mem_singleton] at hr
  exact hr.imp_left fun hm => lineNumber_lt h hrs hm List.mem_cons_self

/-- **The lines after the last record are blank.** -/
theorem isBlank_of_later_line (h : records log = .ok rs) {last : Record} (hlast : rs.getLast? = some last) {j : Nat}
    {later : Text} (hj : last.lineNumber < (j + 1 : Nat)) (hl : log.lines[j]? = some later) :
    later.isBlank = true := by
  have hok : ∃ rs, recordsFrom 1 log.lines = .ok rs := ⟨rs, h⟩
  rcases recordsFrom_isOk.mp hok j later hl with hb | ⟨record, ho⟩
  · exact hb
  · have hn := (Record.ofLine_place ho).1
    rcases lineNumber_lt_or_eq_last h hlast (mem_of_line h hl ho) with hlt | rfl <;> omega

/-- The last record is the one with the largest number. -/
theorem getLast?_iff_largest (h : records log = .ok rs) {last : Record} :
    rs.getLast? = some last ↔ last ∈ rs ∧ ∀ r ∈ rs, r.lineNumber ≤ last.lineNumber := by
  constructor
  · intro hl
    refine ⟨List.mem_of_getLast? hl, fun r hr => ?_⟩
    rcases lineNumber_lt_or_eq_last h hl hr with hlt | rfl
    · exact Int.le_of_lt hlt
    · exact Int.le_refl _
  · rintro ⟨hm, hlargest⟩
    cases hl : rs.getLast? with
    | none =>
      rw [List.getLast?_eq_none_iff.mp hl] at hm
      cases hm
    | some other =>
      rcases lineNumber_lt_or_eq_last h hl hm with hlt | rfl
      · have hle := hlargest other (List.mem_of_getLast? hl)
        omega
      · rfl

end LiquidationDrill.Log
