import LiquidationDrill.Proofs.Log.Line
import LiquidationDrill.Proofs.Log.Records

/-!
# A log after another log

What a line is does not depend on its number, which only stands in its record and in its fault: they are moved with the
line (`Record.moved`, `Fault.moved`, `Record.ofLine_moved`, `Record.ofLine_moved_error`). So the records of numbered
lines, and the first rejected one, are the same but for the numbers when the lines are numbered from elsewhere
(`Reads.moved`, `FirstRejected.moved`) and when other lines stand before or after them (`Reads.append`,
`FirstRejected.append_left`, `FirstRejected.append_right`). Together with `Text.lines_append` this is
`records_of_appended`: a log that goes on after a line feed has the records of its first part and then those of the
second.
-/

namespace LiquidationDrill.Log

/-! ## Lines with other numbers -/

/-- The record on a line so many lines further down. -/
def Record.moved (k : Nat) (record : Record) : Record := { record with lineNumber := record.lineNumber + k }

/-- The fault of a line so many lines further down. Only a malformed line is named. -/
def Fault.moved (k : Nat) : Fault → Fault
  | .malformed reason (some place) => .malformed reason (some { place with lineNumber := place.lineNumber + k })
  | fault => fault

namespace Record

variable {line : Text} {n : Int}

/-- **A record is moved with its line.** -/
theorem ofLine_moved {record : Record} (h : ofLine line n = .ok record) (k : Nat) :
    ofLine line (n + k) = .ok (record.moved k) := by
  obtain ⟨event, hj⟩ := read_of_ofLine h
  have ho (m : Int) : ofLine line m = ofEvent event m line := by simp only [ofLine, hj]
  rw [ho] at h ⊢
  rcases ofEvent_cases event with ⟨members, fields, level, hd⟩ | ⟨reason, -, hr⟩
  · rw [hd.ofEvent_eq] at h ⊢
    obtain ⟨spans, hs, rfl⟩ := Result.map_eq_ok.mp h
    rw [hs]
    rfl
  · rw [hr] at h
    cases h

/-- **A fault is moved with its line.** -/
theorem ofLine_moved_error {fault : Fault} (h : ofLine line n = .error fault) (k : Nat) :
    ofLine line (n + k) = .error (fault.moved k) := by
  rcases ofLine_cases line with hr | ⟨reason, hr⟩ | ⟨limit, -, hr⟩ | ⟨-, spans, hr⟩
  · obtain ⟨record, hr⟩ := hr n
    rw [h] at hr
    cases hr
  all_goals
    obtain rfl := Except.error.inj (h.symm.trans (hr n))
    exact hr (n + k)

end Record

/-- A line is accepted under every number. -/
theorem Accepted.moved {n : Nat} {line : Text} (h : Accepted n line) (k : Nat) : Accepted (n + k) line := by
  rcases h with hb | ⟨record, hr⟩
  · exact Or.inl hb
  · exact Or.inr ⟨record.moved k, by rw [Int.natCast_add]; exact Record.ofLine_moved hr k⟩

/-- Lines that are numbered from elsewhere have the same records but for the numbers. -/
theorem Reads.moved {n : Nat} {ls : List Text} {rs : List Record} (h : Reads n ls rs) (k : Nat) :
    Reads (n + k) ls (rs.map (Record.moved k)) := by
  induction h with
  | nil n => exact .nil (n + k)
  | @blank n line ls rs hb _ ih =>
    rw [Nat.add_right_comm] at ih
    exact .blank hb ih
  | @cons n line ls record rs hb hr _ ih =>
    rw [Nat.add_right_comm] at ih
    have hr : Record.ofLine line (n + k : Nat) = .ok (record.moved k) := by
      rw [Int.natCast_add]
      exact Record.ofLine_moved hr k
    exact .cons hb hr ih

/-- And their first rejected line is the same. -/
theorem FirstRejected.moved {n i : Nat} {ls : List Text} {line : Text} {fault : Fault}
    (h : FirstRejected n ls i line fault) (k : Nat) : FirstRejected (n + k) ls i line (fault.moved k) where
  line_at := h.line_at
  not_blank := h.not_blank
  rejected := by
    rw [← Nat.add_assoc, Int.natCast_add]
    exact Record.ofLine_moved_error h.rejected k
  before j hj earlier he := by
    rw [← Nat.add_assoc]
    exact (h.before j hj earlier he).moved k

/-! ## Lines after other lines -/

section Lines

variable {n : Nat} {ls others : List Text}

/-- The records of lines come before those of the lines after them. -/
theorem Reads.append {rs ss : List Record} (h : Reads n ls rs) (ho : Reads (n + ls.length) others ss) :
    Reads n (ls ++ others) (rs ++ ss) := by
  induction h with
  | nil n => exact ho
  | @blank n line ls rs hb _ ih =>
    rw [List.length_cons, Nat.add_comm ls.length, ← Nat.add_assoc] at ho
    exact .blank hb (ih ho)
  | @cons n line ls record rs hb hr _ ih =>
    rw [List.length_cons, Nat.add_comm ls.length, ← Nat.add_assoc] at ho
    exact .cons hb hr (ih ho)

/-- A rejected line is the first one whatever comes after the lines. -/
theorem FirstRejected.append_left {i : Nat} {line : Text} {fault : Fault} (h : FirstRejected n ls i line fault)
    (others : List Text) : FirstRejected n (ls ++ others) i line fault := by
  have hi : i + 1 ≤ ls.length := (List.getElem?_eq_some_iff.mp h.line_at).1
  exact h.of_take_eq (List.take_append_of_le_length hi)

/-- After lines that are all accepted the first rejected line is that of the others. -/
theorem FirstRejected.append_right {rs : List Record} (h : Reads n ls rs) {i : Nat} {line : Text} {fault : Fault}
    (ho : FirstRejected (n + ls.length) others i line fault) :
    FirstRejected n (ls ++ others) (ls.length + i) line fault where
  line_at := by rw [List.getElem?_append_right (Nat.le_add_right _ _), Nat.add_sub_cancel_left, ho.line_at]
  not_blank := ho.not_blank
  rejected := by
    have hi : ls.length + i + n = i + (n + ls.length) := by omega
    rw [hi]
    exact ho.rejected
  before j hj earlier he := by
    by_cases hl : j < ls.length
    · rw [List.getElem?_append_left hl] at he
      exact h.accepted he
    · rw [List.getElem?_append_right (Nat.le_of_not_lt hl)] at he
      have hj' : j + n = j - ls.length + (n + ls.length) := by omega
      rw [hj']
      exact ho.before (j - ls.length) (by omega) earlier he

end Lines

/-! ## Logs after other logs -/

section Logs

variable {a : Text} (h : a.Ended) (b : Text)
include h

/-- A log that is rejected is so whatever comes after it. -/
theorem records_append_of_error {fault : Fault} (ha : records a = .error fault) :
    records (a ++ b) = .error fault := by
  rw [records_eq, recordsFrom_eq_error] at ha ⊢
  obtain ⟨i, line, hf⟩ := ha
  rw [Text.lines_append h]
  exact ⟨i, line, hf.append_left b.lines⟩

/-- The records of a log come before those of the log after it. -/
theorem records_append_of_ok {rs ss : List Record} (ha : records a = .ok rs) (hb : records b = .ok ss) :
    records (a ++ b) = .ok (rs ++ ss.map (Record.moved a.lines.length)) := by
  rw [records_eq, recordsFrom_eq_ok] at ha hb ⊢
  rw [Text.lines_append h]
  exact ha.append (hb.moved a.lines.length)

/-- A rejected line is the first one in a log after one that is well-formed. -/
theorem firstRejected_append {rs : List Record} (ha : records a = .ok rs) {i : Nat} {line : Text} {fault : Fault}
    (hb : FirstRejected 1 b.lines i line fault) :
    FirstRejected 1 (a ++ b).lines (a.lines.length + i) line (fault.moved a.lines.length) := by
  rw [records_eq, recordsFrom_eq_ok] at ha
  rw [Text.lines_append h]
  exact .append_right ha (hb.moved a.lines.length)

/-- Both parts of a well-formed log are well-formed. -/
theorem records_append_eq_ok {whole : List Record} (hw : records (a ++ b) = .ok whole) :
    ∃ rs ss, records a = .ok rs ∧ records b = .ok ss ∧ whole = rs ++ ss.map (Record.moved a.lines.length) := by
  cases ha : records a with
  | error fault =>
    rw [records_append_of_error h b ha] at hw
    cases hw
  | ok rs =>
    cases hb : records b with
    | error fault =>
      rw [records_eq, recordsFrom_eq_error] at hb
      obtain ⟨i, line, hf⟩ := hb
      have hfault := recordsFrom_eq_error.mpr ⟨_, line, firstRejected_append h b ha hf⟩
      rw [← records_eq, hw] at hfault
      cases hfault
    | ok ss =>
      rw [records_append_of_ok h b ha hb] at hw
      exact ⟨rs, ss, rfl, rfl, (Except.ok.inj hw).symm⟩

end Logs

/-- **A log that goes on after a line feed is read as its two parts.** The fault of the first part is that of the whole.
If only the second part has a fault, it is that of the whole on the same line, whose number grows by the number of lines
of the first part, blank ones included. If there is no fault, the records of the second part come after those of the
first, and nothing but their numbers grows, by the same amount. -/
theorem records_of_appended (a b : Text) (h : a.Ended) :
    (∀ fault, records a = .error fault → records (a ++ b) = .error fault) ∧
    (∀ rs fault, records a = .ok rs → records b = .error fault →
      records (a ++ b) = .error (fault.moved a.lines.length) ∧
      ∃ i line, FirstRejected 1 b.lines i line fault ∧
        FirstRejected 1 (a ++ b).lines (a.lines.length + i) line (fault.moved a.lines.length)) ∧
    ∀ rs ss, records a = .ok rs → records b = .ok ss →
      records (a ++ b) = .ok (rs ++ ss.map (Record.moved a.lines.length)) := by
  refine ⟨fun fault ha => records_append_of_error h b ha, fun rs fault ha hb => ?_,
    fun rs ss ha hb => records_append_of_ok h b ha hb⟩
  rw [records_eq, recordsFrom_eq_error] at hb
  obtain ⟨i, line, hf⟩ := hb
  have hab := firstRejected_append h b ha hf
  refine ⟨?_, i, line, hf, hab⟩
  rw [records_eq, recordsFrom_eq_error]
  exact ⟨_, line, hab⟩

/-- One event and a blank line. -/
def boughtThenBlank : Text := "\x7b\"level\":\"INFO\",\"fields\":\x7b\x7d\x7d\r\n\n"

/-- What is no event is rejected on the third line after them. -/
theorem gone_after_bought : boughtThenBlank.Ended ∧ ∃ i line fault, FirstRejected 1 (Text.lines "gone") i line fault ∧
    records (boughtThenBlank ++ "gone") = .error (fault.moved 2) ∧
    FirstRejected 1 (boughtThenBlank ++ "gone").lines (2 + i) line (fault.moved 2) := by
  have hended : boughtThenBlank.Ended := by decide
  obtain ⟨rs, hrs⟩ := Result.isOk_iff.mp (show (records boughtThenBlank).isOk = true by decide +kernel)
  obtain ⟨fault, hf⟩ := Result.isOk_eq_false.mp (show (records "gone").isOk = false by decide +kernel)
  have hlines : boughtThenBlank.lines.length = 2 := by decide +kernel
  obtain ⟨-, hsecond, -⟩ := records_of_appended boughtThenBlank "gone" hended
  obtain ⟨hab, i, line, hb, hfirst⟩ := hsecond rs fault hrs hf
  rw [hlines] at hab hfirst
  exact ⟨hended, i, line, fault, hb, hab, hfirst⟩

end LiquidationDrill.Log
