import LiquidationDrill.Log.Stream
import LiquidationDrill.Proofs.Result
import LiquidationDrill.Proofs.Text.Lines

/-!
# All records of a log, or the first fault

The records of a log are read line by line, and blank lines only count (`recordsFrom_blank`, `recordsFrom_ok`,
`recordsFrom_error`). From these steps: the log has records iff no line is rejected (`recordsFrom_isOk`), which
records these are (`Reads.mem_iff`, `Reads.map_raw`, `Reads.rising`), and that the fault is that of the first rejected
line (`recordsFrom_eq_error`). `records_all_or_nothing` puts this together for the lines into which a log falls.
-/

namespace LiquidationDrill.Log

/-! ## Single lines -/

/-- An event that is a record keeps the number and the text of its line. -/
theorem Record.ofEvent_place {event : Value} {n : Int} {line : Text} {record : Record}
    (h : ofEvent event n line = .ok record) : record.lineNumber = n ∧ record.raw = line := by
  unfold ofEvent at h
  split at h
  · cases h
  split at h
  · cases h
  split at h
  · cases h
  split at h
  · cases h
  obtain ⟨spans, -, rfl⟩ := Result.map_eq_ok.mp h
  exact ⟨rfl, rfl⟩

/-- A record keeps the number and the text of its line. -/
theorem Record.ofLine_place {line : Text} {n : Int} {record : Record} (h : ofLine line n = .ok record) :
    record.lineNumber = n ∧ record.raw = line := by
  unfold ofLine at h
  split at h
  · exact ofEvent_place h
  · cases h
  · cases h

/-- A line with a number is blank or a record. -/
def Accepted (n : Nat) (line : Text) : Prop :=
  line.isBlank = true ∨ ∃ record, Record.ofLine line n = .ok record

/-- The first rejected one of lines that are numbered from `n` on: the one with index `i`. -/
structure FirstRejected (n : Nat) (ls : List Text) (i : Nat) (line : Text) (fault : Fault) : Prop where
  line_at : ls[i]? = some line
  not_blank : line.isBlank = false
  rejected : Record.ofLine line (i + n : Nat) = .error fault
  before : ∀ j < i, ∀ earlier, ls[j]? = some earlier → Accepted (j + n) earlier

/-! ## Numbered lines, one by one -/

/-- The records of lines that are numbered from `n` on. -/
def recordsFrom (n : Nat) (ls : List Text) : Except Fault (List Record) :=
  ((ls.zipIdx n).filter fun (line, _) => !line.isBlank).mapM entryRecord

theorem records_eq (log : Text) : records log = recordsFrom 1 log.lines := rfl

/-- A log has the same records whichever line ends it has. -/
theorem records_unifyNewlines (log : Text) : records log.unifyNewlines = records log := by
  rw [records_eq, records_eq, Text.lines_unifyNewlines]

section Steps

variable {n : Nat} {line : Text} {ls : List Text}

/-- A blank line only counts. -/
theorem recordsFrom_blank (h : line.isBlank = true) : recordsFrom n (line :: ls) = recordsFrom (n + 1) ls := by
  simp [recordsFrom, List.zipIdx_cons, h]

/-- A line that is a record comes before the records of the others. -/
theorem recordsFrom_ok {record : Record} (h : line.isBlank = false) (hr : Record.ofLine line n = .ok record) :
    recordsFrom n (line :: ls) = (recordsFrom (n + 1) ls).map (record :: ·) := by
  have he : entryRecord (line, n) = .ok record := hr
  simp only [recordsFrom, List.zipIdx_cons, List.filter_cons, h, Bool.not_false, if_true, List.mapM_cons, he]
  rfl

/-- A rejected line ends the reading. -/
theorem recordsFrom_error {fault : Fault} (h : line.isBlank = false) (hr : Record.ofLine line n = .error fault) :
    recordsFrom n (line :: ls) = .error fault := by
  have he : entryRecord (line, n) = .error fault := hr
  simp only [recordsFrom, List.zipIdx_cons, List.filter_cons, h, Bool.not_false, if_true, List.mapM_cons, he]
  rfl

end Steps

/-- A line is blank, a record, or rejected. -/
theorem line_cases (n : Nat) (line : Text) :
    line.isBlank = true ∨ (line.isBlank = false ∧ ∃ record, Record.ofLine line n = .ok record) ∨
      (line.isBlank = false ∧ ∃ fault, Record.ofLine line n = .error fault) := by
  cases hb : line.isBlank with
  | true => exact Or.inl rfl
  | false =>
    cases hr : Record.ofLine line n with
    | ok record => exact Or.inr (Or.inl ⟨rfl, record, rfl⟩)
    | error fault => exact Or.inr (Or.inr ⟨rfl, fault, rfl⟩)

/-- A line that is not blank is accepted iff it is a record. -/
theorem accepted_iff {n : Nat} {line : Text} (h : line.isBlank = false) :
    Accepted n line ↔ ∃ record, Record.ofLine line n = .ok record := by
  simp [Accepted, h]

/-- A line that is not blank and no record is not accepted. -/
theorem not_accepted {n : Nat} {line : Text} {fault : Fault} (h : line.isBlank = false)
    (hr : Record.ofLine line n = .error fault) : ¬Accepted n line := by
  simp [accepted_iff h, hr]

/-! ## The fault -/

/-- A rejected line at the beginning is the first one. -/
theorem FirstRejected.head {n : Nat} {line : Text} {ls : List Text} {fault : Fault} (h : line.isBlank = false)
    (hr : Record.ofLine line n = .error fault) : FirstRejected n (line :: ls) 0 line fault where
  line_at := rfl
  not_blank := h
  rejected := by rwa [Nat.zero_add]
  before j hj := absurd hj (Nat.not_lt_zero j)

/-- After an accepted line the first rejected line is the one of the others. -/
theorem firstRejected_cons {n i : Nat} {line other : Text} {ls : List Text} {fault : Fault} :
    FirstRejected n (line :: ls) (i + 1) other fault ↔
      Accepted n line ∧ FirstRejected (n + 1) ls i other fault := by
  have hn (j : Nat) : j + 1 + n = j + (n + 1) := by omega
  constructor
  · intro h
    have h0 := h.before 0 (Nat.succ_pos i) line rfl
    rw [Nat.zero_add] at h0
    refine ⟨h0, h.line_at, h.not_blank, hn i ▸ h.rejected, fun j hj earlier he => ?_⟩
    exact hn j ▸ h.before (j + 1) (Nat.succ_lt_succ hj) earlier he
  · rintro ⟨h0, h⟩
    refine ⟨h.line_at, h.not_blank, (hn i).symm ▸ h.rejected, fun j hj earlier he => ?_⟩
    cases j with
    | zero =>
      obtain rfl : line = earlier := Option.some.inj he
      rwa [Nat.zero_add]
    | succ j => exact (hn j).symm ▸ h.before j (Nat.lt_of_succ_lt_succ hj) earlier he

/-- **The fault is the one of the first rejected line.** -/
theorem recordsFrom_eq_error {n : Nat} {ls : List Text} {fault : Fault} :
    recordsFrom n ls = .error fault ↔ ∃ i line, FirstRejected n ls i line fault := by
  induction ls generalizing n with
  | nil =>
    constructor
    · intro h
      cases h
    · rintro ⟨i, line, h⟩
      cases h.line_at
  | cons line ls ih =>
    constructor
    · intro h
      rcases line_cases n line with hb | ⟨hb, record, hr⟩ | ⟨hb, fault', hr⟩
      · rw [recordsFrom_blank hb] at h
        obtain ⟨i, other, h⟩ := ih.mp h
        exact ⟨i + 1, other, firstRejected_cons.mpr ⟨Or.inl hb, h⟩⟩
      · rw [recordsFrom_ok hb hr, Result.map_eq_error] at h
        obtain ⟨i, other, h⟩ := ih.mp h
        exact ⟨i + 1, other, firstRejected_cons.mpr ⟨Or.inr ⟨record, hr⟩, h⟩⟩
      · rw [recordsFrom_error hb hr] at h
        cases h
        exact ⟨0, line, .head hb hr⟩
    · rintro ⟨i, other, h⟩
      cases i with
      | zero =>
        obtain rfl : line = other := Option.some.inj h.line_at
        exact recordsFrom_error h.not_blank (Nat.zero_add n ▸ h.rejected)
      | succ i =>
        obtain ⟨ha, h⟩ := firstRejected_cons.mp h
        have ht := ih.mpr ⟨i, other, h⟩
        rcases line_cases n line with hb | ⟨hb, record, hr⟩ | ⟨hb, fault', hr⟩
        · rw [recordsFrom_blank hb, ht]
        · rw [recordsFrom_ok hb hr, ht]
          rfl
        · exact absurd ha (not_accepted hb hr)

/-! ## The records -/

/-- The records of lines that are numbered from `n` on, one for each line that is not blank. -/
inductive Reads : Nat → List Text → List Record → Prop
  | nil (n : Nat) : Reads n [] []
  | blank {n : Nat} {line : Text} {ls : List Text} {records : List Record} :
      line.isBlank = true → Reads (n + 1) ls records → Reads n (line :: ls) records
  | cons {n : Nat} {line : Text} {ls : List Text} {record : Record} {records : List Record} :
      line.isBlank = false → Record.ofLine line n = .ok record → Reads (n + 1) ls records →
        Reads n (line :: ls) (record :: records)

/-- **Lines that are all read give their records.** -/
theorem recordsFrom_eq_ok {n : Nat} {ls : List Text} {records : List Record} :
    recordsFrom n ls = .ok records ↔ Reads n ls records := by
  constructor
  · intro h
    induction ls generalizing n records with
    | nil =>
      cases h
      exact .nil n
    | cons line ls ih =>
      rcases line_cases n line with hb | ⟨hb, record, hr⟩ | ⟨hb, fault, hr⟩
      · rw [recordsFrom_blank hb] at h
        exact .blank hb (ih h)
      · rw [recordsFrom_ok hb hr] at h
        obtain ⟨rest, hrest, rfl⟩ := Result.map_eq_ok.mp h
        exact .cons hb hr (ih hrest)
      · rw [recordsFrom_error hb hr] at h
        cases h
  · intro h
    induction h with
    | nil n => rfl
    | blank hb _ ih => rw [recordsFrom_blank hb, ih]
    | cons hb hr _ ih =>
      rw [recordsFrom_ok hb hr, ih]
      rfl

/-- A record is read from a line that is not blank, with the number of that line. -/
theorem Reads.mem_iff {n : Nat} {ls : List Text} {records : List Record} (h : Reads n ls records) (record : Record) :
    record ∈ records ↔
      ∃ i line, ls[i]? = some line ∧ line.isBlank = false ∧ Record.ofLine line (i + n : Nat) = .ok record := by
  induction h with
  | nil n => simp
  | @blank n line ls records hb _ ih =>
    rw [ih]
    constructor
    · rintro ⟨i, other, hl, ho, hr⟩
      exact ⟨i + 1, other, hl, ho, by rwa [Nat.add_right_comm]⟩
    · rintro ⟨i, other, hl, ho, hr⟩
      cases i with
      | zero =>
        obtain rfl : line = other := Option.some.inj hl
        rw [hb] at ho
        cases ho
      | succ i => exact ⟨i, other, hl, ho, by rwa [Nat.add_right_comm] at hr⟩
  | @cons n line ls first records hb hfirst _ ih =>
    rw [List.mem_cons, ih]
    constructor
    · rintro (rfl | ⟨i, other, hl, ho, hr⟩)
      · exact ⟨0, line, rfl, hb, by rwa [Nat.zero_add]⟩
      · exact ⟨i + 1, other, hl, ho, by rwa [Nat.add_right_comm]⟩
    · rintro ⟨i, other, hl, ho, hr⟩
      cases i with
      | zero =>
        obtain rfl : line = other := Option.some.inj hl
        rw [Nat.zero_add, hfirst] at hr
        exact Or.inl (Except.ok.inj hr).symm
      | succ i => exact Or.inr ⟨i, other, hl, ho, by rwa [Nat.add_right_comm] at hr⟩

/-- The number of a record is the number of its line. -/
theorem Reads.le_lineNumber {n : Nat} {ls : List Text} {records : List Record} (h : Reads n ls records)
    {record : Record} (hr : record ∈ records) : (n : Int) ≤ record.lineNumber := by
  obtain ⟨i, line, -, -, ho⟩ := (h.mem_iff record).mp hr
  have := (Record.ofLine_place ho).1
  omega

/-- Records are in the order of their numbers. -/
theorem Reads.rising {n : Nat} {ls : List Text} {records : List Record} (h : Reads n ls records) :
    records.Pairwise fun a b => a.lineNumber < b.lineNumber := by
  induction h with
  | nil n => exact List.Pairwise.nil
  | blank _ _ ih => exact ih
  | cons _ hr ht ih =>
    refine List.Pairwise.cons (fun later hl => ?_) ih
    have h1 := (Record.ofLine_place hr).1
    have h2 := ht.le_lineNumber hl
    omega

/-- Every line that is not blank gives one record, in order. -/
theorem Reads.map_raw {n : Nat} {ls : List Text} {records : List Record} (h : Reads n ls records) :
    records.map Record.raw = ls.filter (!·.isBlank) := by
  induction h with
  | nil n => rfl
  | blank hb _ ih => simp [hb, ih]
  | cons hb hr _ ih => simp [hb, ih, (Record.ofLine_place hr).2]

/-- Every line of a log with records is accepted. -/
theorem Reads.accepted {n : Nat} {ls : List Text} {records : List Record} (h : Reads n ls records) {i : Nat}
    {line : Text} (hl : ls[i]? = some line) : Accepted (i + n) line := by
  induction h generalizing i with
  | nil n => cases hl
  | @blank n first ls records hb _ ih =>
    cases i with
    | zero =>
      obtain rfl : first = line := Option.some.inj hl
      exact Or.inl hb
    | succ i =>
      rw [Nat.add_right_comm]
      exact ih hl
  | @cons n first ls record records _ hr _ ih =>
    cases i with
    | zero =>
      obtain rfl : first = line := Option.some.inj hl
      exact Or.inr ⟨record, by rwa [Nat.zero_add]⟩
    | succ i =>
      rw [Nat.add_right_comm]
      exact ih hl

/-- **There are records iff every line is accepted.** -/
theorem recordsFrom_isOk {n : Nat} {ls : List Text} :
    (∃ records, recordsFrom n ls = .ok records) ↔ ∀ i line, ls[i]? = some line → Accepted (i + n) line := by
  constructor
  · rintro ⟨records, h⟩ i line hl
    exact (recordsFrom_eq_ok.mp h).accepted hl
  · intro h
    cases hr : recordsFrom n ls with
    | ok records => exact ⟨records, rfl⟩
    | error fault =>
      obtain ⟨i, line, hf⟩ := recordsFrom_eq_error.mp hr
      exact absurd (h i line hf.line_at) (not_accepted hf.not_blank hf.rejected)

/-! ## The whole log -/

/-- The first rejected line does not depend on the lines after it. -/
theorem FirstRejected.of_take_eq {n i : Nat} {ls others : List Text} {line : Text} {fault : Fault}
    (h : FirstRejected n ls i line fault) (ht : others.take (i + 1) = ls.take (i + 1)) :
    FirstRejected n others i line fault := by
  have hat {j : Nat} (hj : j < i + 1) : others[j]? = ls[j]? := by
    rw [← List.getElem?_take_of_lt hj, ht, List.getElem?_take_of_lt hj]
  exact ⟨hat (Nat.lt_succ_self i) ▸ h.line_at, h.not_blank, h.rejected, fun j hj earlier he =>
    h.before j hj earlier (hat (Nat.lt_succ_of_lt hj) ▸ he)⟩

/-- **A log gives all its records or the fault of its first rejected line.** It falls into lines in one way. There are
records iff every line that is not blank is one; then each such line gives one record, in order, with its number and
its text. Otherwise the fault is the one of the first rejected line, whatever comes after it. -/
theorem records_all_or_nothing (log : Text) :
    ∃ ls : List Text, log.FallsInto ls ∧ (∀ others, log.FallsInto others → others = ls) ∧
      ((∃ rs, records log = .ok rs) ↔ ∀ i line, ls[i]? = some line → line.isBlank = false →
        ∃ r, Record.ofLine line (i + 1 : Nat) = .ok r) ∧
      (∀ rs, records log = .ok rs →
        rs.map Record.raw = ls.filter (!·.isBlank) ∧ (rs.Pairwise fun a b => a.lineNumber < b.lineNumber) ∧
        ∀ r, r ∈ rs ↔ ∃ i line, ls[i]? = some line ∧ line.isBlank = false ∧
          Record.ofLine line (i + 1 : Nat) = .ok r ∧ r.lineNumber = (i + 1 : Nat) ∧ r.raw = line) ∧
      (∀ fault, records log = .error fault ↔ ∃ i line, FirstRejected 1 ls i line fault) ∧
      ∀ i line fault, FirstRejected 1 ls i line fault →
        ∀ other : Text, other.lines.take (i + 1) = ls.take (i + 1) → records other = .error fault := by
  refine ⟨log.lines, Text.fallsInto_lines log, fun others h => h.lines_eq.symm, ?_, ?_, ?_, ?_⟩
  · rw [records_eq, recordsFrom_isOk]
    refine forall_congr' fun i => forall_congr' fun line => imp_congr_right fun _ => ?_
    cases hb : line.isBlank with
    | true => simp [Accepted, hb]
    | false => simp [accepted_iff hb]
  · intro rs h
    have hr := recordsFrom_eq_ok.mp h
    refine ⟨hr.map_raw, hr.rising, fun r => ?_⟩
    rw [hr.mem_iff]
    constructor
    · rintro ⟨i, line, hl, hb, ho⟩
      exact ⟨i, line, hl, hb, ho, Record.ofLine_place ho⟩
    · rintro ⟨i, line, hl, hb, ho, -⟩
      exact ⟨i, line, hl, hb, ho⟩
  · intro fault
    rw [records_eq, recordsFrom_eq_error]
  · intro i line fault h other ht
    rw [records_eq, recordsFrom_eq_error]
    exact ⟨i, line, h.of_take_eq ht⟩

end LiquidationDrill.Log
