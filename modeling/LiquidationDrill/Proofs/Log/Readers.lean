import LiquidationDrill.Log.Readers
import LiquidationDrill.Proofs.Log.Cursor
import LiquidationDrill.Proofs.Log.Records

/-!
# Readers side by side

A reader yields records one after the other, up to the first fault and with it. What it yields are all records of the
log or those before the first rejected line (`yieldsFrom_of_reads`, `yieldsFrom_of_firstRejected`). A query moves a
reader by one step if it asks this reader for its next record, and not at all otherwise (`perform_cursor`); hence a
reader is as far in the log as it was asked since it was started (`following_cursor`). From both: whatever else is asked
in between, the answer to a reader is what the log yields at its own place (`next_answered_in_order`).
-/

namespace LiquidationDrill.Log

/-! ## What a reader yields -/

/-- What entries yield: their records up to the first fault, and that fault. -/
def yields : List (Text × Nat) → List (Except Fault Record)
  | [] => []
  | entry :: rest =>
    match entryRecord entry with
    | .ok record => .ok record :: yields rest
    | .error fault => [.error fault]

/-- After `k` steps a reader answers what the entries yield at the place `k`; at the end, and after a fault, nothing. -/
theorem Cursor.next_after (entries : List (Text × Nat)) (k : Nat) :
    (after k ⟨entries⟩).next.1 = (yields entries)[k]? := by
  induction entries generalizing k with
  | nil =>
    rw [after_nil]
    rfl
  | cons entry rest ih =>
    cases he : entryRecord entry with
    | ok record =>
      simp only [yields, he]
      cases k with
      | zero => rw [after, next_of_ok he, List.getElem?_cons_zero]
      | succ k => rw [after, next_of_ok he, List.getElem?_cons_succ, ih]
    | error fault =>
      simp only [yields, he]
      cases k with
      | zero => rw [after, next_of_error he, List.getElem?_cons_zero]
      | succ k =>
        rw [after, next_of_error he, after_nil, List.getElem?_cons_succ, List.getElem?_nil]
        rfl

/-- What lines that are numbered from `n` on yield. -/
def yieldsFrom (n : Nat) (ls : List Text) : List (Except Fault Record) :=
  yields ((ls.zipIdx n).filter fun (line, _) => !line.isBlank)

section Steps

variable {n : Nat} {line : Text} {ls : List Text}

/-- A blank line yields nothing. -/
theorem yieldsFrom_blank (h : line.isBlank = true) : yieldsFrom n (line :: ls) = yieldsFrom (n + 1) ls := by
  simp [yieldsFrom, List.zipIdx_cons, h]

/-- A line that is a record yields it. -/
theorem yieldsFrom_ok {record : Record} (h : line.isBlank = false) (hr : Record.ofLine line n = .ok record) :
    yieldsFrom n (line :: ls) = .ok record :: yieldsFrom (n + 1) ls := by
  have he : entryRecord (line, n) = .ok record := hr
  simp [yieldsFrom, List.zipIdx_cons, h, yields, he]

/-- A rejected line yields its fault, and nothing comes after it. -/
theorem yieldsFrom_error {fault : Fault} (h : line.isBlank = false) (hr : Record.ofLine line n = .error fault) :
    yieldsFrom n (line :: ls) = [.error fault] := by
  have he : entryRecord (line, n) = .error fault := hr
  simp [yieldsFrom, List.zipIdx_cons, h, yields, he]

end Steps

/-- **Lines that are all read yield their records.** -/
theorem yieldsFrom_of_reads {n : Nat} {ls : List Text} {rs : List Record} (h : Reads n ls rs) :
    yieldsFrom n ls = rs.map .ok := by
  induction h with
  | nil n => rfl
  | blank hb _ ih => rw [yieldsFrom_blank hb, ih]
  | cons hb hr _ ih => rw [yieldsFrom_ok hb hr, ih, List.map_cons]

/-- **Lines of which one is rejected yield the records before it, and its fault.** -/
theorem yieldsFrom_of_firstRejected {n i : Nat} {ls : List Text} {line : Text} {fault : Fault}
    (h : FirstRejected n ls i line fault) :
    ∃ rs, Reads n (ls.take i) rs ∧ yieldsFrom n ls = rs.map .ok ++ [.error fault] := by
  induction ls generalizing n i with
  | nil => cases h.line_at
  | cons first ls ih =>
    cases i with
    | zero =>
      obtain rfl : first = line := Option.some.inj h.line_at
      exact ⟨[], .nil n, yieldsFrom_error h.not_blank (Nat.zero_add n ▸ h.rejected)⟩
    | succ i =>
      obtain ⟨ha, h⟩ := firstRejected_cons.mp h
      obtain ⟨rs, hrs, hy⟩ := ih h
      rcases line_cases n first with hb | ⟨hb, record, hr⟩ | ⟨hb, other, hr⟩
      · exact ⟨rs, .blank hb hrs, by rw [yieldsFrom_blank hb, hy]⟩
      · exact ⟨record :: rs, .cons hb hr hrs, by rw [yieldsFrom_ok hb hr, hy, List.map_cons, List.cons_append]⟩
      · exact absurd ha (not_accepted hb hr)

/-- A query asks this reader for its next record. -/
def Query.moves (name : Text) : Query → Bool
  | .next reader => reader = name
  | _ => false

namespace Readers

/-- The readers after queries. -/
def following (log : Text) : Readers → List Query → Readers
  | readers, [] => readers
  | readers, query :: queries => following log (readers.perform log query).2 queries

variable {log name : Text}

/-- The answers to queries come before the answers to those after them. -/
theorem answers_append (readers : Readers) (queries others : List Query) :
    answers log readers (queries ++ others) =
      answers log readers queries ++ answers log (following log readers queries) others := by
  induction queries generalizing readers with
  | nil => rfl
  | cons query queries ih => simp only [List.cons_append, answers, following, ih]

/-- Every query is answered once. -/
theorem length_answers (readers : Readers) (queries : List Query) :
    (answers log readers queries).length = queries.length := by
  induction queries generalizing readers with
  | nil => rfl
  | cons query queries ih => simp only [answers, List.length_cons, ih]

theorem following_append (readers : Readers) (queries others : List Query) :
    following log readers (queries ++ others) = following log (following log readers queries) others := by
  induction queries generalizing readers with
  | nil => rfl
  | cons query queries ih => exact ih _

/-- The answer to a query after others is the one that the readers give whom these leave. -/
theorem answers_at (readers : Readers) (before after : List Query) (query : Query) :
    (answers log readers (before ++ query :: after))[before.length]? =
      some ((following log readers before).perform log query).1 := by
  have hl : (answers log readers before).length = before.length := length_answers readers before
  rw [answers_append, List.getElem?_append_right (Nat.le_of_eq hl), hl, Nat.sub_self]
  rfl

/-- A reader that is asked for its next record answers with what stands at its place. -/
theorem perform_next (readers : Readers) :
    (readers.perform log (.next name)).1 = .next (readers.cursor name).next.1 := rfl

/-- A query moves a reader one step if it asks for its next record. Any other leaves the reader where it is, unless it
is started anew. -/
theorem perform_cursor (readers : Readers) {query : Query} (h : query ≠ .start name) :
    (readers.perform log query).2.cursor name =
      .after (if query.moves name then 1 else 0) (readers.cursor name) := by
  cases query with
  | start other =>
    have hne : name ≠ other := fun e => h (e ▸ rfl)
    exact cursor_move_of_ne readers _ hne
  | next other =>
    by_cases hn : other = name
    · subst hn
      simp only [Query.moves, decide_true, if_true]
      exact cursor_move_self readers other _
    · simp only [Query.moves, decide_eq_false hn, Bool.false_eq_true, if_false]
      exact cursor_move_of_ne readers _ (Ne.symm hn)
  | records => rfl
  | withMessage message levelName => rfl
  | txHashes message => rfl
  | countBuyOrders => rfl

/-- **A reader is as far as it was asked since it was started.** -/
theorem following_cursor (readers : Readers) {queries : List Query} (h : .start name ∉ queries) :
    (following log readers queries).cursor name =
      .after (queries.countP (Query.moves name)) (readers.cursor name) := by
  induction queries generalizing readers with
  | nil => rfl
  | cons query queries ih =>
    have hq : query ≠ .start name := fun e => h (e ▸ List.mem_cons_self)
    have hrest : .start name ∉ queries := fun hm => h (List.mem_cons_of_mem query hm)
    rw [following, ih _ hrest, perform_cursor readers hq, List.countP_cons]
    cases query.moves name with
    | true => rfl
    | false => rfl

/-- **A reader answers its own steps in order, whatever else is asked in between.** A log yields all its records, or
the records before its first rejected line and the fault that reading the whole log ends with. At its step `k` after it
was started a reader answers what the log yields at the place `k`, and nothing from the end on: the queries before it
was started, after it, and in between do not matter, be they for other readers or for the whole log. -/
theorem next_answered_in_order (log : Text) :
    ∃ outcomes : List (Except Fault Record),
      (∀ rs, records log = .ok rs → outcomes = rs.map .ok) ∧
      (∀ fault, records log = .error fault → ∃ i line rs, FirstRejected 1 log.lines i line fault ∧
        Reads 1 (log.lines.take i) rs ∧ outcomes = rs.map .ok ++ [.error fault]) ∧
      ∀ (readers : Readers) (name : Text) (before between after : List Query), .start name ∉ between →
        (answers log readers (before ++ .start name :: (between ++ .next name :: after)))[
            before.length + 1 + between.length]? =
          some (.next outcomes[between.countP (Query.moves name)]?) := by
  refine ⟨yieldsFrom 1 log.lines, fun rs h => ?_, fun fault h => ?_, fun readers name before between after h => ?_⟩
  · rw [records_eq] at h
    exact yieldsFrom_of_reads (recordsFrom_eq_ok.mp h)
  · rw [records_eq] at h
    obtain ⟨i, line, hf⟩ := recordsFrom_eq_error.mp h
    obtain ⟨rs, hrs, hy⟩ := yieldsFrom_of_firstRejected hf
    exact ⟨i, line, rs, hf, hrs, hy⟩
  · have hqs : before ++ .start name :: (between ++ .next name :: after) =
        (before ++ .start name :: between) ++ .next name :: after := by simp
    have hl : before.length + 1 + between.length = (before ++ .start name :: between).length := by
      simp only [List.length_append, List.length_cons]
      omega
    rw [hqs, hl, answers_at, following_append, following]
    generalize following log readers before = readers
    have hstart : ((readers.perform log (.start name)).2).cursor name = .start log :=
      cursor_move_self readers name _
    have hn := Cursor.next_after (entries log) (between.countP (Query.moves name))
    rw [perform_next, following_cursor _ h, hstart, Cursor.start, hn]
    rfl

/-- A log of two events. -/
def twice : Text := "\x7b\"level\":\"INFO\",\"fields\":\x7b\x7d\x7d\n\x7b\"level\":\"WARN\",\"fields\":\x7b\x7d\x7d"

/-- A reader of it comes to the second record while another is started and all records are asked for. -/
theorem second_answered_in_order :
    ∃ rs, records twice = .ok rs ∧
      (answers twice [] [.start "a", .next "a", .start "b", .records, .next "b", .next "a"])[5]? =
        some (.next (rs[1]?.map .ok)) := by
  obtain ⟨rs, hrs⟩ := Result.isOk_iff.mp (show (records twice).isOk = true by decide +kernel)
  obtain ⟨outcomes, hok, -, hnext⟩ := next_answered_in_order twice
  refine ⟨rs, hrs, ?_⟩
  have hne : (Text.ofString "a") ≠ Text.ofString "b" := by decide
  have hb : Query.start "a" ∉ [.next "a", .start "b", .records, .next "b"] := by simp [hne]
  have h := hnext [] "a" [] [.next "a", .start "b", .records, .next "b"] [] hb
  rw [hok rs hrs, List.getElem?_map] at h
  exact h

end Readers

end LiquidationDrill.Log
