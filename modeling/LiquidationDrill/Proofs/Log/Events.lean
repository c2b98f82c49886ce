import LiquidationDrill.Proofs.Json.Written
import LiquidationDrill.Proofs.Log.Framing

/-!
# Events that are written are read back

An event is said by an object that holds its level, in capitals or not, its fields, and what else belongs to it; the
members may stand in any order, with others among them (`Event.SaidBy`). Such an object on a line of its own is the
record of its event (`Event.SaidBy.ofLine_written`), and the line is unbroken whatever stands in the strings
(`oneLine_unbroken`). So lines of events with line feeds between them are read back event by event (`records_written`).
-/

namespace LiquidationDrill.Log

open Json (Kept InAscii oneLine)

/-- What a program says of itself. -/
structure Event where
  level : Level
  fields : Value.Members
  target : Value
  timestamp : Value
  spans : List Value.Members

namespace Event

/-- The record of an event that was read from a line. -/
def record (event : Event) (lineNumber : Int) (line : Text) : Record :=
  { level := event.level, fields := event.fields, lineNumber, target := event.target, timestamp := event.timestamp,
    spans := event.spans, raw := line }

/-- The members of an object that says an event. A target and a timestamp that are missing are null, and spans that are
missing are none. -/
structure SaidBy (event : Event) (members : Value.Members) : Prop where
  level : ∃ name : Text, members.get? "level" = some (.string name) ∧ name.upper = event.level.name
  fields : members.get? "fields" = some (.object event.fields)
  target : (members.get? "target").getD .null = event.target
  timestamp : (members.get? "timestamp").getD .null = event.timestamp
  spans : (members.get? "spans").getD (.array []) = .array (event.spans.map .object)

/-- The members of an event as the program writes them. -/
def members (event : Event) : Value.Members :=
  [("timestamp", event.timestamp), ("level", .string event.level.name), ("fields", .object event.fields),
    ("target", event.target), ("spans", .array (event.spans.map .object))]

/-- They say the event. -/
theorem saidBy_members (event : Event) : event.SaidBy event.members where
  level := by
    refine ⟨event.level.name, by rfl, ?_⟩
    cases event.level <;> decide +kernel
  fields := by rfl
  target := by rfl
  timestamp := by rfl
  spans := by rfl

/-- What says an event describes a record of its level and its fields. -/
theorem SaidBy.describes {event : Event} {members : Value.Members} (h : event.SaidBy members) :
    Record.Describes (.object members) members event.fields event.level where
  members_eq := rfl
  level_eq := by
    obtain ⟨name, hn, hu⟩ := h.level
    rw [hn, Option.bind_some, Record.levelOf?]
    exact Level.ofName?_eq_some.mpr hu
  fields_eq := by
    rw [h.fields]
    rfl

/-- Objects are all kept as spans. -/
theorem spansOf_objects (spans : List Value.Members) : Record.spansOf (.array (spans.map .object)) = .ok spans := by
  have hall : (spans.map Value.object).filterMap Value.members? = spans := by
    induction spans with
    | nil => rfl
    | cons span spans ih =>
      have hspan : Value.members? (.object span) = some span := rfl
      rw [List.map_cons, List.filterMap_cons_some hspan, ih]
  rw [Record.spansOf, hall]

/-- The spans of an event are those of its record. -/
theorem SaidBy.spansOf_eq {event : Event} {members : Value.Members} (h : event.SaidBy members) :
    Record.spansOf (Record.spansIn members) = .ok event.spans := by
  have hs := h.spans
  unfold Record.spansIn
  cases hm : members.get? "spans" with
  | none =>
    rw [hm, Option.getD_none] at hs
    have hnil : event.spans = [] := by simpa using (Value.array.inj hs).symm
    rw [hnil]
    rfl
  | some spans =>
    rw [hm, Option.getD_some] at hs
    rw [Option.getD_some, hs, spansOf_objects]

/-- The parts of what says an event make its record. -/
theorem SaidBy.assembled_eq {event : Event} {members : Value.Members} (h : event.SaidBy members) (n : Int)
    (line : Text) : Record.assembled members event.fields event.level n line event.spans = event.record n line := by
  rw [Record.assembled, h.target, h.timestamp, record]

/-- **A line that says an event is its record.** -/
theorem SaidBy.ofLine_written {event : Event} {members : Value.Members} (h : event.SaidBy members)
    (hk : Kept Json.maxDepth (.object members)) (n : Int) :
    Record.ofLine (oneLine (.object members)) n = .ok (event.record n (oneLine (.object members))) := by
  have hread : Json.read (oneLine (.object members)) = .ok (.object members) :=
    Json.read_written Json.Layout.oneLine_isSpaced hk
  rw [Record.ofLine, hread]
  dsimp only
  rw [h.describes.ofEvent_eq, h.spansOf_eq]
  exact congrArg Except.ok (h.assembled_eq n _)

end Event

/-! ## Lines -/

/-- What is written on one line is one line. -/
theorem oneLine_unbroken {depth : Nat} {x : Value} (h : Kept depth x) : (oneLine x).Unbroken := by
  have hascii {c : CodePoint} (hc : InAscii c) : c.isLineEnd = false := by
    have h1 := hc.1
    have h2 := hc.2
    simp only [CodePoint.isLineEnd, Bool.or_eq_false_iff, Bool.and_eq_false_iff, decide_eq_false_iff_not]
    omega
  refine Json.write_forall (fun c hc => hascii hc) (fun _ => List.forall_mem_nil _) (fun _ c hc => ?_) h 0
  exact hascii ((by decide : ∀ d ∈ (", " : Text), InAscii d) c hc)

/-- The line of an event. -/
def lineOf (saying : Event × Value.Members) : Text := oneLine (.object saying.2)

/-- Lines that say events are read event by event. -/
theorem reads_written {sayings : List (Event × Value.Members)}
    (h : ∀ saying ∈ sayings, saying.1.SaidBy saying.2 ∧ Kept Json.maxDepth (.object saying.2)) (n : Nat) :
    Reads n (sayings.map lineOf) ((sayings.zipIdx n).map fun (saying, n) => saying.1.record n (lineOf saying)) := by
  induction sayings generalizing n with
  | nil => exact .nil n
  | cons saying sayings ih =>
    obtain ⟨⟨hs, hk⟩, hrest⟩ := List.forall_mem_cons.mp h
    have hline := hs.ofLine_written hk n
    exact .cons (not_blank_of_ofLine hline) hline (ih hrest (n + 1))

/-- **Events that are written one a line are read back**: one record for each, in order, with the number of its line,
the level, the fields, the target, the timestamp and the spans of the event. -/
theorem records_written (sayings : List (Event × Value.Members))
    (h : ∀ saying ∈ sayings, saying.1.SaidBy saying.2 ∧ Kept Json.maxDepth (.object saying.2)) :
    records (Text.join "\n" (sayings.map lineOf)) =
      .ok ((sayings.zipIdx 1).map fun (saying, n) => saying.1.record n (lineOf saying)) := by
  have hlines : ∀ line ∈ sayings.map lineOf, line.Unbroken ∧ line ≠ [] := by
    intro line hl
    obtain ⟨saying, hm, rfl⟩ := List.mem_map.mp hl
    obtain ⟨hs, hk⟩ := h saying hm
    refine ⟨oneLine_unbroken hk, fun hnil => ?_⟩
    have hb := not_blank_of_ofLine (hs.ofLine_written hk 1)
    change (lineOf saying).isBlank = false at hb
    rw [hnil] at hb
    cases hb
  rw [records_eq, Text.lines_join hlines, recordsFrom_eq_ok]
  exact reads_written h 1

/-- A buy order, with a line separator and a character above U+FFFF in its message. -/
def bought : Event where
  level := .info
  fields := [("message", .string "bought\u2028\"💰\""), ("gas", .int (-1200000))]
  target := .null
  timestamp := .string "Dec 04 21:00:00.000"
  spans := [[("id", .array [.bool true, .null])]]

/-- It is kept. -/
theorem bought_kept (depth : Nat) : Kept (depth + 4) (.object bought.members) := by
  have hspan : Kept (depth + 2) (.object [("id", .array [.bool true, .null])]) := by
    refine .object (by decide) (by decide) (List.forall_mem_singleton.mpr (.array ?_))
    simp only [List.forall_mem_cons]
    exact ⟨.bool _ _, .null _, List.forall_mem_nil _⟩
  have hfields : Kept (depth + 3) (.object bought.fields) := by
    refine .object (by decide) (by decide) ?_
    simp only [bought, List.forall_mem_cons]
    exact ⟨.string _ (by decide), .int _ (by decide), List.forall_mem_nil _⟩
  refine .object (by decide) (by decide) ?_
  simp only [Event.members, List.forall_mem_cons]
  exact ⟨.string _ (by decide), .string _ (by decide), hfields, .null _,
    .array (List.forall_mem_singleton.mpr hspan), List.forall_mem_nil _⟩

/-- Two of them are read back. -/
theorem bought_twice_written :
    records (Text.join "\n" [lineOf (bought, bought.members), lineOf (bought, bought.members)]) =
      .ok [bought.record 1 (lineOf (bought, bought.members)), bought.record 2 (lineOf (bought, bought.members))] := by
  have hone : bought.SaidBy bought.members ∧ Kept Json.maxDepth (.object bought.members) :=
    ⟨bought.saidBy_members, bought_kept 986⟩
  have h := records_written [(bought, bought.members), (bought, bought.members)] (by
    simp only [List.forall_mem_cons]
    exact ⟨hone, hone, List.forall_mem_nil _⟩)
  exact h

end LiquidationDrill.Log
