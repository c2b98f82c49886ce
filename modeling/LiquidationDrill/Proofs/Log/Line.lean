import LiquidationDrill.Proofs.Log.Levels
import LiquidationDrill.Proofs.Result

/-!
# The record of a line

A line is a record, malformed, beyond a limit of the reader, or its spans are true or a number other than zero; which
of these it is does not depend on its number.

- `Record.Describes`: the level, the fields and the spans that an object needs to be a record;
- `Record.Unfit`: the first test that an event fails;
- `Record.ofEvent_cases`: an event describes a record or is malformed;
- `Record.SpansUnreadable`: the one event that describes a record and is none;
- `Record.ofLine_cases`: the four kinds of lines, one by one;
- `Record.ofLine_eq_error`: the fault of a line that is rejected.
-/

namespace LiquidationDrill.Log.Record

/-- An event holds a level and fields. -/
structure Describes (event : Value) (members fields : Value.Members) (level : Level) : Prop where
  members_eq : event.members? = some members
  level_eq : (members.get? "level").bind levelOf? = some level
  fields_eq : (members.get? "fields").bind Value.members? = some fields

/-- The record that an event with these parts is, once its spans are known. -/
def assembled (members fields : Value.Members) (level : Level) (lineNumber : Int) (line : Text)
    (spans : List Value.Members) : Record :=
  { level, fields, lineNumber, spans
    target := (members.get? "target").getD .null
    timestamp := (members.get? "timestamp").getD .null
    raw := line }

/-- What the members of an event hold as spans. -/
def spansIn (members : Value.Members) : Value := (members.get? "spans").getD .null

/-- Of an event that describes a record only the spans can be at fault. -/
theorem Describes.ofEvent_eq {event : Value} {members fields : Value.Members} {level : Level}
    (h : Describes event members fields level) (n : Int) (line : Text) :
    ofEvent event n line = (spansOf (spansIn members)).map (assembled members fields level n line) := by
  obtain ⟨value, hv, hl⟩ := Option.bind_eq_some_iff.mp h.level_eq
  unfold ofEvent
  simp only [h.members_eq, hv, hl, h.fields_eq]
  rfl

/-- Why an event is no record: the first test that it fails. -/
inductive Unfit : (event : Value) → Reason → Prop
  | notObject {event : Value} : (∀ members, event ≠ .object members) → Unfit event .notObject
  | missingLevel {members : Value.Members} : members.get? "level" = none → Unfit (.object members) .missingLevel
  | unknownLevel {members : Value.Members} {value : Value} : members.get? "level" = some value →
      (∀ level, ¬NamesLevel value level) → Unfit (.object members) (.unknownLevel value)
  | missingFields {members : Value.Members} {value : Value} {level : Level} : members.get? "level" = some value →
      NamesLevel value level → (∀ fields, members.get? "fields" ≠ some (.object fields)) →
        Unfit (.object members) .missingFields

theorem members?_eq_none {x : Value} : x.members? = none ↔ ∀ members, x ≠ .object members := by
  cases x <;> simp [Value.members?]

theorem members?_eq_some {x : Value} {members : Value.Members} : x.members? = some members ↔ x = .object members := by
  cases x <;> simp [Value.members?]

/-- An event describes a record, or it fails a test and is malformed whatever its number. -/
theorem ofEvent_cases (event : Value) :
    (∃ members fields level, Describes event members fields level) ∨
      ∃ reason, Unfit event reason ∧
        ∀ n line, ofEvent event n line = .error (.malformed reason (some ⟨n, line⟩)) := by
  unfold ofEvent
  cases hm : event.members? with
  | none => exact Or.inr ⟨.notObject, .notObject (members?_eq_none.mp hm), fun _ _ => rfl⟩
  | some members =>
    obtain rfl := members?_eq_some.mp hm
    cases hv : members.get? "level" with
    | none => exact Or.inr ⟨.missingLevel, .missingLevel hv, fun _ _ => by simp only [hv]⟩
    | some value =>
      cases hl : levelOf? value with
      | none =>
        exact Or.inr ⟨.unknownLevel value, .unknownLevel hv (levelOf?_eq_none.mp hl), fun _ _ => by simp only [hv, hl]⟩
      | some level =>
        cases hf : (members.get? "fields").bind Value.members? with
        | none =>
          refine Or.inr ⟨.missingFields, .missingFields hv (levelOf?_eq_some.mp hl) fun fields h => ?_,
            fun _ _ => by simp only [hv, hl, hf]⟩
          rw [h] at hf
          cases hf
        | some fields => exact Or.inl ⟨members, fields, level, hm, by rw [hv, Option.bind_some, hl], hf⟩

/-- Spans are unreadable iff they are a number other than zero, or true. -/
theorem spansOf_eq_error {spans : Value} {fault : Fault} :
    spansOf spans = .error fault ↔
      (spans.isTruthy = true ∧ spans.numeric?.isSome = true) ∧ fault = .spansNotIterable spans := by
  cases spans with
  | array items =>
    constructor
    · intro h
      cases h
    · rintro ⟨⟨-, h⟩, -⟩
      cases h
  | _ =>
    simp only [spansOf]
    split
    case isTrue h =>
      rw [Bool.and_eq_true] at h
      simp [h, eq_comm]
    case isFalse h =>
      rw [Bool.and_eq_true] at h
      simp [h]

/-- A line is JSON that describes a record, but its spans are true or a number other than zero. -/
def SpansUnreadable (line : Text) : Prop :=
  ∃ event members fields level, Json.read line = .ok event ∧ Describes event members fields level ∧
    (spansIn members).isTruthy = true ∧ (spansIn members).numeric?.isSome = true

/-- A line is malformed: it is no record, and its fault names it. -/
def Malformed (line : Text) : Prop :=
  ∃ reason, ∀ n, ofLine line n = .error (.malformed reason (some ⟨n, line⟩))

theorem ofLine_of_read_error {line : Text} {n : Int} {fault : Json.Fault} (h : Json.read line = .error fault)
    (hf : ∀ limit, fault ≠ .beyond limit) :
    ofLine line n = .error (.malformed (.notJson fault) (some ⟨n, line⟩)) := by
  unfold ofLine
  rw [h]
  cases fault with
  | beyond limit => exact absurd rfl (hf limit)
  | _ => rfl

/-- **Every line is a record, malformed, beyond a limit, or its spans are unreadable**, whatever its number. -/
theorem ofLine_cases (line : Text) :
    (∀ n, ∃ record, ofLine line n = .ok record) ∨ Malformed line ∨
      (∃ limit, Json.read line = .error (.beyond limit) ∧ ∀ n, ofLine line n = .error (.beyond limit)) ∨
      SpansUnreadable line ∧ ∃ spans, ∀ n, ofLine line n = .error (.spansNotIterable spans) := by
  cases hj : Json.read line with
  | error fault =>
    right
    by_cases hf : ∃ limit, fault = .beyond limit
    · obtain ⟨limit, rfl⟩ := hf
      exact Or.inr (Or.inl ⟨limit, rfl, fun n => by simp only [ofLine, hj]⟩)
    · exact Or.inl ⟨.notJson fault, fun n => ofLine_of_read_error hj fun limit h => hf ⟨limit, h⟩⟩
  | ok event =>
    have ho (n : Int) : ofLine line n = ofEvent event n line := by simp only [ofLine, hj]
    rcases ofEvent_cases event with ⟨members, fields, level, hd⟩ | ⟨reason, -, hr⟩
    · cases hs : spansOf (spansIn members) with
      | ok spans => exact Or.inl fun n => ⟨_, by rw [ho, hd.ofEvent_eq, hs]; rfl⟩
      | error fault =>
        obtain ⟨hu, rfl⟩ := spansOf_eq_error.mp hs
        refine Or.inr (Or.inr (Or.inr ⟨⟨event, members, fields, level, hj, hd, hu⟩, spansIn members, fun n => ?_⟩))
        rw [ho, hd.ofEvent_eq, hs]
        rfl
    · exact Or.inr (Or.inl ⟨reason, fun n => by rw [ho, hr]⟩)

theorem ofLine_of_beyond {line : Text} {limit : Json.Limit} (h : Json.read line = .error (.beyond limit)) (n : Int) :
    ofLine line n = .error (.beyond limit) := by
  simp only [ofLine, h]

/-- A line with unreadable spans is within the limits of the reader. -/
theorem SpansUnreadable.not_beyond {line : Text} (h : SpansUnreadable line) (limit : Json.Limit) :
    Json.read line ≠ .error (.beyond limit) := by
  obtain ⟨event, -, -, -, hj, -⟩ := h
  rw [hj]
  intro hb
  cases hb

theorem SpansUnreadable.ofLine_eq {line : Text} (h : SpansUnreadable line) (n : Int) :
    ∃ spans, ofLine line n = .error (.spansNotIterable spans) := by
  obtain ⟨event, members, fields, level, hj, hd, hs⟩ := h
  refine ⟨spansIn members, ?_⟩
  have ho : ofLine line n = ofEvent event n line := by simp only [ofLine, hj]
  rw [ho, hd.ofEvent_eq, spansOf_eq_error.mpr ⟨hs, rfl⟩]
  rfl

/-- **The fault of a line names the line unless the reader gives up on it or its spans are unreadable.** -/
theorem ofLine_eq_error {line : Text} {n : Int} {fault : Fault} (h : ofLine line n = .error fault) :
    ((∃ reason, fault = .malformed reason (some ⟨n, line⟩)) ∧ (∀ limit, Json.read line ≠ .error (.beyond limit)) ∧
        ¬SpansUnreadable line) ∨
      (∃ limit, fault = .beyond limit ∧ Json.read line = .error (.beyond limit)) ∨
      (∃ spans, fault = .spansNotIterable spans) ∧ SpansUnreadable line := by
  rcases ofLine_cases line with hr | ⟨reason, hr⟩ | ⟨limit, hl, hr⟩ | ⟨hu, spans, hr⟩
  · obtain ⟨record, hr⟩ := hr n
    rw [h] at hr
    cases hr
  · have hf := hr n
    rw [h] at hf
    refine Or.inl ⟨⟨reason, Except.error.inj hf⟩, fun limit hl => ?_, fun hu => ?_⟩
    · have ho := ofLine_of_beyond hl n
      rw [hr n] at ho
      cases ho
    · obtain ⟨spans, ho⟩ := hu.ofLine_eq n
      rw [hr n] at ho
      cases ho
  · have hf := hr n
    rw [h] at hf
    exact Or.inr (Or.inl ⟨limit, Except.error.inj hf, hl⟩)
  · have hf := hr n
    rw [h] at hf
    exact Or.inr (Or.inr ⟨⟨spans, Except.error.inj hf⟩, hu⟩)

/-- A line that is a record under one number is one under every number. -/
theorem ofLine_isOk_any {line : Text} {n : Int} {record : Record} (h : ofLine line n = .ok record) (m : Int) :
    ∃ record, ofLine line m = .ok record := by
  rcases ofLine_cases line with hr | ⟨_, hr⟩ | ⟨_, -, hr⟩ | ⟨-, _, hr⟩
  · exact hr m
  all_goals
    rw [hr n] at h
    cases h

/-- A line that is a record is JSON. -/
theorem read_of_ofLine {line : Text} {n : Int} {record : Record} (h : ofLine line n = .ok record) :
    ∃ event, Json.read line = .ok event := by
  unfold ofLine at h
  split at h
  next event he => exact ⟨event, he⟩
  all_goals cases h

end LiquidationDrill.Log.Record
