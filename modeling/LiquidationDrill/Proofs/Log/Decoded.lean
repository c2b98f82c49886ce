import LiquidationDrill.Proofs.Json.Spelled
import LiquidationDrill.Proofs.Log.Line

/-!
# Lines that are decoded

What becomes of a line whose JSON is read: it is a record iff its value is an object with a level, fields and spans that
can be gone through, and then the record tells what the object holds; and where the value is no object, or the level or
the fields are at fault, the line is malformed by the first test that it fails (`Record.ofLine_decoded`).
-/

namespace LiquidationDrill.Log.Record

/-- The object has a level and fields. -/
structure IsEvent (members : Value.Members) : Prop where
  level : ∃ value level, members.get? "level" = some value ∧ NamesLevel value level
  fields : ∃ fields, members.get? "fields" = some (.object fields)

/-- Spans that can be gone through, or none. -/
inductive SpansReadable : Option Value → Prop
  | absent : SpansReadable none
  | falsy {spans : Value} : spans.isTruthy = false → SpansReadable (some spans)
  | string (t : Text) : SpansReadable (some (.string t))
  | array (items : List Value) : SpansReadable (some (.array items))
  | object (members : Value.Members) : SpansReadable (some (.object members))

/-- The objects in an array of spans. -/
def objectsIn : Option Value → List Value.Members
  | some (.array items) => items.filterMap Value.members?
  | _ => []

/-- The record holds what the members of the event say. -/
structure Holds (members : Value.Members) (record : Record) : Prop where
  level : ∃ value, members.get? "level" = some value ∧ NamesLevel value record.level
  fields : members.get? "fields" = some (.object record.fields)
  target : record.target = (members.get? "target").getD .null
  timestamp : record.timestamp = (members.get? "timestamp").getD .null
  spans : record.spans = objectsIn (members.get? "spans")

/-! ## Events -/

/-- An event that fails a test has no level or no fields. -/
theorem Unfit.not_isEvent {event : Value} {reason : Reason} (h : Unfit event reason) :
    ¬∃ members, event = .object members ∧ IsEvent members := by
  rintro ⟨members, rfl, ⟨value, level, hv, hl⟩, fields, hf⟩
  cases h with
  | notObject hno => exact hno members rfl
  | missingLevel hno =>
    rw [hno] at hv
    cases hv
  | unknownLevel hv' hno =>
    rw [hv'] at hv
    cases hv
    exact hno level hl
  | missingFields _ _ hno => exact hno fields hf

/-- An event that describes a record has a level and fields. -/
theorem Describes.isEvent {event : Value} {members fields : Value.Members} {level : Level}
    (h : Describes event members fields level) :
    event = .object members ∧ (∃ value, members.get? "level" = some value ∧ NamesLevel value level) ∧
      members.get? "fields" = some (.object fields) := by
  obtain ⟨value, hv, hl⟩ := Option.bind_eq_some_iff.mp h.level_eq
  obtain ⟨value', hv', hf⟩ := Option.bind_eq_some_iff.mp h.fields_eq
  exact ⟨members?_eq_some.mp h.members_eq, ⟨value, hv, levelOf?_eq_some.mp hl⟩, by rw [hv', members?_eq_some.mp hf]⟩

/-- A truth value or a number is read as no spans iff it is false or zero. -/
theorem spansOf_of_numeric {x : Value} (hx : x.numeric?.isSome = true) {objects : List Value.Members} :
    spansOf x = .ok objects ↔ x.isTruthy = false ∧ objects = [] := by
  have hs : spansOf x = if x.isTruthy && x.numeric?.isSome then .error (.spansNotIterable x) else .ok [] := by
    cases x with
    | array items => cases hx
    | _ => rfl
  rw [hs, hx, Bool.and_true]
  cases x.isTruthy <;> simp [eq_comm]

/-- **Spans are read iff they can be gone through**, and then they are the objects in an array. -/
theorem spansOf_eq_ok {spans : Option Value} (hb : ∀ bs, spans ≠ some (.bytes bs)) {objects : List Value.Members} :
    spansOf (spans.getD .null) = .ok objects ↔ SpansReadable spans ∧ objects = objectsIn spans := by
  have hread {x : Value} (hx : SpansReadable (some x)) (hs : spansOf x = .ok (objectsIn (some x))) :
      spansOf x = .ok objects ↔ SpansReadable (some x) ∧ objects = objectsIn (some x) := by
    rw [hs]
    simp [hx, eq_comm]
  have hnumeric {x : Value} (hx : x.numeric?.isSome = true) (hiff : SpansReadable (some x) ↔ x.isTruthy = false)
      (ho : objectsIn (some x) = []) :
      spansOf x = .ok objects ↔ SpansReadable (some x) ∧ objects = objectsIn (some x) := by
    rw [spansOf_of_numeric hx, hiff, ho]
  rcases spans with _ | x
  · simp [spansOf, Value.isTruthy, SpansReadable.absent, objectsIn, eq_comm]
  · rw [Option.getD_some]
    cases x with
    | null => exact hread (.falsy rfl) rfl
    | string t => exact hread (.string t) (by simp [spansOf, Value.numeric?, Value.number?, objectsIn])
    | bytes bs => exact absurd rfl (hb bs)
    | array items => exact hread (.array items) rfl
    | object members => exact hread (.object members) (by simp [spansOf, Value.numeric?, Value.number?, objectsIn])
    | bool b =>
      refine hnumeric (by cases b <;> rfl) ⟨fun h => ?_, .falsy⟩ rfl
      cases h with
      | falsy h => exact h
    | number n =>
      refine hnumeric rfl ⟨fun h => ?_, .falsy⟩ rfl
      cases h with
      | falsy h => exact h

/-! ## Lines -/

/-- A line that is decoded is judged by its event. -/
theorem ofLine_of_read {line : Text} {event : Value} (h : Json.read line = .ok event) (n : Int) :
    ofLine line n = ofEvent event n line := by
  simp only [ofLine, h]

/-- **A line that is decoded is a record of what its event holds, or is malformed by the first test it fails**, unless
only its spans are at fault. -/
theorem ofLine_decoded {line : Text} {event : Value} (h : Json.read line = .ok event) (n : Int) :
    ((∃ record, ofLine line n = .ok record) ↔
      ∃ members : Value.Members, event = .object members ∧ IsEvent members ∧
        SpansReadable (members.get? "spans")) ∧
    (∀ record, ofLine line n = .ok record →
      ∃ members, event = .object members ∧ Holds members record ∧ record.lineNumber = n ∧ record.raw = line) ∧
    ((¬∃ members, event = .object members ∧ IsEvent members) →
      ∃ reason, Unfit event reason ∧ ofLine line n = .error (.malformed reason (some ⟨n, line⟩))) := by
  rw [ofLine_of_read h]
  rcases ofEvent_cases event with ⟨members, fields, level, hd⟩ | ⟨reason, hu, hr⟩
  · obtain ⟨rfl, ⟨value, hv, hl⟩, hf⟩ := hd.isEvent
    have hevent : IsEvent members := ⟨⟨value, level, hv, hl⟩, fields, hf⟩
    have hb (bs : List UInt8) : members.get? "spans" ≠ some (.bytes bs) := fun hs => by
      obtain ⟨body, hbody⟩ := (Json.read_sound h).of_mem (Value.Members.mem_of_get? hs)
      exact hbody.ne_bytes bs rfl
    rw [hd.ofEvent_eq]
    refine ⟨?_, fun record hrecord => ?_, fun hno => absurd ⟨members, rfl, hevent⟩ hno⟩
    · constructor
      · rintro ⟨record, hrecord⟩
        obtain ⟨spans, hs, -⟩ := Result.map_eq_ok.mp hrecord
        exact ⟨members, rfl, hevent, ((spansOf_eq_ok hb).mp hs).1⟩
      · rintro ⟨_, he, -, hs⟩
        cases he
        exact ⟨_, Result.map_eq_ok.mpr ⟨_, (spansOf_eq_ok hb).mpr ⟨hs, rfl⟩, rfl⟩⟩
    · obtain ⟨spans, hs, rfl⟩ := Result.map_eq_ok.mp hrecord
      exact ⟨members, rfl, ⟨⟨value, hv, hl⟩, hf, rfl, rfl, ((spansOf_eq_ok hb).mp hs).2⟩, rfl, rfl⟩
  · rw [hr]
    refine ⟨⟨?_, ?_⟩, fun _ hrecord => (by cases hrecord), fun _ => ⟨reason, hu, rfl⟩⟩
    · rintro ⟨_, hrecord⟩
      cases hrecord
    · rintro ⟨members, he, hevent, -⟩
      exact absurd ⟨members, he, hevent⟩ hu.not_isEvent

/-- An event in lower case, with a span and a number among its spans. -/
def whispered : Text := "\x7b\"level\":\"info\",\"fields\":\x7b\"a\":1\x7d,\"spans\":[\x7b\"b\":2\x7d,3]\x7d"

/-- What it holds. -/
def whisperedMembers : Value.Members :=
  [("level", .string "info"), ("fields", .object [("a", .int 1)]), ("spans", .array [.object [("b", .int 2)], .int 3])]

/-- It is a record under every number. -/
theorem whispered_decoded :
    Json.read whispered = .ok (.object whisperedMembers) ∧ ∃ record, ofLine whispered 7 = .ok record := by
  have h : Json.read whispered = .ok (.object whisperedMembers) := by decide +kernel
  refine ⟨h, (ofLine_decoded h 7).1.mpr ⟨whisperedMembers, rfl, ⟨⟨_, .info, rfl, "info", rfl, ?_⟩, _, rfl⟩, ?_⟩⟩
  · decide +kernel
  · exact .array _

end LiquidationDrill.Log.Record
