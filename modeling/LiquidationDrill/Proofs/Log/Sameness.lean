import LiquidationDrill.Proofs.Json.Taken
import LiquidationDrill.Proofs.Log.Decoded
import LiquidationDrill.Proofs.Value.Alike

/-!
# Records that are the same

Two records that were read are the same iff they have the same level and number and all else that they hold is alike
(`Record.same_iff_alike`): the lines that they were read from do not count, and lines that spell events which are alike
give records that are (`Record.Holds.alike`). A record is told apart by its key, if it has one (`Record.key_cases`);
records that are the same have the same key (`Record.key_eq_of_same`).
-/

namespace LiquidationDrill.Log.Record

open Value (Alike Compound Unambiguous Worth)

variable {a b : Record}

/-! ## What records hold -/

/-- No object in the record has a name twice. -/
structure IsUnambiguous (record : Record) : Prop where
  fields : Unambiguous (.object record.fields)
  target : Unambiguous record.target
  timestamp : Unambiguous record.timestamp
  spans : Unambiguous (.array (record.spans.map .object))

/-- The records have the same level and number, and what else they hold is alike. -/
structure AreAlike (a b : Record) : Prop where
  level : a.level = b.level
  lineNumber : a.lineNumber = b.lineNumber
  fields : Alike (.object a.fields) (.object b.fields)
  target : Alike a.target b.target
  timestamp : Alike a.timestamp b.timestamp
  spans : Alike (.array (a.spans.map .object)) (.array (b.spans.map .object))

/-- Records are the same if all that they hold is. -/
theorem same_eq_true : a.same b = true ↔ a.level = b.level ∧ a.lineNumber = b.lineNumber ∧
    (Value.object a.fields).same (.object b.fields) = true ∧ a.target.same b.target = true ∧
    a.timestamp.same b.timestamp = true ∧
    (Value.array (a.spans.map .object)).same (.array (b.spans.map .object)) = true := by
  simp only [same, Value.same, Bool.and_eq_true, decide_eq_true_eq]
  tauto

/-- **Records without repeated names are the same iff they are alike.** -/
theorem same_iff_alike (ha : a.IsUnambiguous) (hb : b.IsUnambiguous) : a.same b = true ↔ a.AreAlike b := by
  rw [same_eq_true, Value.same_iff_alike ha.fields hb.fields, Value.same_iff_alike ha.target hb.target,
    Value.same_iff_alike ha.timestamp hb.timestamp, Value.same_iff_alike ha.spans hb.spans]
  constructor
  · exact fun ⟨hl, hn, hf, ht, hs, hp⟩ => ⟨hl, hn, hf, ht, hs, hp⟩
  · exact fun ⟨hl, hn, hf, ht, hs, hp⟩ => ⟨hl, hn, hf, ht, hs, hp⟩

namespace AreAlike

theorem refl (h : a.IsUnambiguous) : a.AreAlike a where
  level := rfl
  lineNumber := rfl
  fields := .refl h.fields
  target := .refl h.target
  timestamp := .refl h.timestamp
  spans := .refl h.spans

theorem symm (h : a.AreAlike b) : b.AreAlike a where
  level := h.level.symm
  lineNumber := h.lineNumber.symm
  fields := h.fields.symm
  target := h.target.symm
  timestamp := h.timestamp.symm
  spans := h.spans.symm

theorem trans {c : Record} (hab : a.AreAlike b) (hbc : b.AreAlike c) : a.AreAlike c where
  level := hab.level.trans hbc.level
  lineNumber := hab.lineNumber.trans hbc.lineNumber
  fields := hab.fields.trans hbc.fields
  target := hab.target.trans hbc.target
  timestamp := hab.timestamp.trans hbc.timestamp
  spans := hab.spans.trans hbc.spans

end AreAlike

/-! ## What lines give -/

/-- A record holds what the object on its line says. -/
theorem holds_of_ofLine {line : Text} {n : Int} {record : Record} (h : ofLine line n = .ok record) :
    ∃ members, Json.read line = .ok (.object members) ∧ Holds members record ∧ record.lineNumber = n := by
  obtain ⟨event, he⟩ := read_of_ofLine h
  rw [ofLine_of_read he] at h
  rcases ofEvent_cases event with ⟨members, fields, level, hd⟩ | ⟨reason, -, hr⟩
  · obtain ⟨rfl, ⟨value, hv, hl⟩, hf⟩ := hd.isEvent
    have hb (bs : List UInt8) : members.get? "spans" ≠ some (.bytes bs) := fun hs => by
      obtain ⟨body, hbody⟩ := (Json.read_sound he).of_mem (Value.Members.mem_of_get? hs)
      exact hbody.ne_bytes bs rfl
    rw [hd.ofEvent_eq] at h
    obtain ⟨spans, hs, rfl⟩ := Result.map_eq_ok.mp h
    exact ⟨members, he, ⟨⟨value, hv, hl⟩, hf, rfl, rfl, ((spansOf_eq_ok hb).mp hs).2⟩, rfl⟩
  · rw [hr] at h
    cases h

/-- The spans of an event without repeated names have none. -/
theorem unambiguous_objectsIn {spans : Option Value} (h : ∀ x, spans = some x → x.Unambiguous) :
    Unambiguous (.array ((objectsIn spans).map .object)) := by
  refine .array fun x hx => ?_
  obtain ⟨members, hm, rfl⟩ := List.mem_map.mp hx
  unfold objectsIn at hm
  split at hm
  case h_1 items =>
    obtain ⟨item, hitem, hi⟩ := List.mem_filterMap.mp hm
    obtain rfl := members?_eq_some.mp hi
    cases h _ rfl with
    | array hitems => exact hitems _ hitem
  case h_2 => cases hm

/-- A record of an event without repeated names has none. -/
theorem Holds.isUnambiguous {members : Value.Members} (h : Holds members a) (hm : Unambiguous (.object members)) :
    a.IsUnambiguous where
  fields := hm.of_get? h.fields
  target := h.target ▸ hm.getD "target"
  timestamp := h.timestamp ▸ hm.getD "timestamp"
  spans := by
    rw [h.spans]
    exact unambiguous_objectsIn fun x hx => hm.of_get? hx

/-- Spans that are alike hold objects that are. -/
theorem alike_objectsIn {xs ys : Option Value} (h : Option.Rel Alike xs ys) :
    Alike (.array ((objectsIn xs).map .object)) (.array ((objectsIn ys).map .object)) := by
  have hnil : Alike (.array []) (.array []) := Value.alike_array.mpr ⟨[], rfl, .nil⟩
  have hnumber {x : Value} {q : Rat} (hx : Worth x q) : objectsIn (some x) = [] := by cases hx <;> rfl
  cases h with
  | none => exact hnil
  | some h =>
    cases h with
    | array hlength hitems =>
      obtain ⟨_, he, hforall⟩ := Value.alike_array.mp (.array hlength hitems)
      cases he
      refine Value.alike_array.mpr ⟨_, rfl, ?_⟩
      rw [List.forall₂_map_left_iff, List.forall₂_map_right_iff]
      exact List.rel_filterMap (R := Alike) (fun _ _ => Alike.members?) hforall
    | plain hx => cases hx <;> exact hnil
    | number hx hy =>
      rw [hnumber hx, hnumber hy]
      exact hnil
    | object => exact hnil

/-- **Events that are alike give records that are**, under the same number. -/
theorem Holds.alike {xs ys : Value.Members} (ha : Holds xs a) (hb : Holds ys b) (hn : a.lineNumber = b.lineNumber)
    (h : Alike (.object xs) (.object ys)) : a.AreAlike b where
  level := by
    obtain ⟨value, hv, name, rfl, hl⟩ := ha.level
    obtain ⟨value', hv', name', rfl, hl'⟩ := hb.level
    have hlevels := h.get? "level"
    rw [hv, hv'] at hlevels
    cases hlevels with
    | some h =>
      cases (Value.alike_plain (.string name)).mp h
      exact Option.some.inj ((Level.ofName?_eq_some.mpr hl).symm.trans (Level.ofName?_eq_some.mpr hl'))
  lineNumber := hn
  fields := by
    have hfields := h.get? "fields"
    rw [ha.fields, hb.fields] at hfields
    cases hfields with
    | some h => exact h
  target := by
    rw [ha.target, hb.target]
    exact h.getD "target"
  timestamp := by
    rw [ha.timestamp, hb.timestamp]
    exact h.getD "timestamp"
  spans := by
    rw [ha.spans, hb.spans]
    exact alike_objectsIn (h.get? "spans")

/-! ## Keys -/

/-- The target and the timestamp are neither arrays nor objects. -/
structure Unnested (record : Record) : Prop where
  target : ¬record.target.Compound
  timestamp : ¬record.timestamp.Compound

/-- **A record has a key, or its target or its timestamp is an array or an object** and is blamed for it. -/
theorem key_cases (record : Record) : (record.Unnested ∧ ∃ key, record.key = .ok key) ∨
    ¬record.Unnested ∧ ∃ value, (value = record.target ∨ value = record.timestamp) ∧ value.Compound ∧
      record.key = .error ⟨value⟩ := by
  unfold key
  rcases record.target.key_cases with ⟨ht, target, he⟩ | ⟨ht, he⟩
  · rcases record.timestamp.key_cases with ⟨hs, timestamp, he'⟩ | ⟨hs, he'⟩
    · rw [he, he']
      exact .inl ⟨⟨ht, hs⟩, _, rfl⟩
    · rw [he, he']
      exact .inr ⟨fun h => h.timestamp hs, _, .inr rfl, hs, rfl⟩
  · rw [he]
    exact .inr ⟨fun h => h.target ht, _, .inl rfl, ht, rfl⟩

theorem exists_key_iff {record : Record} : (∃ key, record.key = .ok key) ↔ record.Unnested := by
  rcases record.key_cases with ⟨h, hkey⟩ | ⟨h, value, -, -, he⟩
  · exact iff_of_true hkey h
  · refine iff_of_false ?_ h
    rintro ⟨key, hk⟩
    rw [he] at hk
    cases hk

/-- **Records that are the same have the same key.** -/
theorem key_eq_of_same {k l : Key} (hk : a.key = .ok k) (hl : b.key = .ok l) (h : a.same b = true) : k = l := by
  obtain ⟨hlevel, hnumber, -, htarget, htimestamp, -⟩ := same_eq_true.mp h
  obtain ⟨t, ht, hk⟩ := Result.bind_eq_ok.mp hk
  obtain ⟨s, hs, hk⟩ := Result.bind_eq_ok.mp hk
  obtain ⟨t', ht', hl⟩ := Result.bind_eq_ok.mp hl
  obtain ⟨s', hs', hl⟩ := Result.bind_eq_ok.mp hl
  cases hk
  cases hl
  rw [hlevel, hnumber, (Value.same_iff_key_eq ht ht').mp htarget, (Value.same_iff_key_eq hs hs').mp htimestamp]

/-- The set of two records with keys has one member if they are the same, and two otherwise. -/
theorem setSize_eq {k l : Key} (hk : a.key = .ok k) (hl : b.key = .ok l) :
    setSize a b = .ok (if a.same b then 1 else 2) := by
  have hsize : setSize a b = .ok (if k = l ∧ a.same b then 1 else 2) := by
    rw [setSize, hk, hl]
    rfl
  simp only [hsize, and_iff_right_of_imp (key_eq_of_same hk hl)]

/-! ## Lines -/

section Lines

variable {c : Record} {r s t : Text} {i j n : Int}

/-- A record that was read has no name twice. -/
theorem isUnambiguous_of_ofLine (ha : ofLine r i = .ok a) : a.IsUnambiguous := by
  obtain ⟨members, hread, hholds, -⟩ := holds_of_ofLine ha
  exact hholds.isUnambiguous (Json.read_sound hread).unambiguous

/-- **Lines that spell the same give records that are the same**, wherever white space stands in them, in whatever order
their members are and however strings and numbers are spelled. -/
theorem areAlike_of_spells (ha : ofLine r i = .ok a) (hb : ofLine s i = .ok b) {x y : Value} (hx : Json.Spells r x)
    (hy : Json.Spells s y) (h : x.Alike y) : a.AreAlike b := by
  obtain ⟨xs, hread, hholds, hnumber⟩ := holds_of_ofLine ha
  obtain ⟨ys, hread', hholds', hnumber'⟩ := holds_of_ofLine hb
  have hx' := (Json.read_iff_spells (by rw [hread]; nofun)).mpr hx
  have hy' := (Json.read_iff_spells (by rw [hread']; nofun)).mpr hy
  rw [hread] at hx'
  rw [hread'] at hy'
  cases hx'
  cases hy'
  exact hholds.alike hholds' (hnumber.trans hnumber'.symm) h

/-- **Records that were read are compared and told apart consistently.** To be the same is reflexive, symmetric and
transitive; the text of a line does not count, nor how the line is spelled, but only what is alike; and records that
have keys are one member of a set iff they are the same, by the same key. -/
theorem compared_consistently (ha : ofLine r i = .ok a) (hb : ofLine s j = .ok b) (hc : ofLine t n = .ok c) :
    a.same a = true ∧ (a.same b = true → b.same a = true) ∧
    (a.same b = true → b.same c = true → a.same c = true) ∧
    (∀ line line' : Text, { a with raw := line }.same { b with raw := line' } = a.same b) ∧
    (∀ x y, Json.Spells r x → Json.Spells s y → x.Alike y → i = j → a.same b = true) ∧
    (a.same b = true ↔ a.AreAlike b) ∧
    (a.Unnested → b.Unnested → ∃ k l, a.key = .ok k ∧ b.key = .ok l ∧ (a.same b = true → k = l) ∧
      a.setSize b = .ok (if a.same b then 1 else 2)) := by
  have hua := isUnambiguous_of_ofLine ha
  have hub := isUnambiguous_of_ofLine hb
  have huc := isUnambiguous_of_ofLine hc
  have hab := same_iff_alike hua hub
  refine ⟨(same_iff_alike hua hua).mpr (.refl hua), fun h => (same_iff_alike hub hua).mpr (hab.mp h).symm,
    fun h h' => ?_, fun _ _ => rfl, ?_, hab, fun hka hkb => ?_⟩
  · exact (same_iff_alike hua huc).mpr ((hab.mp h).trans ((same_iff_alike hub huc).mp h'))
  · rintro x y hx hy h rfl
    exact hab.mpr (areAlike_of_spells ha hb hx hy h)
  · obtain ⟨k, hk⟩ := exists_key_iff.mpr hka
    obtain ⟨l, hl⟩ := exists_key_iff.mpr hkb
    exact ⟨k, l, hk, hl, key_eq_of_same hk hl, setSize_eq hk hl⟩

/-- An event with a number that is none. -/
def shared : Text :=
  "\x7b\"level\":\"INFO\",\"fields\":\x7b\"left\":0,\"share\":NaN,\"sold\":1\x7d,\"target\":\"liq\"\x7d"

/-- The event in another order, with an escape, a negative zero and a truth value. -/
def reordered : Text :=
  " \x7b\"target\":\"\\u006ciq\", \"fields\":\x7b\"sold\":true,\"left\":-0.0,\"share\":NaN\x7d,\"level\":\"info\"\x7d"

/-- The event with fractions. -/
def inFractions : Text :=
  "\x7b\"level\":\"INFO\",\"fields\":\x7b\"left\":0e1,\"share\":NaN,\"sold\":1.0\x7d,\"target\":\"liq\"\x7d"

/-- All three are the same record under one number, and one member of a set. -/
theorem shared_compared : ∃ a b c, ofLine shared 3 = .ok a ∧ ofLine reordered 3 = .ok b ∧
    ofLine inFractions 3 = .ok c ∧ a.same a = true ∧ b.same a = true ∧ a.same c = true ∧ a.AreAlike b ∧
      a.setSize b = .ok 1 := by
  obtain ⟨a, ha⟩ := Result.isOk_iff.mp (show (ofLine shared 3).isOk = true by decide +kernel)
  obtain ⟨b, hb⟩ := Result.isOk_iff.mp (show (ofLine reordered 3).isOk = true by decide +kernel)
  obtain ⟨c, hc⟩ := Result.isOk_iff.mp (show (ofLine inFractions 3).isOk = true by decide +kernel)
  have hab : ((ofLine shared 3).toOption.bind fun a => (ofLine reordered 3).toOption.map fun b =>
      (a.same b, a.key.isOk, b.key.isOk)) = some (true, true, true) := by decide +kernel
  have hbc : ((ofLine reordered 3).toOption.bind fun b => (ofLine inFractions 3).toOption.map fun c => b.same c) =
      some true := by decide +kernel
  rw [ha, hb] at hab
  rw [hb, hc] at hbc
  obtain ⟨hab, hka, hkb⟩ : a.same b = true ∧ a.key.isOk = true ∧ b.key.isOk = true := by
    simpa [Except.toOption] using hab
  obtain ⟨hrefl, hsymm, htrans, -, -, halike, hkeys⟩ := compared_consistently ha hb hc
  obtain ⟨_, _, -, -, -, hset⟩ := hkeys (exists_key_iff.mp (Result.isOk_iff.mp hka))
    (exists_key_iff.mp (Result.isOk_iff.mp hkb))
  rw [if_pos hab] at hset
  exact ⟨a, b, c, ha, hb, hc, hrefl, hsymm hab, htrans hab (Option.some.inj hbc), halike.mp hab, hset⟩

end Lines

end LiquidationDrill.Log.Record
