import LiquidationDrill.Log.RecordSet
import LiquidationDrill.Proofs.Log.Places
import LiquidationDrill.Proofs.Log.Sameness

/-!
# Sets of the records of a log

Records with different numbers are all added to a set, unless one of them has no key (`RecordSet.ofList_eq_mapM`). The
records of a log have different numbers, so their set has all of them as its members, or its making ends at the first
one whose target or timestamp is an array or an object (`records_collected`).
-/

namespace LiquidationDrill.Log

/-- A record with its key. -/
def Record.keyed (record : Record) : Except Value.Unhashable (Record.Key × Record) := record.key.map (·, record)

/-- It has one if it has a key. -/
theorem Record.exists_keyed_iff {record : Record} : (∃ entry, record.keyed = .ok entry) ↔ record.Unnested := by
  rw [← exists_key_iff]
  constructor
  · rintro ⟨entry, h⟩
    obtain ⟨key, hk, -⟩ := Result.map_eq_ok.mp h
    exact ⟨key, hk⟩
  · rintro ⟨key, hk⟩
    exact ⟨_, Result.map_eq_ok.mpr ⟨key, hk, rfl⟩⟩

/-- It has none for the reason that it has no key. -/
theorem Record.keyed_eq_error {record : Record} {fault : Value.Unhashable} :
    record.keyed = .error fault ↔ record.key = .error fault := Result.map_eq_error

/-- The number of a record is part of its key. -/
theorem Record.key_lineNumber {record : Record} {key : Record.Key} (h : record.key = .ok key) :
    key.lineNumber = record.lineNumber := by
  obtain ⟨_, -, h⟩ := Result.bind_eq_ok.mp h
  obtain ⟨_, -, h⟩ := Result.bind_eq_ok.mp h
  cases h
  rfl

namespace RecordSet

variable {set : RecordSet} {rs : List Record}

/-- None of the members has the number. -/
def Lacks (set : RecordSet) (lineNumber : Int) : Prop := ∀ entry ∈ set, entry.1.lineNumber ≠ lineNumber

/-- A record with a new number is added with its key. -/
theorem add_of_lacks {record : Record} (h : set.Lacks record.lineNumber) :
    set.add record = record.keyed.map fun entry => set ++ [entry] := by
  cases hk : record.key with
  | error fault =>
    rw [add_of_unhashable hk, Record.keyed, hk]
    rfl
  | ok key =>
    have hnew : ¬set.contains key record = true := by
      intro hc
      obtain ⟨entry, he, hsame⟩ := List.any_eq_true.mp hc
      rw [Bool.and_eq_true, decide_eq_true_eq] at hsame
      exact h entry he (hsame.1 ▸ Record.key_lineNumber hk)
    rw [add_of_key hk, if_neg hnew, Record.keyed, hk]
    rfl

/-- After it the set lacks the numbers that it lacked, apart from the new one. -/
theorem Lacks.concat {record : Record} {entry : Record.Key × Record} {n : Int} (h : set.Lacks n)
    (he : record.keyed = .ok entry) (hn : record.lineNumber ≠ n) : Lacks (set ++ [entry]) n := by
  obtain ⟨key, hk, rfl⟩ := Result.map_eq_ok.mp he
  intro other ho
  rcases List.mem_append.mp ho with ho | ho
  · exact h other ho
  · rw [List.mem_singleton.mp ho]
    exact Record.key_lineNumber hk ▸ hn

/-- Records with different numbers, all of them new, are added one after the other. -/
theorem foldlM_add (hset : ∀ record ∈ rs, set.Lacks record.lineNumber)
    (hrs : rs.Pairwise (·.lineNumber ≠ ·.lineNumber)) :
    rs.foldlM add set = (rs.mapM Record.keyed).map (set ++ ·) := by
  induction rs generalizing set with
  | nil =>
    rw [List.mapM_nil]
    exact congrArg Except.ok (List.append_nil set).symm
  | cons record rs ih =>
    obtain ⟨hnew, hset⟩ := List.forall_mem_cons.mp hset
    obtain ⟨hrecord, hrs⟩ := List.pairwise_cons.mp hrs
    rw [List.foldlM_cons, List.mapM_cons, add_of_lacks hnew]
    cases hk : record.keyed with
    | error fault => rfl
    | ok entry =>
      have hrest : rs.foldlM add (set ++ [entry]) = (rs.mapM Record.keyed).map (set ++ [entry] ++ ·) :=
        ih (fun other ho => (hset other ho).concat hk (hrecord other ho)) hrs
      show rs.foldlM add (set ++ [entry]) = _
      rw [hrest]
      cases rs.mapM Record.keyed with
      | error fault => rfl
      | ok entries => exact congrArg Except.ok (List.append_assoc set [entry] entries)

/-- **The set of records with different numbers is all of them with their keys.** -/
theorem ofList_eq_mapM (hrs : rs.Pairwise (·.lineNumber ≠ ·.lineNumber)) : ofList rs = rs.mapM Record.keyed := by
  rw [ofList, foldlM_add (fun _ _ _ he => absurd he List.not_mem_nil) hrs]
  cases rs.mapM Record.keyed <;> rfl

/-- Records that all have keys are the members of the set. -/
theorem map_snd_of_mapM (h : rs.mapM Record.keyed = .ok set) : set.map Prod.snd = rs := by
  rw [Result.mapM_eq_ok] at h
  induction rs generalizing set with
  | nil => rw [List.map_eq_nil_iff.mp h.symm, List.map_nil]
  | cons record rs ih =>
    cases set with
    | nil => cases h
    | cons entry set =>
      obtain ⟨he, hrest⟩ := List.cons.inj h
      obtain ⟨key, -, rfl⟩ := Result.map_eq_ok.mp he
      rw [List.map_cons, ih hrest]

theorem mapM_keyed_isOk : (∃ set, rs.mapM Record.keyed = .ok set) ↔ ∀ record ∈ rs, record.Unnested := by
  constructor
  · rintro ⟨set, h⟩ record hr
    have hm := List.mem_map_of_mem (f := Record.keyed) hr
    rw [Result.mapM_eq_ok.mp h] at hm
    obtain ⟨entry, -, he⟩ := List.mem_map.mp hm
    exact Record.exists_keyed_iff.mp ⟨entry, he.symm⟩
  · intro h
    obtain ⟨set, hs⟩ := Result.exists_map_eq_ok fun record hr => Record.exists_keyed_iff.mpr (h record hr)
    exact ⟨set, Result.mapM_eq_ok.mpr hs⟩

end RecordSet

/-! ## Records of a log -/

/-- The records of a log have different numbers. -/
theorem lineNumbers_ne {log : Text} {rs : List Record} (h : records log = .ok rs) :
    rs.Pairwise (·.lineNumber ≠ ·.lineNumber) := by
  rw [records_eq, recordsFrom_eq_ok] at h
  exact h.rising.imp Int.ne_of_lt

/-- **The records of a log are members of a set, each one of them, iff all of them have keys**: a record has one iff its
target and its timestamp are neither arrays nor objects. Otherwise the first record without a key is blamed. -/
theorem records_collected {log : Text} {rs : List Record} (h : records log = .ok rs) :
    (∀ record ∈ rs, (∃ key, record.key = .ok key) ↔ record.Unnested) ∧
    ((∃ set, RecordSet.ofList rs = .ok set) ↔ ∀ record ∈ rs, record.Unnested) ∧
    (∀ set, RecordSet.ofList rs = .ok set → set.map Prod.snd = rs ∧ set.length = rs.length) ∧
    (∀ fault, RecordSet.ofList rs = .error fault ↔ ∃ before record after, rs = before ++ record :: after ∧
      (∀ earlier ∈ before, earlier.Unnested) ∧ record.key = .error fault) := by
  rw [RecordSet.ofList_eq_mapM (lineNumbers_ne h)]
  refine ⟨fun _ _ => Record.exists_key_iff, RecordSet.mapM_keyed_isOk, fun set hs => ?_, fun fault => ?_⟩
  · have hmembers := RecordSet.map_snd_of_mapM hs
    exact ⟨hmembers, by rw [← hmembers, List.length_map]⟩
  · simp only [Result.mapM_eq_error, Record.exists_keyed_iff, Record.keyed_eq_error]

/-- One event twice. -/
def repeated : Text := "\x7b\"level\":\"INFO\",\"fields\":\x7b\x7d,\"target\":\"liq\"\x7d\n" ++
  "\x7b\"level\":\"INFO\",\"fields\":\x7b\x7d,\"target\":\"liq\"\x7d\n"

/-- It is two members of a set. -/
theorem repeated_collected : ∃ rs set, records repeated = .ok rs ∧ RecordSet.ofList rs = .ok set ∧ set.length = 2 := by
  obtain ⟨rs, h⟩ := Result.isOk_iff.mp (show (records repeated).isOk = true by decide +kernel)
  have hkeys : (records repeated).toOption.map (·.map fun record => record.key.isOk) = some [true, true] := by
    decide +kernel
  rw [h] at hkeys
  obtain ⟨a, rest, rfl, ha, hrest⟩ := List.map_eq_cons_iff.mp (Option.some.inj hkeys)
  obtain ⟨b, rfl, hb⟩ := List.map_eq_singleton_iff.mp hrest
  have hall : ∀ record ∈ [a, b], record.Unnested := by
    rw [List.forall_mem_cons, List.forall_mem_singleton]
    exact ⟨Record.exists_key_iff.mp (Result.isOk_iff.mp ha), Record.exists_key_iff.mp (Result.isOk_iff.mp hb)⟩
  obtain ⟨-, hset, hmembers, -⟩ := records_collected h
  obtain ⟨set, hs⟩ := hset.mpr hall
  exact ⟨[a, b], set, h, hs, (hmembers set hs).2⟩

/-- An event with an array for a target. -/
def listed : Text := "\x7b\"level\":\"INFO\",\"fields\":\x7b\x7d,\"target\":[]\x7d"

/-- It is a record that no set can have as a member. -/
theorem listed_unhashable : ∃ record, records listed = .ok [record] ∧ record.key = .error ⟨.array []⟩ ∧
    RecordSet.ofList [record] = .error ⟨.array []⟩ ∧
      (Value.Unhashable.mk (.array [])).message = "unhashable type: 'list'" := by
  obtain ⟨rs, h⟩ := Result.isOk_iff.mp (show (records listed).isOk = true by decide +kernel)
  have htargets : (records listed).toOption.map (·.map Record.target) = some [.array []] := by decide +kernel
  rw [h] at htargets
  obtain ⟨record, rfl, ht⟩ := List.map_eq_singleton_iff.mp (Option.some.inj htargets)
  have hkey : record.key = .error ⟨.array []⟩ := by
    rw [Record.key, ht]
    rfl
  refine ⟨record, h, hkey, ?_, rfl⟩
  rw [RecordSet.ofList, List.foldlM, RecordSet.add_of_unhashable hkey]
  rfl

end LiquidationDrill.Log
