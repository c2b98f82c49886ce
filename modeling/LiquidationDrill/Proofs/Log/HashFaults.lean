import LiquidationDrill.Proofs.Log.HashText
import LiquidationDrill.Proofs.Log.Hashes
import LiquidationDrill.Proofs.Log.Line
import LiquidationDrill.Proofs.Log.Places

/-!
# What stops the search for hashes

A record has a hash, has no field for one, or has a field that shows none (`Record.txHash?_isSome`,
`Record.txHash?_eq_none`, `Record.txHash?_eq_error`). The search for the hashes of orders, the informations with a
message, is stopped by the first order that lacks a hash (`Record.LacksHash`); other records never stop it
(`txHashes_eq_error`). The fault names the line of this order unless its field shows no hash (`hash_fault_placed`).
-/

namespace LiquidationDrill.Log

namespace Record

/-! ## Single records -/

/-- The record is an information with the message. -/
def IsOrder (message : Value) (record : Record) : Prop := record.level = .info ∧ record.carries message = true

/-- The field for a hash shows one. -/
def HasHash (record : Record) : Prop :=
  ∃ value, record.fields.get? "tx_hash" = some value ∧ value ≠ .null ∧ ShowsHash value

/-- What is said of an order that lacks a hash. -/
inductive LacksHash (message : Value) (record : Record) : Fault → Prop
  | absent : record.fields.get? "tx_hash" = none →
      LacksHash message record (.malformed (.noHash message) (some ⟨record.lineNumber, record.raw⟩))
  | null : record.fields.get? "tx_hash" = some .null →
      LacksHash message record (.malformed (.noHash message) (some ⟨record.lineNumber, record.raw⟩))
  | unreadable {value : Value} : record.fields.get? "tx_hash" = some value → value ≠ .null → ¬ShowsHash value →
      LacksHash message record (.malformed (.unreadableHash value) none)

variable {message : Value} {record : Record} {fault : Fault}

theorem hasMessage_info : record.hasMessage message (some .info) = true ↔ record.IsOrder message := by
  simp [hasMessage, IsOrder]

theorem field_eq_null : record.field "tx_hash" = .null ↔
    record.fields.get? "tx_hash" = none ∨ record.fields.get? "tx_hash" = some .null := by
  rw [field]
  cases record.fields.get? "tx_hash" <;> simp

/-- A record has no field for a hash, a null one, or one that is searched for a hash. -/
theorem txHash?_cases (record : Record) :
    record.field "tx_hash" = .null ∧ record.txHash? = .ok none ∨
      ∃ value, record.fields.get? "tx_hash" = some value ∧ value ≠ .null ∧
        record.txHash? = (Log.txHash value).map some := by
  by_cases hn : record.field "tx_hash" = .null
  · exact Or.inl ⟨hn, by rw [txHash?, hn]⟩
  · rw [field_eq_null, not_or] at hn
    obtain ⟨value, hf⟩ := Option.ne_none_iff_exists'.mp hn.1
    have hfield : record.field "tx_hash" = value := by rw [field, hf, Option.getD_some]
    have hne : value ≠ .null := fun h => hn.2 (h ▸ hf)
    refine Or.inr ⟨value, hf, hne, ?_⟩
    rw [txHash?, hfield]
    cases value with
    | null => exact absurd rfl hne
    | _ => rfl

/-- Reading the hash of a record fails iff its field shows none. -/
theorem txHash?_eq_error : record.txHash? = .error fault ↔ ∃ value, record.fields.get? "tx_hash" = some value ∧
    value ≠ .null ∧ ¬ShowsHash value ∧ fault = .malformed (.unreadableHash value) none := by
  rcases txHash?_cases record with ⟨hn, ho⟩ | ⟨value, hf, hne, ho⟩
  · rw [ho]
    constructor
    · intro h
      cases h
    · rintro ⟨value, hf, hne, -⟩
      rcases field_eq_null.mp hn with hn | hn <;> simp_all
  · rw [ho, Result.map_eq_error, txHash_eq_error]
    constructor
    · rintro ⟨hs, rfl⟩
      exact ⟨value, hf, hne, hs, rfl⟩
    · rintro ⟨other, hfo, -, hs⟩
      obtain rfl := Option.some.inj (hf.symm.trans hfo)
      exact hs

/-- A record is read without a hash iff its field is missing or null. -/
theorem txHash?_eq_none : record.txHash? = .ok none ↔ record.field "tx_hash" = .null := by
  rcases txHash?_cases record with ⟨hn, ho⟩ | ⟨value, hf, hne, ho⟩
  · exact iff_of_true ho hn
  · refine iff_of_false (fun h => ?_) fun hn => ?_
    · rw [ho, Result.map_eq_ok] at h
      obtain ⟨hash, -, h⟩ := h
      cases h
    · rw [field, hf, Option.getD_some] at hn
      exact hne hn

/-- A hash is read iff the field shows one. -/
theorem txHash?_isSome : (∃ hash, record.txHash? = .ok (some hash)) ↔ record.HasHash := by
  constructor
  · rintro ⟨hash, h⟩
    rcases txHash?_cases record with ⟨-, ho⟩ | ⟨value, hf, hne, ho⟩
    · rw [ho] at h
      cases h
    · rw [ho, Result.map_eq_ok] at h
      obtain ⟨hash, hh, -⟩ := h
      exact ⟨value, hf, hne, txHash_isOk.mp ⟨hash, hh⟩⟩
  · rintro ⟨value, hf, hne, hs⟩
    cases h : record.txHash? with
    | error fault =>
      obtain ⟨other, hfo, -, hns, -⟩ := txHash?_eq_error.mp h
      obtain rfl := Option.some.inj (hf.symm.trans hfo)
      exact absurd hs hns
    | ok shown =>
      cases shown with
      | some hash => exact ⟨hash, rfl⟩
      | none =>
        have hn := txHash?_eq_none.mp h
        rw [field, hf, Option.getD_some] at hn
        exact absurd hn hne

/-- **An order must have a hash, and what it lacks is said.** -/
theorem requireTxHash_eq_error : record.requireTxHash message = .error fault ↔ record.LacksHash message fault := by
  have hrequire : record.requireTxHash message = .error fault ↔ record.txHash? = .error fault ∨
      record.txHash? = .ok none ∧
        fault = .malformed (.noHash message) (some ⟨record.lineNumber, record.raw⟩) := by
    rw [requireTxHash]
    rcases record.txHash? with fault' | _ | hash
    · simp [bind, Except.bind]
    · simp [bind, Except.bind, throw, throwThe, MonadExceptOf.throw, eq_comm]
    · simp [bind, Except.bind, pure, Except.pure]
  rw [hrequire, txHash?_eq_error, txHash?_eq_none, field_eq_null]
  constructor
  · rintro (⟨value, hf, hne, hs, rfl⟩ | ⟨hf | hf, rfl⟩)
    · exact .unreadable hf hne hs
    · exact .absent hf
    · exact .null hf
  · intro h
    cases h with
    | absent hf => exact Or.inr ⟨Or.inl hf, rfl⟩
    | null hf => exact Or.inr ⟨Or.inr hf, rfl⟩
    | unreadable hf hne hs => exact Or.inl ⟨_, hf, hne, hs, rfl⟩

/-- An order gives a hash iff it has one. -/
theorem requireTxHash_isOk : (∃ hash, record.requireTxHash message = .ok hash) ↔ record.HasHash := by
  rw [← txHash?_isSome]
  exact exists_congr fun hash => requireTxHash_eq_ok

theorem LacksHash.not_hasHash (h : record.LacksHash message fault) : ¬record.HasHash := by
  intro hh
  obtain ⟨hash, ho⟩ := requireTxHash_isOk.mpr hh
  rw [requireTxHash_eq_error.mpr h] at ho
  cases ho

end Record

/-! ## Logs -/

section Logs

variable {log : Text} {message : Value}

/-- The first order of some records that lacks a hash, and what is said of it. -/
structure FirstLacking (message : Value) (rs : List Record) (record : Record) (fault : Fault) : Prop where
  split : ∃ before after, rs = before ++ record :: after ∧
    ∀ earlier ∈ before, earlier.IsOrder message → earlier.HasHash
  isOrder : record.IsOrder message
  lacks : record.LacksHash message fault

/-- The orders among some records fail with the first of them that lacks a hash. -/
theorem mapM_requireTxHash_eq_error {rs : List Record} {fault : Fault} :
    (rs.filter (·.hasMessage message (some .info))).mapM (Record.requireTxHash message) = .error fault ↔
      ∃ record, FirstLacking message rs record fault := by
  rw [Result.mapM_eq_error]
  constructor
  · rintro ⟨orders, record, others, hsplit, horders, hlacks⟩
    obtain ⟨before, rest, rfl, rfl, hrest⟩ := List.filter_eq_append_iff.mp hsplit
    obtain ⟨between, after, rfl, hbetween, hm, -⟩ := List.filter_eq_cons_iff.mp hrest
    refine ⟨record, ⟨before ++ between, after, by rw [List.append_assoc], ?_⟩, Record.hasMessage_info.mp hm,
      Record.requireTxHash_eq_error.mp hlacks⟩
    intro earlier he ho
    rw [← Record.hasMessage_info] at ho
    rcases List.mem_append.mp he with he | he
    · exact Record.requireTxHash_isOk.mp (horders earlier (List.mem_filter.mpr ⟨he, ho⟩))
    · exact absurd ho (hbetween earlier he)
  · rintro ⟨record, ⟨before, after, rfl, hbefore⟩, ho, hlacks⟩
    refine ⟨before.filter (·.hasMessage message (some .info)), record,
      after.filter (·.hasMessage message (some .info)), ?_, ?_, Record.requireTxHash_eq_error.mpr hlacks⟩
    · have hm := Record.hasMessage_info.mpr ho
      rw [List.filter_append, List.filter_cons, if_pos hm]
    · intro earlier he
      obtain ⟨he, hm⟩ := List.mem_filter.mp he
      exact Record.requireTxHash_isOk.mpr (hbefore earlier he (Record.hasMessage_info.mp hm))

/-- **The search fails with the log, or with the first order that lacks a hash.** -/
theorem txHashes_eq_error {fault : Fault} : txHashes log message = .error fault ↔
    records log = .error fault ∨ ∃ rs record, records log = .ok rs ∧ FirstLacking message rs record fault := by
  rw [txHashes, withMessage_name, Result.bind_eq_error, Result.map_eq_error]
  refine or_congr_right ⟨?_, ?_⟩
  · rintro ⟨orders, ho, hm⟩
    obtain ⟨rs, hr, rfl⟩ := Result.map_eq_ok.mp ho
    obtain ⟨record, hf⟩ := mapM_requireTxHash_eq_error.mp hm
    exact ⟨rs, record, hr, hf⟩
  · rintro ⟨rs, record, hr, hf⟩
    exact ⟨_, Result.map_eq_ok.mpr ⟨rs, hr, rfl⟩, mapM_requireTxHash_eq_error.mpr ⟨record, hf⟩⟩

/-- An order that lacks a hash is one of the records. -/
theorem FirstLacking.mem {rs : List Record} {record : Record} {fault : Fault}
    (h : FirstLacking message rs record fault) : record ∈ rs := by
  obtain ⟨before, after, rfl, -⟩ := h.split
  exact List.mem_append_right before List.mem_cons_self

/-- Where the log has records, it is an order that the search fails with. -/
theorem exists_lacking {fault : Fault} (hok : (records log).isOk = true) (h : txHashes log message = .error fault) :
    ∃ rs record, records log = .ok rs ∧ FirstLacking message rs record fault := by
  obtain ⟨rs, hr⟩ := Result.isOk_iff.mp hok
  rcases txHashes_eq_error.mp h with he | hlacking
  · rw [hr] at he
    cases he
  · exact hlacking

/-- What lacks is said of a malformed record. -/
theorem Record.LacksHash.exists_eq {record : Record} {fault : Fault} (h : record.LacksHash message fault) :
    ∃ reason place, fault = .malformed reason place := by
  cases h <;> exact ⟨_, _, rfl⟩

/-- A record that lacks a hash although its field can be read has none there. -/
theorem Record.LacksHash.field_eq_null {record : Record} {fault : Fault} (h : record.LacksHash message fault)
    (hread : record.txHash?.isOk = true) : record.field "tx_hash" = .null := by
  cases h with
  | absent hf => exact Record.field_eq_null.mpr (Or.inl hf)
  | null hf => exact Record.field_eq_null.mpr (Or.inr hf)
  | unreadable hf hne hs =>
    rw [Record.txHash?_eq_error.mpr ⟨_, hf, hne, hs, rfl⟩] at hread
    cases hread

/-- What is checked of all records holds of each. -/
theorem forall_of_all {rs : List Record} {p : Record → Bool} (hr : records log = .ok rs)
    (h : ((records log).toOption.getD []).all p = true) : ∀ record ∈ rs, p record = true := by
  rw [hr] at h
  exact List.all_eq_true.mp h

/-- The fault of an order that lacks a hash names its line iff the field is missing or null. -/
theorem Record.LacksHash.place_eq {record : Record} {reason : Reason} {place : Option Place}
    (h : record.LacksHash message (.malformed reason place)) :
    (place = some ⟨record.lineNumber, record.raw⟩ ↔ record.field "tx_hash" = .null) ∧
      (place = none ↔ record.field "tx_hash" ≠ .null) := by
  rw [Ne, Record.field_eq_null]
  cases h with
  | absent hf => simp [hf]
  | null hf => simp [hf]
  | unreadable hf hne _ => simp [hf, hne]

end Logs

/-- **A malformed line or an order that lacks a hash stops the search, and is named unless its field shows no hash.**
The first rejected line is named. If there is none, the first order without a hash is named by its line if its field is
missing or null, and not at all if the field shows no hash. -/
theorem hash_fault_placed (log : Text) (message : Value) (reason : Reason) (place : Option Place)
    (h : txHashes log message = .error (.malformed reason place)) :
    (∃ i line, FirstRejected 1 log.lines i line (.malformed reason place) ∧ place = some ⟨(i + 1 : Nat), line⟩) ∨
      ∃ rs record, records log = .ok rs ∧ FirstLacking message rs record (.malformed reason place) ∧
        (∃ i : Nat, log.lines[i]? = some record.raw ∧ record.lineNumber = (i + 1 : Nat)) ∧
        (place = some ⟨record.lineNumber, record.raw⟩ ↔ record.field "tx_hash" = .null) ∧
        (place = none ↔ record.field "tx_hash" ≠ .null) := by
  rcases txHashes_eq_error.mp h with hr | ⟨rs, record, hr, hf⟩
  · rw [records_eq, recordsFrom_eq_error] at hr
    obtain ⟨i, line, hfirst⟩ := hr
    refine Or.inl ⟨i, line, hfirst, ?_⟩
    rcases Record.ofLine_eq_error hfirst.rejected with ⟨⟨_, hm⟩, -⟩ | ⟨_, hm, -⟩ | ⟨⟨_, hm⟩, -⟩
    · cases hm
      rfl
    · cases hm
    · cases hm
  · obtain ⟨i, hl, hn, -⟩ := exists_line_of_mem hr hf.mem
    exact Or.inr ⟨rs, record, hr, hf, ⟨i, hl, hn⟩, hf.lacks.place_eq⟩

/-- A sale with a hash, and one without a field for it. -/
def soldThenBare : Text :=
  "\x7b\"level\":\"INFO\",\"fields\":\x7b\"message\":\"sold\",\"tx_hash\":\"0xab\"\x7d\x7d\n" ++
    "\x7b\"level\":\"info\",\"fields\":\x7b\"message\":\"sold\"\x7d\x7d"

/-- The second sale stops the search, and is named. -/
theorem soldThenBare_placed : ∃ reason place, txHashes soldThenBare (.string "sold") = .error (.malformed reason place) ∧
    ∃ rs record, records soldThenBare = .ok rs ∧ FirstLacking (.string "sold") rs record (.malformed reason place) ∧
      record.field "tx_hash" = .null ∧ record.lineNumber = 2 ∧ place = some ⟨2, record.raw⟩ := by
  have hok : (records soldThenBare).isOk = true := by decide +kernel
  have hfail : (txHashes soldThenBare (.string "sold")).isOk = false := by decide +kernel
  have hshown : ((records soldThenBare).toOption.getD []).all (fun record =>
      record.txHash?.isOk && (record.field "tx_hash" ≠ .null || record.lineNumber = 2)) = true := by decide +kernel
  obtain ⟨fault, h⟩ := Result.isOk_eq_false.mp hfail
  obtain ⟨_, _, _, hlacking⟩ := exists_lacking hok h
  obtain ⟨reason, place, rfl⟩ := hlacking.lacks.exists_eq
  refine ⟨reason, place, h, ?_⟩
  rcases hash_fault_placed soldThenBare (.string "sold") _ _ h with
    ⟨i, line, hfirst, -⟩ | ⟨rs, record, hr, hf, -, hplace, -⟩
  · have he : records soldThenBare = .error _ := recordsFrom_eq_error.mpr ⟨i, line, hfirst⟩
    rw [he] at hok
    cases hok
  · have hrecord := forall_of_all hr hshown record hf.mem
    simp only [Bool.and_eq_true, Bool.or_eq_true, decide_eq_true_eq] at hrecord
    have hnull : record.field "tx_hash" = .null := hf.lacks.field_eq_null hrecord.1
    have hsecond : record.lineNumber = 2 := hrecord.2.resolve_left fun hne => hne hnull
    exact ⟨rs, record, hr, hf, hnull, hsecond, hsecond ▸ hplace.mpr hnull⟩

/-- A buy order whose field holds no hash. -/
def unhashed : Text :=
  "\x7b\"level\":\"INFO\",\"fields\":\x7b\"message\":\"Submitted buy order\",\"tx_hash\":\"none\"\x7d\x7d"

/-- It stops the search, and is not named. -/
theorem unhashed_not_placed : ∃ rs record reason, records unhashed = .ok rs ∧
    FirstLacking (.string buyOrder) rs record (.malformed reason none) ∧
      txHashes unhashed (.string buyOrder) = .error (.malformed reason none) := by
  have hok : (records unhashed).isOk = true := by decide +kernel
  have hfail : (txHashes unhashed (.string buyOrder)).isOk = false := by decide +kernel
  have hheld : ((records unhashed).toOption.getD []).all (fun record => record.field "tx_hash" ≠ .null) = true := by
    decide +kernel
  obtain ⟨fault, h⟩ := Result.isOk_eq_false.mp hfail
  obtain ⟨rs, record, hr, hf⟩ := exists_lacking hok h
  obtain ⟨reason, place, rfl⟩ := hf.lacks.exists_eq
  have hne : record.field "tx_hash" ≠ .null := of_decide_eq_true (forall_of_all hr hheld record hf.mem)
  obtain rfl := hf.lacks.place_eq.2.mpr hne
  exact ⟨rs, record, reason, hr, hf, h⟩

end LiquidationDrill.Log
