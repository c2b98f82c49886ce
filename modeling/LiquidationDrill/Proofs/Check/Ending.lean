import LiquidationDrill.Proofs.Check.Lines
import LiquidationDrill.Proofs.CommandLine.Scan
import LiquidationDrill.Proofs.Log.Faults
import LiquidationDrill.Proofs.Text.Literal
import LiquidationDrill.Proofs.Value.Showable

/-!
# How checking a log ends

With valid arguments the command reads one file (`settled_eq`). A well-formed log (`WellFormed`) is judged, and the
judgements decide the exit code; only an excluded vault whose id holds a half of a surrogate pair cannot be named in the
report (`isScalar_of_settings`), and crashes the command. Any other file is reported as malformed iff its first rejected line is
to blame (`Blames`): bytes that are no UTF-8, lines on which the reader gives up and lines with unreadable spans crash
the command. `run_ends` puts this together.
-/

namespace LiquidationDrill.Check

open CommandLine Scenario
open Log (Record Fault FirstRejected)
open Text (isScalar_append)

/-! ## The log file among the settings -/

variable {find? : Text → Option Entry}

/-- A count is all that a value of `--count` can set, and its number can be shown. -/
theorem exists_count {value : Text} {setting : Setting} (h : countSetting value = .ok setting) :
    ∃ message expected, setting = .count message expected ∧ (Value.int expected).isShowable = true := by
  unfold countSetting at h
  split at h
  next c message number _ =>
    split at h
    next n hn =>
      cases h
      exact ⟨_, _, rfl, Value.isShowable_int.mpr (Text.toInt?_eq_some.mp hn).length_digits_le⟩
    next => cases h
  next => cases h

/-- What the flags say of values. Only `--count` refuses some. -/
theorem yields_cases {flag : Flag Setting} (hf : flag ∈ (command find?).flags) {setting : Except Refusal Setting}
    (hy : flag.reader.Yields setting) :
    (flag.name = "--count" ∧ ∃ value, setting = countSetting value) ∨
      (flag.name = "--allow-error" ∧ ∃ allowed, setting = .ok (.allow allowed)) ∨
      (flag.name = "--exclude-vault" ∧ ∃ id, setting = .ok (.exclude id)) ∨
      (flag.name = "--final-message" ∧ ∃ message, setting = .ok (.final message)) := by
  simp only [command, List.mem_cons, List.not_mem_nil, or_false] at hf
  rcases hf with rfl | rfl | rfl | rfl
  · exact Or.inl ⟨rfl, hy⟩
  · obtain ⟨message, piece, rfl⟩ := hy
    exact Or.inr (Or.inl ⟨rfl, _, rfl⟩)
  · obtain ⟨id, rfl⟩ := hy
    exact Or.inr (Or.inr (Or.inl ⟨rfl, id, rfl⟩))
  · obtain ⟨message, rfl⟩ := hy
    exact Or.inr (Or.inr (Or.inr ⟨rfl, message, rfl⟩))

/-- No flag sets the log file. -/
theorem ne_logFile_of_flag {flag : Flag Setting} (hf : flag ∈ (command find?).flags) {setting : Setting}
    (hy : flag.reader.Yields (.ok setting)) (bytes : List UInt8) : setting ≠ .logFile bytes := by
  rintro rfl
  rcases yields_cases hf hy with ⟨-, value, h⟩ | ⟨-, allowed, h⟩ | ⟨-, id, h⟩ | ⟨-, message, h⟩
  · obtain ⟨message, expected, he, -⟩ := exists_count h.symm
    cases he
  · cases h
  · cases h
  · cases h

/-- The operand sets the bytes of the file that it names. -/
theorem logFileSetting_eq_ok {name : Text} {setting : Setting} (h : logFileSetting find? name = .ok setting) :
    ∃ bytes, find? name = some (.file bytes) ∧ setting = .logFile bytes := by
  unfold logFileSetting at h
  split at h
  next => cases h
  split at h
  next bytes hf =>
    cases h
    exact ⟨bytes, hf, rfl⟩
  all_goals cases h

/-- **Settings hold one log file**, which one of the arguments names, and it is the one that is judged. -/
theorem settled_eq {arguments : List Text} {settings : List Setting}
    (h : (command find?).settings arguments = .ok settings) :
    ∃ path ∈ arguments, ∃ bytes, find? path = some (.file bytes) ∧
      (∀ other, .logFile other ∈ settings ↔ other = bytes) ∧
      settled settings = report (predicates settings) bytes := by
  obtain ⟨fromFlags, last, rfl, hflags, path, hpath, hlast⟩ := settings_sound rfl h
  obtain ⟨bytes, hfind, rfl⟩ := logFileSetting_eq_ok hlast
  have hne : ∀ other, .logFile other ∉ fromFlags := fun other hm => by
    obtain ⟨flag, hf, hy⟩ := hflags _ hm
    exact ne_logFile_of_flag hf hy other rfl
  refine ⟨path, hpath, bytes, hfind, fun other => ?_, ?_⟩
  · simp [hne other]
  · unfold settled
    dsimp only
    rw [List.findSome?_append, List.findSome?_eq_none_iff.mpr]
    · rfl
    intro setting hm
    cases setting with
    | logFile other => exact absurd hm (hne other)
    | _ => rfl

/-! ## Names -/

/-- What the predicates of settings are about. -/
theorem mem_predicates {settings : List Setting} {predicate : Predicate} (h : predicate ∈ predicates settings) :
    (∃ message expected, .count message expected ∈ settings ∧
        predicate = .count (.string message) (.int expected) .info) ∨
      (∃ allowed, predicate = .noUnexpectedErrors allowed) ∨
      (∃ id, .exclude id ∈ settings ∧ predicate = .vaultExcluded (.string id) (.string liquidation)) ∨
      ∃ message, .final message ∈ settings ∧ predicate = .finalMessage (.string message) := by
  simp only [predicates, List.mem_append, List.mem_singleton, List.mem_filterMap] at h
  rcases h with ((⟨setting, hm, hp⟩ | rfl) | ⟨setting, hm, hp⟩) | ⟨setting, hm, hp⟩
  · split at hp
    next message expected =>
      cases hp
      exact Or.inl ⟨message, expected, hm, rfl⟩
    next => cases hp
  · exact Or.inr (Or.inl ⟨_, rfl⟩)
  · split at hp
    next id =>
      cases hp
      exact Or.inr (Or.inr (Or.inl ⟨id, hm, rfl⟩))
    next => cases hp
  · split at hp
    next message =>
      cases hp
      exact Or.inr (Or.inr (Or.inr ⟨message, hm, rfl⟩))
    next => cases hp

/-- A vault is excluded by a predicate. -/
theorem excluded_mem_predicates {settings : List Setting} {id : Text} (h : .exclude id ∈ settings) :
    .vaultExcluded (.string id) (.string liquidation) ∈ predicates settings :=
  List.mem_append_left _ (List.mem_append_right _ (List.mem_filterMap.mpr ⟨_, h, rfl⟩))

/-- The numbers of the counts that flags set can be shown. -/
theorem isShowable_of_settings {arguments : List Text} {settings : List Setting}
    (h : (command find?).settings arguments = .ok settings) {message : Text} {expected : Int}
    (hm : .count message expected ∈ settings) : (Value.int expected).isShowable = true := by
  obtain ⟨fromFlags, last, rfl, hflags, path, hpath, hlast⟩ := settings_sound rfl h
  obtain ⟨bytes, -, rfl⟩ := logFileSetting_eq_ok hlast
  rcases List.mem_append.mp hm with hm | hm
  · obtain ⟨flag, hf, hy⟩ := hflags _ hm
    rcases yields_cases hf hy with ⟨-, value, hv⟩ | ⟨-, allowed, hv⟩ | ⟨-, id, hv⟩ | ⟨-, message, hv⟩
    · obtain ⟨message, expected, he, hshown⟩ := exists_count hv.symm
      cases he
      exact hshown
    · cases hv
    · cases hv
    · cases hv
  · cases List.mem_singleton.mp hm

/-- Every predicate of settings has a name. -/
theorem all_isNameable {settings : List Setting}
    (h : ∀ message expected, .count message expected ∈ settings → (Value.int expected).isShowable = true) :
    (predicates settings).all Predicate.isNameable = true := by
  rw [List.all_eq_true]
  intro predicate hp
  rcases mem_predicates hp with ⟨message, expected, hm, rfl⟩ | ⟨allowed, rfl⟩ | ⟨id, -, rfl⟩ | ⟨message, -, rfl⟩
  · exact h message expected hm
  · rfl
  · rfl
  · rfl

/-- The names of the predicates can be written if the ids of the excluded vaults can. -/
theorem isScalar_of_settings {settings : List Setting} (h : ∀ id, .exclude id ∈ settings → id.isScalar = true)
    {predicate : Predicate} (hp : predicate ∈ predicates settings) : predicate.name.isScalar = true := by
  refine isScalar_name (fun vaultId message he => ?_) fun message expected level he => ?_
  · rcases mem_predicates hp with ⟨_, _, -, hf⟩ | ⟨_, hf⟩ | ⟨id, hm, hf⟩ | ⟨_, -, hf⟩
    all_goals cases he.symm.trans hf
    rw [Text.isScalar_plainVaultId]
    exact h id hm
  · rcases mem_predicates hp with ⟨_, n, -, hf⟩ | ⟨_, hf⟩ | ⟨_, -, hf⟩ | ⟨_, -, hf⟩
    all_goals cases he.symm.trans hf
    exact ⟨n, rfl⟩

/-! ## Reports -/

section Reports

variable {bytes : List UInt8} {t : Text} (predicates : List Predicate)

/-- A file that is no UTF-8 crashes the command. -/
theorem report_of_undecodable (h : ∀ t, Utf8.decode bytes ≠ .ok t) :
    ∃ malformed, report predicates bytes = .crashed [] (.undecodable malformed) := by
  cases hd : Utf8.decode bytes with
  | ok t => exact absurd hd (h t)
  | error malformed =>
    refine ⟨malformed, ?_⟩
    simp only [report, judgeFile, Text.ofFile, hd]
    rfl

/-- The text of a file has line feeds for all its line ends. -/
theorem ofFile_of_decode (hd : Utf8.decode bytes = .ok t) : Text.ofFile bytes = .ok t.unifyNewlines := by
  rw [Text.ofFile, hd]
  rfl

/-- Its records are judged. -/
theorem judge_of_records {records : List Record} (hr : Log.records t = .ok records) :
    judge predicates t.unifyNewlines = .ok (verdicts predicates records) := by
  rw [judge, Log.records_unifyNewlines, hr]
  rfl

/-- The judgements on the records of a file are told, if all predicates have names. -/
theorem report_of_records {records : List Record} (hn : predicates.all Predicate.isNameable = true)
    (hd : Utf8.decode bytes = .ok t) (hr : Log.records t = .ok records) :
    report predicates bytes = tell (verdicts predicates records) := by
  have hj := judge_of_records predicates hr
  have ho := ofFile_of_decode hd
  simp only [report, judgeFile, ho, evaluate, hj, hn, if_true]

/-- A fault of the log is reported if it is a malformed line, and crashes the command otherwise. -/
theorem report_of_fault {fault : Fault} (hd : Utf8.decode bytes = .ok t) (hr : Log.records t = .error fault) :
    report predicates bytes =
      match fault with
      | .malformed reason place => complain reason place
      | fault => .crashed [] (.log fault) := by
  have hj : judge predicates t.unifyNewlines = .error fault := by
    rw [judge, Log.records_unifyNewlines, hr]
    rfl
  have ho := ofFile_of_decode hd
  cases fault <;> simp only [report, judgeFile, ho, evaluate, hj]

end Reports

/-! ## Well-formed and malformed logs -/

/-- The bytes are UTF-8, and every line that is not blank is a record. -/
def WellFormed (bytes : List UInt8) : Prop :=
  ∃ t : Text, t.isScalar = true ∧ t.utf8 = bytes ∧
    ∀ line ∈ t.lines, line.isBlank = false → ∃ n record, Record.ofLine line n = .ok record

/-- The bytes are UTF-8, and what is wrong with the first rejected line is neither a limit of the reader nor its
spans. -/
def Blames (bytes : List UInt8) (i : Nat) (line : Text) : Prop :=
  ∃ (t : Text) (fault : Fault), t.isScalar = true ∧ t.utf8 = bytes ∧ FirstRejected 1 t.lines i line fault ∧
    (∀ limit, Json.read line ≠ .error (.beyond limit)) ∧ ¬Record.SpansUnreadable line

/-- A malformed log is reported in one line. -/
def ReportsMalformed (exit : Exit) : Prop :=
  exit.code = 2 ∧ exit.uncaught = none ∧ exit.output = [] ∧
    ∃ message : Text, exit.errors = "malformed log: " ++ message ++ "\n" ∧ .ofChar '\n' ∉ message

/-- A UTF-8 file is well-formed iff its text has records. -/
theorem wellFormed_iff {bytes : List UInt8} {t : Text} (hd : Utf8.decode bytes = .ok t) :
    WellFormed bytes ↔ ∃ records, Log.records t = .ok records := by
  rw [Log.records_eq, Log.recordsFrom_isOk]
  constructor
  · rintro ⟨t', hs, rfl, h⟩ i line hl
    have ht : t' = t := Except.ok.inj ((Utf8.decode_eq_ok.mpr ⟨hs, rfl⟩).symm.trans hd)
    subst ht
    cases hb : line.isBlank with
    | true => exact Or.inl hb
    | false =>
      obtain ⟨n, record, hr⟩ := h line (List.mem_of_getElem? hl) hb
      exact Or.inr (Record.ofLine_isOk_any hr _)
  · intro h
    obtain ⟨hs, hu⟩ := Utf8.decode_eq_ok.mp hd
    refine ⟨t, hs, hu, fun line hl hb => ?_⟩
    obtain ⟨i, hi⟩ := List.mem_iff_getElem?.mp hl
    obtain ⟨record, hr⟩ := (Log.accepted_iff hb).mp (h i line hi)
    exact ⟨_, record, hr⟩

/-- The report of a malformed line is one line. -/
theorem complain_reportsMalformed (reason : Log.Reason) (place : Option Log.Place) :
    ReportsMalformed (complain reason place) := by
  have hp := Log.malformed_message_printable reason place
  have hstart : Text.Printable "malformed log: " := by decide
  have hline := Text.printable_append.mpr ⟨hstart, hp⟩
  refine ⟨rfl, rfl, rfl, (Fault.malformed reason place).message, ?_, hp.not_feed⟩
  show Text.reported _ = _
  rw [hline.shown.plain_line, Text.reported_eq]
  · rfl
  · rw [isScalar_append, hline.isScalar]
    decide

/-- A crash reports nothing. -/
theorem not_reportsMalformed_crashed (crash : Crash) : ¬ReportsMalformed (.crashed [] crash) := by
  rintro ⟨h, -⟩
  cases h

/-- Where a line is to blame the text has the fault of a malformed line. -/
theorem Blames.records_eq {bytes : List UInt8} {t : Text} {i : Nat} {line : Text} (h : Blames bytes i line)
    (hd : Utf8.decode bytes = .ok t) :
    ∃ reason, Log.records t = .error (.malformed reason (some ⟨(i + 1 : Nat), line⟩)) := by
  obtain ⟨t', fault, hs, hu, hf, hb, hsp⟩ := h
  obtain rfl : t' = t := Except.ok.inj ((Utf8.decode_eq_ok.mpr ⟨hs, hu⟩).symm.trans hd)
  have hr : Log.records t' = .error fault := Log.recordsFrom_eq_error.mpr ⟨i, line, hf⟩
  rcases Record.ofLine_eq_error hf.rejected with ⟨⟨reason, rfl⟩, -⟩ | ⟨limit, -, hl⟩ | ⟨-, hu⟩
  · exact ⟨reason, hr⟩
  · exact absurd hl (hb limit)
  · exact absurd hu hsp

/-- A line is to blame for the fault of a malformed line. -/
theorem exists_blames {bytes : List UInt8} {t : Text} {reason : Log.Reason} {place : Option Log.Place}
    (hd : Utf8.decode bytes = .ok t) (hr : Log.records t = .error (.malformed reason place)) :
    ∃ i line, Blames bytes i line := by
  obtain ⟨hs, hu⟩ := Utf8.decode_eq_ok.mp hd
  obtain ⟨i, line, hf⟩ := Log.recordsFrom_eq_error.mp hr
  rcases Record.ofLine_eq_error hf.rejected with ⟨-, hb, hsp⟩ | ⟨limit, hl, -⟩ | ⟨⟨spans, hsp⟩, -⟩
  · exact ⟨i, line, t, _, hs, hu, hf, hb, hsp⟩
  · cases hl
  · cases hsp

/-- Where the fault is no malformed line, no line is to blame. -/
theorem not_blames_of_fault {bytes : List UInt8} {t : Text} {fault : Fault} (hd : Utf8.decode bytes = .ok t)
    (hr : Log.records t = .error fault) (hf : ∀ reason place, fault ≠ .malformed reason place) :
    ¬∃ i line, Blames bytes i line := by
  rintro ⟨i, line, h⟩
  obtain ⟨reason, ho⟩ := h.records_eq hd
  rw [hr] at ho
  exact hf reason _ (Except.error.inj ho)

/-- How the report on a file ends, by what the file holds. -/
theorem report_ends {predicates : List Predicate} (hn : predicates.all Predicate.isNameable = true)
    (bytes : List UInt8) :
    (WellFormed bytes ∧ ∃ t records, Utf8.decode bytes = .ok t ∧ Log.records t = .ok records ∧
        report predicates bytes = tell (verdicts predicates records)) ∨
      (¬WellFormed bytes ∧ (∃ i line, Blames bytes i line) ∧ ReportsMalformed (report predicates bytes)) ∨
      (¬WellFormed bytes ∧ (¬∃ i line, Blames bytes i line) ∧
        ∃ crash, report predicates bytes = .crashed [] crash) := by
  by_cases hd : ∃ t, Utf8.decode bytes = .ok t
  case neg =>
    right
    right
    obtain ⟨malformed, hc⟩ := report_of_undecodable predicates fun t h => hd ⟨t, h⟩
    refine ⟨?_, ?_, _, hc⟩
    · rintro ⟨t, hs, hu, -⟩
      exact hd ⟨t, Utf8.decode_eq_ok.mpr ⟨hs, hu⟩⟩
    · rintro ⟨i, line, t, fault, hs, hu, -⟩
      exact hd ⟨t, Utf8.decode_eq_ok.mpr ⟨hs, hu⟩⟩
  case pos =>
    obtain ⟨t, hd⟩ := hd
    have hwell := wellFormed_iff hd
    cases hr : Log.records t with
    | ok records =>
      left
      exact ⟨hwell.mpr ⟨records, hr⟩, t, records, hd, hr, report_of_records predicates hn hd hr⟩
    | error fault =>
      right
      have hrep := report_of_fault predicates hd hr
      have hnot : ¬WellFormed bytes := fun h => by
        obtain ⟨records, ho⟩ := hwell.mp h
        rw [hr] at ho
        cases ho
      cases fault with
      | malformed reason place =>
        left
        refine ⟨hnot, exists_blames hd hr, ?_⟩
        rw [hrep]
        exact complain_reportsMalformed reason place
      | _ =>
        right
        exact ⟨hnot, not_blames_of_fault hd hr (fun _ _ h => by cases h), _, hrep⟩

/-- **How checking a log ends.** Valid arguments name one file. If it is a well-formed log the command ends with code
0 or 1, as the predicates say, and reports nothing on the error stream; but if the id of an excluded vault holds a half
of a surrogate pair, the report cannot name that vault, and the command crashes. If the file is no well-formed log, the
command reports a malformed log with code 2 iff its first rejected line is to blame, and crashes otherwise. -/
theorem run_ends {find? : Text → Option Entry} {arguments rest : List Text} {name : Text} {settings : List Setting}
    (hc : group.choose arguments = .ok (name, rest)) (hs : (command find?).settings rest = .ok settings) :
    ∃ path ∈ rest, ∃ bytes, find? path = some (.file bytes) ∧ (∀ other, .logFile other ∈ settings ↔ other = bytes) ∧
      (WellFormed bytes → ∃ t records, Utf8.decode bytes = .ok t ∧ Log.records t = .ok records ∧
        ((∀ id, .exclude id ∈ settings → id.isScalar = true) →
          (run find? arguments).uncaught = none ∧ (run find? arguments).errors = [] ∧
          (run find? arguments).code =
            if (verdicts (predicates settings) records).all Verdict.passed then 0 else 1) ∧
        ((∃ id, .exclude id ∈ settings ∧ id.isScalar = false) →
          ∃ output fault, run find? arguments = .crashed output (.unencodable fault))) ∧
      (¬WellFormed bytes →
        (ReportsMalformed (run find? arguments) ↔ ∃ i line, Blames bytes i line) ∧
        ((¬∃ i line, Blames bytes i line) → ∃ crash, run find? arguments = .crashed [] crash)) := by
  obtain ⟨path, hpath, bytes, hfind, hbytes, hsettled⟩ := settled_eq hs
  have hrun : run find? arguments = report (predicates settings) bytes := by
    simp only [run, hc, hs, hsettled]
  have hn : (predicates settings).all Predicate.isNameable = true :=
    all_isNameable fun _ _ hm => isShowable_of_settings hs hm
  refine ⟨path, hpath, bytes, hfind, hbytes, ?_⟩
  rw [hrun]
  rcases report_ends hn bytes with ⟨hw, t, records, hd, hr, h⟩ | ⟨hw, hb, h⟩ | ⟨hw, hb, crash, h⟩
  · refine ⟨fun _ => ⟨t, records, hd, hr, fun hids => ?_, ?_⟩, fun hill => absurd hw hill⟩
    · have hlines := (lines_isScalar hr (Utf8.decode_eq_ok.mp hd).1).mpr fun _ hp => isScalar_of_settings hids hp
      rw [h, tell_of_isScalar hlines]
      exact ⟨rfl, rfl, rfl⟩
    · rintro ⟨id, hm, hid⟩
      rw [h]
      refine tell_crashes ⟨_, List.mem_flatMap.mpr
        ⟨_, List.mem_map_of_mem (excluded_mem_predicates hm), List.mem_cons_self⟩, ?_⟩
      rw [isScalar_headline, isScalar_vaultExcluded, Text.isScalar_plainVaultId, hid]
  · exact ⟨fun h => absurd h hw, fun _ => ⟨⟨fun _ => hb, fun _ => h⟩, fun hx => absurd hb hx⟩⟩
  · refine ⟨fun h => absurd h hw, fun _ => ⟨⟨fun hr => ?_, fun hx => absurd hx hb⟩, fun _ => ⟨crash, h⟩⟩⟩
    rw [h] at hr
    exact absurd hr (not_reportsMalformed_crashed crash)

/-- A folder in which every name leads to a file with these bytes. -/
def holding (bytes : List UInt8) (_ : Text) : Option Entry := some (.file bytes)

/-- A log of one error. -/
def failedOnce : Text := "\x7b\"level\":\"ERROR\",\"fields\":\x7b\x7d\x7d\n"

theorem failedOnce_wellFormed : WellFormed failedOnce.utf8 := by
  refine ⟨failedOnce, by decide, rfl, fun line hl _ => ?_⟩
  have hlines : failedOnce.lines = [failedOnce.dropLast] := by decide +kernel
  rw [hlines] at hl
  obtain rfl := List.mem_singleton.mp hl
  exact ⟨1, Result.isOk_iff.mp (by decide +kernel)⟩

/-- The second half of a surrogate pair, alone. -/
def loneHalf : Text := [.ofNat 0xDCFF]

/-- A line that is no JSON is reported as malformed; an error that is not allowed makes a check fail; and a vault whose id
cannot be written crashes it. -/
theorem gone_ends :
    ReportsMalformed (run (holding (Text.utf8 "gone")) ["check", "log"]) ∧ WellFormed failedOnce.utf8 ∧
      ((run (holding failedOnce.utf8) ["check", "log"]).uncaught = none ∧
        (run (holding failedOnce.utf8) ["check", "log"]).errors = [] ∧
        (run (holding failedOnce.utf8) ["check", "log"]).code = 1) ∧
      ∃ output fault, run (holding failedOnce.utf8) ["check", "log", "--exclude-vault", loneHalf] =
        .crashed output (.unencodable fault) := by
  have hc : group.choose ["check", "log"] = .ok (Text.ofString "check", [Text.ofString "log"]) := by rfl
  refine ⟨?_, failedOnce_wellFormed, ?_, ?_⟩
  · have hd : Utf8.decode (Text.utf8 "gone") = .ok "gone" := by decide +kernel
    obtain ⟨reason, place, hr⟩ : ∃ reason place, Log.records "gone" = .error (.malformed reason place) := ⟨_, _, rfl⟩
    have hblames := exists_blames hd hr
    have hill : ¬WellFormed (Text.utf8 "gone") := by
      rw [wellFormed_iff hd, hr]
      simp
    have hs : (command (holding (Text.utf8 "gone"))).settings ["log"] = .ok [.logFile (Text.utf8 "gone")] := by rfl
    obtain ⟨path, -, bytes, hf, -, -, hmalformed⟩ := run_ends hc hs
    obtain rfl : Text.utf8 "gone" = bytes := Entry.file.inj (Option.some.inj hf)
    exact (hmalformed hill).1.mpr hblames
  · have hs : (command (holding failedOnce.utf8)).settings ["log"] = .ok [.logFile failedOnce.utf8] := by rfl
    obtain ⟨path, -, bytes, hf, -, hverdict, -⟩ := run_ends hc hs
    obtain rfl : failedOnce.utf8 = bytes := Entry.file.inj (Option.some.inj hf)
    obtain ⟨t, records, -, -, hends, -⟩ := hverdict failedOnce_wellFormed
    obtain ⟨huncaught, herrors, -⟩ := hends (by simp)
    exact ⟨huncaught, herrors, by decide +kernel⟩
  · have hc : group.choose ["check", "log", "--exclude-vault", loneHalf] =
        .ok (Text.ofString "check", ["log", "--exclude-vault", loneHalf]) := by rfl
    have hs : (command (holding failedOnce.utf8)).settings ["log", "--exclude-vault", loneHalf] =
        .ok [.exclude loneHalf, .logFile failedOnce.utf8] := by rfl
    obtain ⟨path, -, bytes, hf, -, hverdict, -⟩ := run_ends hc hs
    obtain rfl : failedOnce.utf8 = bytes := Entry.file.inj (Option.some.inj hf)
    obtain ⟨t, records, -, -, -, hcrash⟩ := hverdict failedOnce_wellFormed
    exact hcrash ⟨loneHalf, List.mem_cons_self, by decide⟩

/-- Bytes that are no UTF-8 are no well-formed log, and checking them crashes. -/
theorem undecodable_crashes :
    ¬WellFormed [0xFF, 0xFE] ∧ (run (holding [0xFF, 0xFE]) ["check", "log"]).uncaught.isSome = true ∧
      (run (holding [0xFF, 0xFE]) ["check", "log"]).code = 1 := by
  refine ⟨?_, by decide +kernel, by decide +kernel⟩
  rintro ⟨t, hs, hu, -⟩
  have hd := Utf8.decode_eq_ok.mpr ⟨hs, hu⟩
  have he : (Utf8.decode [0xFF, 0xFE]).isOk = false := by decide
  rw [hd] at he
  cases he

end LiquidationDrill.Check
