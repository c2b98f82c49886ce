import LiquidationDrill.Proofs.Check.Options
import LiquidationDrill.Proofs.Log.Places
import LiquidationDrill.Proofs.Scenario.Verdict

/-!
# What a check reports

A check writes a headline for each judgement, and after it a line that cites the record of the judgement, if there is
one (`linesOf`). No log can add, split or hide such a line, because names and details are shown on one line and so are
the lines of a log that are records (`raw_shown`). So the output is cut into exactly these lines, the headlines that say
`FAIL` are those of the judgements that a failed scenario names, and the exit code tells whether it failed (`Reports`).
Only the id of an excluded vault may hold a half of a surrogate pair, which cannot be written; then the report ends
before the headline of the first such vault (`BreaksOff`). `run_reports` puts this together for the options that
arguments ask for.
-/

namespace LiquidationDrill.Check

open CommandLine Scenario
open Log (Record)
open Text (Printable Shown framed)

/-! ## Lines about a judgement -/

/-- The judgement can be told in whole lines. -/
structure Tellable (verdict : Verdict) : Prop where
  name : Shown verdict.name
  detail : Printable verdict.detail
  raw : ∀ record, verdict.record = some record → Shown record.raw ∧ .ofChar '\r' ∉ record.raw

namespace Tellable

variable {verdict : Verdict} (h : Tellable verdict)

include h

theorem headline_shown : Shown (headline verdict) := by
  have hmark : Shown (if verdict.passed then ("PASS " : Text) else "FAIL ") := by
    split <;> decide
  have hcolon : Shown ": " := by decide
  simp only [headline, Text.shown_append]
  exact ⟨⟨⟨hmark, h.name⟩, hcolon⟩, h.detail.shown⟩

/-- No carriage return ends the headline: a detail holds none, and before it there is a space. -/
theorem headline_getLast : (headline verdict).getLast? ≠ some (.ofChar '\r') := by
  intro hr
  have hp : Printable ((.ofChar ' ') :: verdict.detail) := Text.printable_cons.mpr ⟨by decide, h.detail⟩
  have hsplit : headline verdict = (if verdict.passed then ("PASS " : Text) else "FAIL ") ++ verdict.name ++ ":" ++
      (.ofChar ' ' :: verdict.detail) := by
    simp only [headline, List.append_assoc]
    rfl
  rw [hsplit, List.getLast?_append_of_ne_nil _ (List.cons_ne_nil _ _)] at hr
  exact absurd (hp _ (List.mem_of_getLast? hr)) (by decide)

theorem citation_shown {record : Record} (hr : verdict.record = some record) :
    Shown (citation record) ∧ .ofChar '\r' ∉ citation record := by
  obtain ⟨hs, hn⟩ := h.raw record hr
  have hp : Printable ("     line " ++ Text.ofInt record.lineNumber ++ ": ") := by
    simp only [Text.printable_append]
    exact ⟨⟨by decide, Text.ofInt_printable _⟩, by decide⟩
  refine ⟨Text.shown_append.mpr ⟨hp.shown, hs⟩, fun hm => ?_⟩
  rcases List.mem_append.mp hm with hm | hm
  · exact absurd (hp _ hm) (by decide)
  · exact hn hm

/-- The lines about the judgement are shown as they are. -/
theorem shown_of_mem {line : Text} (hl : line ∈ linesOf verdict) :
    Shown line ∧ line.getLast? ≠ some (.ofChar '\r') := by
  rcases List.mem_cons.mp hl with rfl | hl
  · exact ⟨h.headline_shown, h.headline_getLast⟩
  · obtain ⟨record, hr, rfl⟩ := List.mem_map.mp hl
    obtain ⟨hs, hn⟩ := h.citation_shown (Option.mem_toList.mp hr)
    exact ⟨hs, fun he => hn (List.mem_of_getLast? he)⟩

/-- They are written as they are, each with a line feed after it. -/
theorem written_eq : written (linesOf verdict) = framed (linesOf verdict) := by
  rw [written, framed]
  exact List.flatMap_congr fun line hl => (h.shown_of_mem hl).1.plain_line

end Tellable

/-- So are those about several judgements. -/
theorem written_flatMap {verdicts : List Verdict} (h : ∀ verdict ∈ verdicts, Tellable verdict) :
    written (verdicts.flatMap linesOf) = framed (verdicts.flatMap linesOf) := by
  rw [written, framed, List.flatMap_assoc, List.flatMap_assoc]
  exact List.flatMap_congr fun verdict hv => (h verdict hv).written_eq

/-! ## Lines about a log -/

/-- **A line that is a record is shown on one line**, and holds no carriage return. -/
theorem raw_shown {t : Text} {records : List Record} (h : Log.records t = .ok records) {record : Record}
    (hm : record ∈ records) : Shown record.raw ∧ .ofChar '\r' ∉ record.raw := by
  obtain ⟨i, hl, -, ho⟩ := Log.exists_line_of_mem h hm
  have hu := (Text.fallsInto_lines t).unbroken record.raw (List.mem_of_getElem? hl)
  obtain ⟨event, he⟩ := Record.read_of_ofLine ho
  refine ⟨fun c hc => ⟨?_, ?_⟩, fun hc => ?_⟩
  · rintro rfl
    exact absurd (hu _ hc) (by decide)
  · rw [← Bool.not_eq_true]
    intro hesc
    -- JSON holds an escape character only in its escaped form
    have hv : c.val = 0x1B := by simpa [CodePoint.isEscape] using hesc
    obtain rfl : c = .ofNat 0x1B := CodePoint.ext hv
    exact absurd (Json.isLegal_of_read he _ hc) (by decide)
  · exact absurd (hu _ hc) (by decide)

/-- What is said of a well-formed log can be told in whole lines, if the vaults that are excluded can. -/
theorem tellable_of_mem {t : Text} {records : List Record} (h : Log.records t = .ok records) {options : Options}
    (hx : ∀ id ∈ options.excluded, Shown id) {verdict : Verdict}
    (hv : verdict ∈ verdicts options.predicates records) : Tellable verdict := by
  obtain ⟨predicate, hp, rfl⟩ := List.mem_map.mp hv
  refine ⟨?_, predicate.verdict_detail_printable records, fun record hr => raw_shown h (Predicate.mem_of_cited hr)⟩
  rw [Predicate.verdict_name]
  refine Predicate.name_shown (fun vaultId message he => ?_) fun message expected level he => ?_
  · obtain ⟨id, hid, rfl⟩ := Options.exists_excluded (he ▸ hp)
    exact (hx id hid).plainVaultId
  · exact Options.exists_number (he ▸ hp)

/-! ## The report -/

/-- Headlines and citations are told apart by how they begin. -/
theorem startsWith_headline (verdict : Verdict) :
    (headline verdict).startsWith "PASS " = verdict.passed ∧
      (headline verdict).startsWith "FAIL " = !verdict.passed := by
  obtain ⟨name, passed, detail, record⟩ := verdict
  cases passed <;> exact ⟨rfl, rfl⟩

theorem startsWith_citation (record : Record) :
    (citation record).startsWith "PASS " = false ∧ (citation record).startsWith "FAIL " = false :=
  ⟨rfl, rfl⟩

/-- The lines that begin in one way are the headlines of the judgements that are told in this way. -/
theorem filter_linesOf {begins : Text → Bool} {told : Verdict → Bool}
    (hh : ∀ verdict, begins (headline verdict) = told verdict)
    (hc : ∀ record, begins (citation record) = false) (verdicts : List Verdict) :
    (verdicts.flatMap linesOf).filter begins = (verdicts.filter told).map headline := by
  induction verdicts with
  | nil => rfl
  | cons verdict verdicts ih =>
    have hcited : (verdict.record.toList.map citation).filter begins = [] := by
      refine List.filter_eq_nil_iff.mpr fun line hl => ?_
      obtain ⟨record, -, rfl⟩ := List.mem_map.mp hl
      rw [hc record]
      exact Bool.false_ne_true
    rw [List.flatMap_cons, List.filter_append, ih, linesOf, List.filter_cons, hcited, hh, List.filter_cons]
    cases told verdict <;> rfl

/-- How a command ends that tells judgements. -/
structure Reports (verdicts : List Verdict) (exit : Exit) : Prop where
  uncaught : exit.uncaught = none
  errors : exit.errors = []
  /-- Code 0 says that the scenario holds. -/
  returns : ∀ scenario, exit.code = 0 ↔ check scenario verdicts = .ok verdicts
  /-- Code 1 says that it fails. -/
  fails : ∀ scenario, exit.code = 1 ↔ ∃ failure, check scenario verdicts = .error failure
  /-- Cut at line feeds, the output is the lines about each judgement. -/
  lines : exit.output.splitOn '\n' = verdicts.flatMap linesOf ++ [[]]
  passLines : (exit.output.splitOn '\n').filter (·.startsWith "PASS ") = (verdicts.filter Verdict.passed).map headline
  /-- The broken predicates are told as the failure names them. -/
  failLines : ∀ scenario,
    (exit.output.splitOn '\n').filter (·.startsWith "FAIL ") = (broken (check scenario verdicts)).map headline
  shownOutput : exit.shownOutput = exit.output

/-- How a command ends that cannot tell one of the judgements: it tells those before it and crashes. -/
def BreaksOff (verdicts : List Verdict) (told : Nat) (exit : Exit) : Prop :=
  ∃ verdict fault, verdicts[told]? = some verdict ∧ (headline verdict).echoed = .error fault ∧
    exit = .crashed (framed ((verdicts.take told).flatMap linesOf)) (.unencodable fault)

/-- **Judgements that can be told in whole lines are reported.** -/
theorem tell_reports {verdicts : List Verdict} (ht : ∀ verdict ∈ verdicts, Tellable verdict)
    (hw : ∀ line ∈ verdicts.flatMap linesOf, line.isScalar = true) : Reports verdicts (tell verdicts) := by
  have hlines : ∀ line ∈ verdicts.flatMap linesOf, Shown line ∧ line.getLast? ≠ some (.ofChar '\r') := by
    intro line hl
    obtain ⟨verdict, hv, hl⟩ := List.mem_flatMap.mp hl
    exact (ht verdict hv).shown_of_mem hl
  rw [tell_of_isScalar hw, written_flatMap ht]
  have hcut : (framed (verdicts.flatMap linesOf)).splitOn '\n' = verdicts.flatMap linesOf ++ [[]] :=
    Text.splitOn_framed fun line hl => (hlines line hl).1.not_feed
  refine
    { uncaught := rfl, errors := rfl, returns := fun scenario => ?_, fails := fun scenario => ?_, lines := hcut,
      passLines := ?_, failLines := fun scenario => ?_, shownOutput := ?_ }
  · rw [check_eq]
    split <;> simp
  · rw [check_eq]
    split <;> simp
  · have hpass : (verdicts.flatMap linesOf).filter (·.startsWith "PASS ") =
        (verdicts.filter Verdict.passed).map headline :=
      filter_linesOf (fun verdict => (startsWith_headline verdict).1) (fun record => (startsWith_citation record).1) _
    rw [hcut, List.filter_append, hpass]
    exact List.append_nil _
  · have hfail : (verdicts.flatMap linesOf).filter (·.startsWith "FAIL ") =
        (verdicts.filter (!·.passed)).map headline :=
      filter_linesOf (fun verdict => (startsWith_headline verdict).2) (fun record => (startsWith_citation record).2) _
    rw [hcut, List.filter_append, hfail, broken_check]
    exact List.append_nil _
  · exact Text.dropPairedReturns_framed fun line hl => ⟨(hlines line hl).1.not_feed, (hlines line hl).2⟩

section BreaksOff

variable {t : Text} {records : List Record}

/-- **A predicate whose name cannot be written ends the report.** -/
theorem tell_breaksOff (hr : Log.records t = .ok records) (ht : t.isScalar = true) {before after : List Predicate}
    {predicate : Predicate} (hbefore : ∀ earlier ∈ before, earlier.name.isScalar = true)
    (hp : predicate.name.isScalar = false) (htold : ∀ verdict ∈ verdicts before records, Tellable verdict) :
    BreaksOff (verdicts (before ++ predicate :: after) records) before.length
      (tell (verdicts (before ++ predicate :: after) records)) := by
  have hlines := (lines_isScalar hr ht).mpr hbefore
  have hsplit : verdicts (before ++ predicate :: after) records =
      verdicts before records ++ predicate.verdict records :: verdicts after records := by
    rw [verdicts, List.map_append, List.map_cons]
    rfl
  have hlength : (verdicts before records).length = before.length := List.length_map _
  obtain ⟨fault, hf⟩ := Text.echoed_eq_error.mpr ((isScalar_headline predicate records).trans hp)
  rw [hsplit]
  refine ⟨predicate.verdict records, fault, ?_, hf, ?_⟩
  · rw [← hlength, List.getElem?_append_right (Nat.le_refl _), Nat.sub_self]
    rfl
  · rw [tell_of_unwritable hlines hf, written_flatMap htold, ← hlength, List.take_left]

variable {options : Options}

/-- The names of the predicates can be written if the ids of the excluded vaults can. -/
theorem Options.isScalar_of_mem (h : ∀ id ∈ options.excluded, id.isScalar = true) {predicate : Predicate}
    (hp : predicate ∈ options.predicates) : predicate.name.isScalar = true := by
  refine isScalar_name (fun vaultId message he => ?_) fun message expected level he => ?_
  · obtain ⟨id, hid, rfl⟩ := Options.exists_excluded (he ▸ hp)
    rw [Text.isScalar_plainVaultId]
    exact h id hid
  · exact Options.exists_number (he ▸ hp)

/-- The predicates before that of an excluded vault are those of the counts, the errors and the vaults before it. -/
theorem Options.predicates_split {before after : List Text} {id : Text} (h : options.excluded = before ++ id :: after) :
    ∃ others, options.predicates = { options with excluded := before, final := none }.predicates ++
      .vaultExcluded (.string id) (.string liquidation) :: others := by
  refine ⟨after.map (fun id => .vaultExcluded id liquidation) ++
    options.final.toList.map fun message => .finalMessage message, ?_⟩
  simp [Options.predicates, h]

end BreaksOff

/-- **The report of a check is the check.** Arguments that ask for options and name a well-formed log let the scenario
of these options be judged on it, one judgement for each predicate, in order. If the ids of the excluded vaults can be
written, the report tells these judgements line by line, and the exit code tells whether the scenario holds. If one of
them holds a half of a surrogate pair, the report breaks off before the first such vault. Vault ids have to be shown on
one line. -/
theorem run_reports {find? : Text → Option Entry} {arguments : List Text} {options : Options} {bytes : List UInt8}
    (ha : Asks find? arguments options bytes) (hw : WellFormed bytes) (hx : ∀ id ∈ options.excluded, Shown id) :
    ∃ log verdicts, Text.ofFile bytes = .ok log ∧ evaluate options.predicates log = .ok verdicts ∧
      verdicts.map Verdict.name = options.predicates.map Predicate.name ∧
      ((∀ id ∈ options.excluded, id.isScalar = true) → Reports verdicts (run find? arguments)) ∧
      ∀ before id after, options.excluded = before ++ id :: after → (∀ other ∈ before, other.isScalar = true) →
        id.isScalar = false → BreaksOff verdicts (options.counts.length + 1 + before.length) (run find? arguments) := by
  obtain ⟨t, hd⟩ : ∃ t, Utf8.decode bytes = .ok t := by
    obtain ⟨t, hs, hu, -⟩ := hw
    exact ⟨t, Utf8.decode_eq_ok.mpr ⟨hs, hu⟩⟩
  obtain ⟨records, hr⟩ := (wellFormed_iff hd).mp hw
  have hscalar := (Utf8.decode_eq_ok.mp hd).1
  have hn := all_isNameable_of_asks ha
  have htold : ∀ verdict ∈ verdicts options.predicates records, Tellable verdict := fun verdict hv =>
    tellable_of_mem hr hx hv
  refine ⟨t.unifyNewlines, verdicts options.predicates records, ofFile_of_decode hd, ?_, ?_, ?_, ?_⟩
  · simp only [evaluate, judge_of_records options.predicates hr, hn, if_true]
  · rw [verdicts, List.map_map]
    exact List.map_congr_left fun predicate _ => Predicate.verdict_name predicate records
  · intro hids
    rw [run_of_asks ha, report_of_records _ hn hd hr]
    exact tell_reports htold ((lines_isScalar hr hscalar).mpr fun _ hp => Options.isScalar_of_mem hids hp)
  · intro before id after hsplit hbefore hid
    obtain ⟨others, hp⟩ := Options.predicates_split hsplit
    have hlength : { options with excluded := before, final := none }.predicates.length =
        options.counts.length + 1 + before.length := by
      simp [Options.predicates]
      omega
    rw [run_of_asks ha, report_of_records _ hn hd hr, ← hlength]
    rw [hp] at htold ⊢
    refine tell_breaksOff hr hscalar (fun _ hm => Options.isScalar_of_mem hbefore hm) ?_ fun verdict hv => ?_
    · rw [isScalar_vaultExcluded, Text.isScalar_plainVaultId, hid]
    · apply htold
      rw [verdicts, List.map_append]
      exact List.mem_append_left _ hv

/-- A log of one record. -/
def soldOnce : Text := "\x7b\"level\":\"INFO\",\"fields\":\x7b\"message\":\"sold\"\x7d\x7d\n"

/-- No record of it is wanted, and this vault is excluded. -/
def soldNever (id : Text) : Options := ⟨[(.ofString "sold", 0)], [], [id], none⟩

/-- How this is asked for. -/
def askedNever (id : Text) : List Text := ["check", "--exclude-vault", id, "log", "--count", "sold=0"]

theorem soldOnce_wellFormed : WellFormed soldOnce.utf8 := by
  refine ⟨soldOnce, by decide, rfl, fun line hl _ => ?_⟩
  have hlines : soldOnce.lines = [soldOnce.dropLast] := by decide +kernel
  rw [hlines] at hl
  obtain rfl := List.mem_singleton.mp hl
  exact ⟨1, Result.isOk_iff.mp (by decide +kernel)⟩

theorem soldNever_asked (id : Text) :
    Asks (holding soldOnce.utf8) (askedNever id) (soldNever id) soldOnce.utf8 := by
  have hc : group.choose (askedNever id) =
      .ok (.ofString "check", ["--exclude-vault", id, "log", "--count", "sold=0"]) := by rfl
  obtain ⟨scanned, hs, hh, hg, hv⟩ : ∃ scanned, scan (command (holding soldOnce.utf8)).flags true none
      ["--exclude-vault", id, "log", "--count", "sold=0"] = .ok scanned ∧ scanned.asksHelp = false ∧
      scanned.given.map Given.setting = [.ok (.exclude id), countSetting "sold=0"] ∧
      scanned.operands = [.ofString "log"] := by
    refine ⟨_, rfl, ?_, ?_, ?_⟩
    · rfl
    · rfl
    · rfl
  have hcount : countSetting "sold=0" = .ok (.count (.ofString "sold") 0) := by rfl
  rw [hcount] at hg
  exact ⟨_, scanned, [.exclude id, .count (.ofString "sold") 0], .ofString "log", hc, hs, hh, hg, rfl, hv, rfl⟩

/-- A sale that should not be is reported as the scenario judges it; and where the id of the vault cannot be written, the
report breaks off after the count and the errors. -/
theorem soldOnce_reported : WellFormed soldOnce.utf8 ∧
    (∃ log verdicts, Text.ofFile soldOnce.utf8 = .ok log ∧ evaluate (soldNever "0x1f").predicates log = .ok verdicts ∧
      verdicts.map Verdict.name = (soldNever "0x1f").predicates.map Predicate.name ∧
      Reports verdicts (run (holding soldOnce.utf8) (askedNever "0x1f"))) ∧
    ∃ verdicts, BreaksOff verdicts 2 (run (holding soldOnce.utf8) (askedNever loneHalf)) := by
  obtain ⟨log, verdicts, hlog, hjudged, hnames, hreports, -⟩ :=
    run_reports (soldNever_asked "0x1f") soldOnce_wellFormed (by decide)
  obtain ⟨-, unwritable, -, -, -, -, hbreaks⟩ := run_reports (soldNever_asked loneHalf) soldOnce_wellFormed (by decide)
  refine ⟨soldOnce_wellFormed, ⟨log, verdicts, hlog, hjudged, hnames, hreports (by decide)⟩, unwritable, ?_⟩
  exact hbreaks [] loneHalf [] rfl (by simp) (by decide)

example : (run (holding soldOnce.utf8) (askedNever "0x1f")).output =
    "FAIL count[INFO 'sold'] == 0: found 1\n" ++ "PASS no unexpected ERROR records: 0 allowed error(s)\n" ++
      "PASS vault 1f never in 'Submitted liquidation': vault not submitted\n" := by
  decide +kernel

end LiquidationDrill.Check
