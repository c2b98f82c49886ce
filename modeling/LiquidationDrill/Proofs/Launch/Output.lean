import LiquidationDrill.Launch.Run
import LiquidationDrill.Proofs.Log.Records
import LiquidationDrill.Proofs.Text.Encoded
import LiquidationDrill.Proofs.Text.Utf8

/-!
# The output of a run

A program is started iff the system can be given its name and all its arguments (`launch_eq_finish`,
`launch_of_unusable`). A run that starts its program is decided by what becomes of the program (`run_eq_finish`). What the program wrote has
line feeds for its line ends, in memory and in the file that is left (`finish_exited`); reading the file again replaces
no more of them, and no line is cut or joined by it. So the log in memory, the log in the file and the log as it was
written have the same records or the same fault (`output_read_alike`).
-/

namespace LiquidationDrill.Launch

variable {folder : Text} {start : Start}

/-- The program that is started is part of the report, whatever becomes of it. -/
theorem finish_start (folder : Text) (start : Start) (ending : Ending) :
    (finish folder start ending).start = some start := by
  cases ending with
  | timedOut output errors => rfl
  | exited code output errors =>
    simp only [finish]
    split <;> rfl

/-! ## What is started -/

/-- **A program is started if the system can be given all its words.** -/
theorem launch_eq_finish (folder : Text) (ending : Ending) (h : ∀ word ∈ start.argv, word.IsPassable) :
    launch folder start ending = finish folder start ending := by
  obtain ⟨passed, hpassed⟩ := Result.exists_map_eq_ok fun word hw => Text.systemBytes_isOk.mpr (h word hw)
  rw [launch, Result.mapM_eq_ok.mpr hpassed]

/-- **Otherwise none is**, and the run fails with the fault of such a word. -/
theorem launch_of_unusable (folder : Text) (start : Start) (ending : Ending)
    (h : ∃ word ∈ start.argv, ¬word.IsPassable) :
    ∃ word ∈ start.argv, ∃ fault, word.systemBytes = .error fault ∧
      launch folder start ending = { notices := [start.announcement], result := .error (.unusable fault) } := by
  obtain ⟨word, hw, hpassable⟩ := h
  cases hm : start.argv.mapM Text.systemBytes with
  | ok passed =>
    obtain ⟨bytes, -, hbytes⟩ := List.mem_map.mp (Result.mapM_eq_ok.mp hm ▸ List.mem_map_of_mem hw)
    exact absurd (Text.systemBytes_isOk.mp ⟨bytes, hbytes.symm⟩) hpassable
  | error fault =>
    obtain ⟨before, first, after, hargv, -, hfault⟩ := Result.mapM_eq_error.mp hm
    refine ⟨first, hargv ▸ List.mem_append_right before List.mem_cons_self, fault, hfault, ?_⟩
    rw [launch, hm]

/-- A program is started with all its words or not at all. -/
theorem launch_cases (folder : Text) (start : Start) (ending : Ending) :
    (launch folder start ending).start = none ∨ launch folder start ending = finish folder start ending := by
  by_cases h : ∀ word ∈ start.argv, word.IsPassable
  · exact Or.inr (launch_eq_finish folder ending h)
  · push Not at h
    obtain ⟨word, -, fault, -, hl⟩ := launch_of_unusable folder start ending h
    exact Or.inl (by rw [hl])

section Run

variable {options : Options} {given : List Text} {timeout : Value} {environment : Environment} {ending : Ending}

/-- A run starts nothing, or a program with the time that the run is given, and then ends as the program does. -/
theorem run_cases : (run folder options given timeout environment ending).start = none ∨
    ∃ start, start.timeout = timeout ∧ run folder options given timeout environment ending = finish folder start ending := by
  unfold run
  split
  · exact Or.inl rfl
  · split
    · exact Or.inl rfl
    · split
      · exact Or.inl rfl
      · exact (launch_cases folder _ ending).imp_right fun h => ⟨_, rfl, h⟩

variable (h : (run folder options given timeout environment ending).start = some start)
include h

/-- **A run that starts a program ends as the program does.** -/
theorem run_eq_finish : run folder options given timeout environment ending = finish folder start ending := by
  rcases run_cases with hn | ⟨started, -, hr⟩
  · rw [hn] at h
    cases h
  · rw [hr, finish_start] at h
    rw [hr, Option.some.inj h]

end Run

/-- A program that wrote texts leaves them with line feeds for their line ends, whatever its code is. -/
theorem finish_exited {t errors : Text} (ht : t.isScalar = true) (he : errors.isScalar = true) (code : Int) :
    finish folder start (.exited code t.utf8 errors.utf8) =
      { start := some start
        notices := start.announcement :: exitNotices folder code
        files := outputFiles t.unifyNewlines errors.unifyNewlines
        result := .ok ⟨code, t.unifyNewlines, errors.unifyNewlines⟩ } := by
  simp only [finish, Utf8.ofFile_utf8 ht, Utf8.ofFile_utf8 he]

/-- **The output of a program is one log in memory, in the file that is left, and as it was written.** A program that is
started and exits after writing texts does not fail, whatever its code is. The file holds the output that the run
returns, and the records of both are those of what the program wrote, with whichever line ends; where that has a fault,
both have this fault. -/
theorem output_read_alike {folder : Text} {options : Options} {given : List Text} {timeout : Value}
    {environment : Environment} {code : Int} {t errors : Text} {report : Report} {start : Start}
    (ht : t.isScalar = true) (he : errors.isScalar = true)
    (hr : run folder options given timeout environment (.exited code t.utf8 errors.utf8) = report)
    (hs : report.start = some start) :
    ∃ finished saved read,
      report.result = .ok finished ∧ finished.code = code ∧
      report.files.lookup (.ofString "stdout") = some saved ∧
      Text.ofFile saved.utf8 = .ok read ∧ read = finished.output ∧
      finished.records = Log.records t ∧ Log.records read = Log.records t := by
  subst hr
  rw [run_eq_finish hs, finish_exited ht he]
  have hread : Text.ofFile t.unifyNewlines.utf8 = .ok t.unifyNewlines := by
    rw [Utf8.ofFile_utf8 (Text.isScalar_unifyNewlines ht), Text.unifyNewlines_unifyNewlines]
  exact ⟨⟨code, t.unifyNewlines, errors.unifyNewlines⟩, t.unifyNewlines, t.unifyNewlines, rfl, rfl, rfl, hread, rfl,
    Log.records_unifyNewlines t, Log.records_unifyNewlines t⟩

/-- Options that read two files in the folder of the run. -/
def plainOptions : Options where
  config := "config.json"
  url := .string "http://127.0.0.1:8545"
  chainId := .int 1
  privateKey := "private_key"

/-- An event, a line without one, and a line that is none, with a different line end after each. -/
def mixedLines : Text := "\x7b\"level\":\"INFO\",\"fields\":\x7b\x7d\x7d\r\n\rgone\n"

/-- What a program leaves that writes them and is killed. -/
def killedReport : Report :=
  run "drill" plainOptions ["liquidator"] defaultTimeout [] (.exited (-9) mixedLines.utf8 (Text.utf8 "killed"))

/-- Its log is rejected as it was written, wherever it is read. -/
theorem mixedLines_read_alike :
    ∃ start finished saved read, mixedLines.isScalar = true ∧ Text.isScalar "killed" = true ∧
      killedReport.start = some start ∧ killedReport.result = .ok finished ∧ finished.code = -9 ∧
      killedReport.files.lookup (.ofString "stdout") = some saved ∧
      Text.ofFile (Text.utf8 saved) = .ok read ∧ read = finished.output ∧
      finished.records = Log.records mixedLines ∧ Log.records read = Log.records mixedLines := by
  have hscalar : mixedLines.isScalar = true := by decide
  have herrors : Text.isScalar "killed" = true := by decide
  obtain ⟨start, hs⟩ : ∃ start, killedReport.start = some start := ⟨_, rfl⟩
  obtain ⟨finished, saved, read, h⟩ := output_read_alike hscalar herrors rfl hs
  exact ⟨start, finished, saved, read, hscalar, herrors, hs, h⟩

end LiquidationDrill.Launch
