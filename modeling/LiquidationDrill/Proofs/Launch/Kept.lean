import LiquidationDrill.Proofs.Launch.Output
import LiquidationDrill.Proofs.Log.Readers
import LiquidationDrill.Proofs.Text.CutShort

/-!
# What is kept of a run

A program that runs out of time leaves what it wrote until then, cut short: of a text whose first bytes were captured,
the longest beginning and a mark where a character is cut (`finish_timedOut`). The lines that were ended by then are read
from the file as from the text (`time_up_kept`).

A program that exits is read as a whole. If it wrote what is no text, on either stream, nothing of it is kept
(`finish_unreadable`); this is the only way in which the output of a started program is lost (`kept_iff_readable`).
-/

namespace LiquidationDrill.Launch

variable {folder : Text} {start : Start} {ending : Ending}

/-! ## Out of time -/

/-- An event, whose line is ended. -/
def boughtLine : Text := "\x7b\"level\":\"INFO\",\"fields\":\x7b\x7d\x7d"

/-- The bytes are those of a text. -/
def IsText (bytes : List UInt8) : Prop := ∃ t : Text, t.isScalar = true ∧ t.utf8 = bytes

/-- The bytes of a text are read with line feeds for its line ends, and others are not read. -/
theorem ofFile_cases (bytes : List UInt8) :
    (∃ t : Text, t.isScalar = true ∧ t.utf8 = bytes ∧ Text.ofFile bytes = .ok t.unifyNewlines) ∨
      (¬IsText bytes ∧ ∃ malformed, Text.ofFile bytes = .error malformed) := by
  cases hd : Utf8.decode bytes with
  | ok t =>
    obtain ⟨ht, rfl⟩ := Utf8.decode_eq_ok.mp hd
    exact Or.inl ⟨t, ht, rfl, Utf8.ofFile_utf8 ht⟩
  | error malformed =>
    refine Or.inr ⟨?_, malformed, Result.map_eq_error.mpr hd⟩
    rintro ⟨t, ht, hb⟩
    rw [Utf8.decode_eq_ok.mpr ⟨ht, hb⟩] at hd
    cases hd

/-- What a program wrote can be read: texts on both streams, if it exited. -/
def Ending.Readable : Ending → Prop
  | .exited _ output errors => IsText output ∧ IsText errors
  | .timedOut _ _ => True

/-- Both files are written, and the run returns what they hold or has run out of time. -/
def Report.Kept (report : Report) : Prop :=
  ∃ output errors, report.files = outputFiles output errors ∧
    ((∃ code, report.result = .ok ⟨code, output, errors⟩) ∨
      ∃ argv timeout, report.result = .error (.timedOut argv timeout))

/-- What can be read is kept. -/
theorem finish_readable (folder : Text) (start : Start) (h : ending.Readable) : (finish folder start ending).Kept := by
  cases ending with
  | timedOut output errors => exact ⟨_, _, rfl, Or.inr ⟨_, _, rfl⟩⟩
  | exited code output errors =>
    obtain ⟨⟨t, ht, rfl⟩, e, he, rfl⟩ := h
    rw [finish_exited ht he]
    exact ⟨_, _, rfl, Or.inl ⟨_, rfl⟩⟩

/-- Without files nothing is kept. -/
theorem Report.not_kept {report : Report} (h : report.files = []) : ¬report.Kept := by
  rintro ⟨output, errors, hfiles, -⟩
  rw [h] at hfiles
  cases hfiles

/-- Nothing is kept of what cannot be read. -/
theorem finish_unreadable (folder : Text) (start : Start) (h : ¬ending.Readable) :
    (finish folder start ending).files = [] ∧
      ∃ malformed, (finish folder start ending).result = .error (.undecodable malformed) := by
  cases ending with
  | timedOut output errors => exact absurd trivial h
  | exited code output errors =>
    -- the output is read first: where both are flawed, its flaw comes out
    rcases ofFile_cases output with ⟨t, ht, rfl, hot⟩ | ⟨-, malformed, hot⟩
    · rcases ofFile_cases errors with ⟨e, he, rfl, -⟩ | ⟨-, malformed, hoe⟩
      · exact absurd ⟨⟨t, ht, rfl⟩, e, he, rfl⟩ h
      · simp only [finish, hot, hoe]
        exact ⟨trivial, malformed, rfl⟩
    · simp only [finish, hot]
      exact ⟨trivial, malformed, rfl⟩

/-- **The output of a started program is kept iff it can be read.** If the program runs out of time, or exits after
writing texts, both files are written, and the run returns what they hold or fails for want of time. If it exits after
writing what is no text, on one stream or on both, no file is written at all, and the run fails with the flaw. -/
theorem kept_iff_readable {folder : Text} {options : Options} {given : List Text} {timeout : Value}
    {environment : Environment} {ending : Ending} {report : Report} {start : Start}
    (hr : run folder options given timeout environment ending = report) (hs : report.start = some start) :
    (report.Kept ↔ ending.Readable) ∧
      (¬ending.Readable → report.files = [] ∧ ∃ malformed, report.result = .error (.undecodable malformed)) := by
  subst hr
  rw [run_eq_finish hs]
  refine ⟨⟨fun hkept => Classical.byContradiction fun hn => ?_, finish_readable folder start⟩,
    finish_unreadable folder start⟩
  exact Report.not_kept (finish_unreadable folder start hn).1 hkept

/-- The output of a program that writes an event and fails is kept. -/
theorem boughtLine_kept : ∃ start,
    (run "drill" plainOptions ["liquidator"] defaultTimeout [] (.exited 1 boughtLine.utf8 [])).start = some start ∧
      (run "drill" plainOptions ["liquidator"] defaultTimeout [] (.exited 1 boughtLine.utf8 [])).Kept := by
  have hreadable : (Ending.exited 1 boughtLine.utf8 []).Readable := ⟨⟨boughtLine, by decide, rfl⟩, [], rfl, rfl⟩
  obtain ⟨start, hs⟩ : ∃ start,
      (run "drill" plainOptions ["liquidator"] defaultTimeout [] (.exited 1 boughtLine.utf8 [])).start = some start :=
    ⟨_, rfl⟩
  exact ⟨start, hs, (kept_iff_readable rfl hs).1.mpr hreadable⟩

/-- What is left of a program that exits after writing an event, and a byte that begins no character for an error. -/
def flawedReport : Report := run "drill" plainOptions ["liquidator"] defaultTimeout [] (.exited 0 boughtLine.utf8 [0xFF])

/-- It was started, and its event is lost. -/
theorem flawed_lost : flawedReport.start.isSome = true ∧ flawedReport.files = [] ∧
    flawedReport.result = .error (.undecodable ⟨.start, 0, 0xFF, 1⟩) ∧ ¬flawedReport.Kept :=
  ⟨rfl, rfl, rfl, Report.not_kept rfl⟩

end LiquidationDrill.Launch
