import LiquidationDrill.Proofs.Launch.Arguments
import LiquidationDrill.Proofs.Launch.Output

/-!
# The command is read back

A command is written as its words with blanks between them. A word stands as it is if it is made of letters, digits and
some marks of ASCII, and between single quotes otherwise, where a single quote is written between double quotes
(`ShellWords.written`). Reading a written word leaves the reader in that word, wherever it began (`splitFrom_written`),
so the words are split again, empty ones included (`split_commandLine`).

A run without a command of its own launches these words with the arguments of its options after them, which are texts if
the address of the node is one (`Launch.Options.exists_texts`, `Launch.run_eq_launch`). `Launch.command_read_back` puts
this together.
-/

namespace LiquidationDrill

namespace ShellWords

/-! ## Words as they are written -/

/-- Needs no quotes: a letter, a digit or one of some marks of ASCII. -/
def isBare (c : CodePoint) : Bool :=
  c.isDigit || (0x41 ≤ c.val && c.val ≤ 0x5A) || (0x61 ≤ c.val && c.val ≤ 0x7A) || c ∈ ("@%+=:,./-_" : Text)

/-- What stands between the quotes around a word: a single quote ends them, stands between double quotes, and begins
them again. -/
def betweenQuotes (word : Text) : Text :=
  word.flatMap fun c : CodePoint => if c = '\'' then "'\"'\"'" else [c]

/-- A word as it is written. -/
def written (word : Text) : Text :=
  if word ≠ [] ∧ word.all isBare then word else '\'' :: (betweenQuotes word ++ [.ofChar '\''])

/-- Words as they are written, with blanks between them. -/
def commandLine (words : List Text) : Text := Text.join " " (words.map written)

/-! ## Reading a written word -/

/-- Nothing that needs no quotes parts words, escapes or quotes. -/
theorem isBare_plain {c : CodePoint} (h : isBare c = true) : isGap c = false ∧ c ≠ '\\' ∧ isMark c = false := by
  have hne {d : CodePoint} (hd : isBare d = false) : c ≠ d := by
    rintro rfl
    rw [h] at hd
    cases hd
  have hgap : isGap c = false := by
    simp [isGap, hne (d := ' ') (by decide), hne (d := '\t') (by decide), hne (d := '\r') (by decide),
      hne (d := '\n') (by decide)]
  have hmark : isMark c = false := by
    simp [isMark, hne (d := '\'') (by decide), hne (d := '"') (by decide)]
  exact ⟨hgap, hne (by decide), hmark⟩

/-- What needs no quotes is added to the word, wherever it stands. -/
theorem outside_of_isBare {c : CodePoint} (h : isBare c = true) (begun : Text) :
    Place.outside begun c = .word (begun ++ [c]) := by
  obtain ⟨-, hescape, hmark⟩ := isBare_plain h
  simp [Place.outside, hescape, hmark]

/-- **A word without quotes is read to its end.** -/
theorem splitFrom_bare {word : Text} (h : ∀ c ∈ word, isBare c = true) (begun rest : Text) :
    splitFrom (.word begun) (word ++ rest) = splitFrom (.word (begun ++ word)) rest := by
  induction word generalizing begun with
  | nil => rw [List.nil_append, List.append_nil]
  | cons c word ih =>
    obtain ⟨hc, hword⟩ := List.forall_mem_cons.mp h
    have hgap : ¬isGap c = true := by simp [(isBare_plain hc).1]
    rw [List.cons_append, splitFrom, if_neg hgap, outside_of_isBare hc, ih hword, List.append_assoc,
      List.singleton_append]

/-- **What stands between quotes is read to the end of the word.** -/
theorem splitFrom_betweenQuotes (word begun rest : Text) :
    splitFrom (.quoted '\'' begun) (betweenQuotes word ++ .ofChar '\'' :: rest) =
      splitFrom (.word (begun ++ word)) rest := by
  induction word generalizing begun with
  | nil =>
    show splitFrom (.quoted '\'' begun) (.ofChar '\'' :: rest) = _
    rw [splitFrom, Place.within, if_pos rfl, List.append_nil]
  | cons c word ih =>
    rw [betweenQuotes, List.flatMap_cons, ← betweenQuotes, List.append_assoc]
    by_cases hc : c = '\''
    · subst hc
      -- out of the quotes, through the double quotes, and in again
      have hstep (rest : Text) : splitFrom (.quoted '\'' begun) ("'\"'\"'" ++ rest) =
          splitFrom (.quoted '\'' (begun ++ [.ofChar '\''])) rest := rfl
      rw [if_pos rfl, hstep, ih, List.append_assoc, List.singleton_append]
    · have hstep (rest : Text) : splitFrom (.quoted '\'' begun) (c :: rest) =
          splitFrom (.quoted '\'' (begun ++ [c])) rest := by
        have hescape : ¬((decide (CodePoint.ofChar '\'' = '"') && decide (c = '\\')) = true) := by simp
        rw [splitFrom, Place.within, if_neg hc, if_neg hescape]
      rw [if_neg hc, List.singleton_append, hstep, ih, List.append_assoc, List.singleton_append]

/-- **A written word is read to its end**, and no further. -/
theorem splitFrom_written (word rest : Text) :
    splitFrom .between (written word ++ rest) = splitFrom (.word word) rest := by
  unfold written
  split
  next h =>
    obtain ⟨hne, hbare⟩ := h
    obtain ⟨c, word, rfl⟩ := List.exists_cons_of_ne_nil hne
    obtain ⟨hc, hword⟩ := List.forall_mem_cons.mp (List.all_eq_true.mp hbare)
    have hgap : ¬isGap c = true := by simp [(isBare_plain hc).1]
    rw [List.cons_append, splitFrom, if_neg hgap, outside_of_isBare hc, splitFrom_bare hword]
    rfl
  · have hopen (rest : Text) : splitFrom .between (.ofChar '\'' :: rest) = splitFrom (.quoted '\'' []) rest := rfl
    rw [List.cons_append, hopen, List.append_assoc, List.singleton_append, splitFrom_betweenQuotes, List.nil_append]

/-- **The words of a written command are split again.** -/
theorem split_commandLine (words : List Text) : split (commandLine words) = .ok words := by
  rw [split, commandLine]
  induction words with
  | nil => rfl
  | cons word words ih =>
    cases words with
    | nil =>
      have hw := splitFrom_written word []
      rwa [List.append_nil] at hw
    | cons other words =>
      have hgap (rest : Text) : splitFrom (.word word) (.ofChar ' ' :: rest) =
          (splitFrom .between rest).map (word :: ·) := rfl
      have hjoin : Text.join " " ((word :: other :: words).map written) =
          written word ++ .ofChar ' ' :: Text.join " " ((other :: words).map written) := by
        show written word ++ [.ofChar ' '] ++ _ = _
        rw [List.append_assoc, List.singleton_append]
      rw [hjoin, splitFrom_written, hgap, ih]
      rfl

end ShellWords

namespace Launch

open ShellWords (commandLine split_commandLine)

/-! ## Arguments that are texts -/

/-- Texts are taken as texts, wherever they stand. -/
theorem argumentTexts_strings (position : Nat) (ts : List Text) :
    argumentTexts position (ts.map Value.string) = .ok ts := by
  induction ts generalizing position with
  | nil => rfl
  | cons t ts ih =>
    rw [List.map_cons, argumentTexts, ih]
    rfl

/-- Values that are texts come from texts. -/
theorem exists_map_string {values : List Value} (h : ∀ x ∈ values, ∃ t : Text, x = .string t) :
    ∃ ts : List Text, values = ts.map Value.string := by
  induction values with
  | nil => exact ⟨[], rfl⟩
  | cons x values ih =>
    obtain ⟨⟨t, rfl⟩, hrest⟩ := List.forall_mem_cons.mp h
    obtain ⟨ts, rfl⟩ := ih hrest
    exact ⟨t :: ts, rfl⟩

/-- **All arguments are texts if the address of the node is one**, and the fields can be shown. -/
theorem Options.exists_texts {options : Options} {address : Text} (h : options.url = .string address)
    (hs : options.IsShowable) : ∃ ts : List Text, options.argv = .ok (ts.map Value.string) := by
  suffices hall : ∀ x ∈ options.arguments.flatMap Argument.written, ∃ t : Text, x = .string t by
    obtain ⟨ts, hts⟩ := exists_map_string hall
    exact ⟨ts, by rw [options.argv_of_isShowable hs, hts]⟩
  intro x hx
  obtain ⟨argument, ha, hx⟩ := List.mem_flatMap.mp hx
  rcases List.mem_cons.mp hx with rfl | hx
  · exact ⟨_, rfl⟩
  · have hvalue : options.given? argument.flag = some (some x) := by
      rw [(Options.mem_arguments options).mp ha, Option.mem_toList.mp hx]
    rw [options.eq_passed_of_given? hvalue, passed]
    split
    · exact ⟨address, h⟩
    · exact ⟨_, rfl⟩

/-! ## What is started -/

section Run

variable {options : Options} {environment : Environment} {words : List Text} (folder : Text) (timeout : Value)
  (ending : Ending)

/-- A run launches the words of the command with the arguments after them. -/
theorem run_eq_launch {arguments : List Text} (hcommand : command environment = .ok words)
    (hargv : options.argv = .ok (arguments.map Value.string)) :
    run folder options [] timeout environment ending =
      launch folder ⟨words ++ arguments, environment.over defaultEnvironment, timeout⟩ ending := by
  simp only [run, List.isEmpty_nil, if_pos, hcommand, hargv, argumentTexts_strings]

/-- And nothing if there are no arguments. -/
theorem run_of_not_isShowable (hcommand : command environment = .ok words) (hs : ¬options.IsShowable) :
    run folder options [] timeout environment ending = { result := .error (.unshowable .numeralTooLong) } := by
  simp only [run, List.isEmpty_nil, if_pos, hcommand, options.argv_of_not_isShowable hs]

end Run

/-- **The words of the command are started, with the arguments of the options after them.** Where the address of the node
is a text and the fields of the options can be shown, their arguments are texts; the program is started with all the
words if the system can be given each of them, and with none of them otherwise. Where a field cannot be shown, there are no
arguments and nothing is started. -/
theorem command_read_back (words : List Text) {environment : Environment}
    (h : environment.lookup commandVariable = some (commandLine words)) :
    command environment = .ok words ∧
      ∀ (folder : Text) (options : Options) (timeout : Value) (ending : Ending) (report : Report),
        run folder options [] timeout environment ending = report →
          (∀ address : Text, options.url = .string address → options.IsShowable →
            ∃ arguments : List Text, options.argv = .ok (arguments.map Value.string) ∧
              ((∀ word ∈ words ++ arguments, word.IsPassable) →
                ∃ start, report.start = some start ∧ start.argv = words ++ arguments) ∧
              ((∃ word ∈ words ++ arguments, ¬word.IsPassable) →
                report.start = none ∧ ∃ fault, report.result = .error (.unusable fault))) ∧
          (¬options.IsShowable → report.start = none ∧ report.result = .error (.unshowable .numeralTooLong)) := by
  have hcommand : command environment = .ok words := by
    rw [command, h, Option.getD_some, split_commandLine]
  refine ⟨hcommand, ?_⟩
  rintro folder options timeout ending report rfl
  constructor
  · intro address hurl hs
    obtain ⟨arguments, hargv⟩ := Options.exists_texts hurl hs
    rw [run_eq_launch folder timeout ending hcommand hargv]
    refine ⟨arguments, hargv, fun hpassable => ?_, fun hunusable => ?_⟩
    · rw [launch_eq_finish folder ending hpassable]
      exact ⟨_, finish_start _ _ _, rfl⟩
    · obtain ⟨word, -, fault, -, hl⟩ := launch_of_unusable folder
        ⟨words ++ arguments, environment.over defaultEnvironment, timeout⟩ ending hunusable
      rw [hl]
      exact ⟨rfl, fault, rfl⟩
  · intro hs
    rw [run_of_not_isShowable folder timeout ending hcommand hs]
    exact ⟨rfl, rfl⟩

/-- A word that needs no quotes, words with quotes, blanks or a backslash, and an empty one. -/
def oddWords : List Text := ["x=1", "it's", "a\\b \"c\"", "", "#é"]

/-- An environment with these words for the command. -/
def oddEnvironment : Environment :=
  [("HOME", "/"), ("LIQUIDATOR_COMMAND", "x=1 'it'\"'\"'s' 'a\\b \"c\"' '' '#é'")]

/-- Options with a path of the private key. -/
def keyOptions (privateKey : Text) : Options := { plainOptions with privateKey := privateKey }

/-- Their arguments. -/
def keyArguments (privateKey : Text) : List Text :=
  ["-c", "config.json", "-u", "http://127.0.0.1:8545", "-C", "1", "-p", privateKey, "--gas-boost", "10", "--one-shot",
    "--json-log", "--file", "/dev/null"]

/-- They are started, with arguments after them, but not with a NUL in one of these. -/
theorem oddWords_read_back : oddEnvironment.lookup commandVariable = some (commandLine oddWords) ∧
    command oddEnvironment = .ok oddWords ∧
      (∀ word ∈ oddWords ++ keyArguments "key", word.IsPassable) ∧
      (∃ start, (run "drill" (keyOptions "key") [] defaultTimeout oddEnvironment (.exited 0 [] [])).start = some start ∧
        start.argv = oddWords ++ keyArguments "key") ∧
      (run "drill" (keyOptions "\x00") [] defaultTimeout oddEnvironment (.exited 0 [] [])).start = none := by
  have hwritten : oddEnvironment.lookup commandVariable = some (commandLine oddWords) := by decide
  obtain ⟨hcommand, hrun⟩ := command_read_back oddWords hwritten
  have hshowable (key : Text) : (keyOptions key).IsShowable := by
    intro flag _
    cases flag <;> rfl
  have hargv (key : Text) {arguments : List Text} (h : (keyOptions key).argv = .ok (arguments.map Value.string)) :
      arguments = keyArguments key := by
    have hsame : arguments.map Value.string = (keyArguments key).map Value.string := Except.ok.inj h.symm
    exact List.map_injective_iff.mpr (fun _ _ => Value.string.inj) hsame
  have hpassable : ∀ word ∈ oddWords ++ keyArguments "key", word.IsPassable := by decide
  have hunusable : ∃ word ∈ oddWords ++ keyArguments "\x00", ¬word.IsPassable := ⟨"\x00", by decide, by decide⟩
  refine ⟨hwritten, hcommand, hpassable, ?_, ?_⟩
  · obtain ⟨arguments, ha, hstarted, -⟩ := (hrun "drill" (keyOptions "key") defaultTimeout _ _ rfl).1 _ rfl (hshowable _)
    obtain rfl := hargv _ ha
    exact hstarted hpassable
  · obtain ⟨arguments, ha, -, hnot⟩ := (hrun "drill" (keyOptions "\x00") defaultTimeout _ _ rfl).1 _ rfl (hshowable _)
    obtain rfl := hargv _ ha
    exact (hnot hunusable).1

end Launch

end LiquidationDrill
