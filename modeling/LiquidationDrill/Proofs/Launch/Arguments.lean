import LiquidationDrill.Launch.Options
import LiquidationDrill.Proofs.Result
import LiquidationDrill.Proofs.Value.Showable
import Mathlib.Data.List.Basic

/-!
# The arguments are read back

Arguments are read from left to right (`readArguments`): a flag takes the argument after it, whatever that looks like,
unless it is a switch. What flags and their values are written as is read as these flags with these values
(`readArguments_written`).

The liquidator's arguments are its flags in their order, as far as options give them (`Options.argv_of_isShowable`), and no flag
is given twice (`Options.nodup_arguments`). So what was given for each flag is found again (`Options.found_arguments`),
and the arguments of two options are the same only if the options agree on every flag (`Options.given?_eq_iff`). There are
no arguments at all if the text of a field cannot be shown (`Options.argv_of_not_isShowable`). `argv_read_back` puts this together.
-/

namespace LiquidationDrill.Launch

/-! ## Flags -/

/-- Whether a flag is there, and with a value. -/
inductive Flag.Kind where
  /-- Always there, with a value. -/
  | required
  /-- There with a value, unless the value is null. -/
  | optional
  /-- There without a value, if it is on. -/
  | switch
  deriving DecidableEq

/-- What an argument of the liquidator is about. -/
inductive Flag where
  | config
  | url
  | chainId
  | privateKey
  | gasBoost
  | interval
  | multicallBatchSize
  | minRatio
  | bumpGasDelay
  | startBlock
  | instanceName
  | oneShot
  | jsonLog
  | file
  deriving DecidableEq

namespace Flag

/-- All flags, in the order in which they are written. -/
def all : List Flag :=
  [config, url, chainId, privateKey, gasBoost, interval, multicallBatchSize, minRatio, bumpGasDelay, startBlock,
    instanceName, oneShot, jsonLog, file]

/-- A flag as it is written. -/
def text : Flag → Text
  | config => "-c"
  | url => "-u"
  | chainId => "-C"
  | privateKey => "-p"
  | gasBoost => "--gas-boost"
  | interval => "--interval"
  | multicallBatchSize => "--multicall-batch-size"
  | minRatio => "--min-ratio"
  | bumpGasDelay => "--bump-gas-delay"
  | startBlock => "--start-block"
  | instanceName => "--instance-name"
  | oneShot => "--one-shot"
  | jsonLog => "--json-log"
  | file => "--file"

/-- The kind of a flag. -/
def kind : Flag → Kind
  | config | url | chainId | privateKey | gasBoost | file => .required
  | interval | multicallBatchSize | minRatio | bumpGasDelay | startBlock | instanceName => .optional
  | oneShot | jsonLog => .switch

/-- The flag takes the argument after it. -/
def takesValue (flag : Flag) : Bool := flag.kind ≠ .switch

/-- The flag takes the text of its field. -/
def takesText (flag : Flag) : Bool := flag.takesValue && flag ≠ .url

/-- The flag that an argument is. -/
def of? : Value → Option Flag
  | .string t => all.find? (·.text = t)
  | _ => none

theorem mem_all (flag : Flag) : flag ∈ all := by
  cases flag <;> decide

theorem nodup_all : all.Nodup := by decide

/-- Every flag is written in its own way. -/
theorem of?_text (flag : Flag) : of? (.string flag.text) = some flag := by
  cases flag <;> rfl

end Flag

/-! ## Reading from left to right -/

/-- A flag that was given, and the argument that it took. -/
structure Argument where
  flag : Flag
  value : Option Value

namespace Argument

/-- A flag and its value as arguments. -/
def written (argument : Argument) : List Value := .string argument.flag.text :: argument.value.toList

/-- The flag has a value iff it takes one. -/
def Fits (argument : Argument) : Prop := argument.value.isSome = argument.flag.takesValue

end Argument

/-- What arguments give, where a flag may be waiting for its value. They give nothing if something else stands in the
place of a flag, or a flag lacks its value. -/
def readFrom : (waiting : Option Flag) → List Value → Option (List Argument)
  | none, [] => some []
  | some _, [] => none
  | some flag, value :: rest => (readFrom none rest).map (⟨flag, some value⟩ :: ·)
  | none, argument :: rest =>
    match Flag.of? argument with
    | none => none
    | some flag =>
      if flag.takesValue then readFrom (some flag) rest else (readFrom none rest).map (⟨flag, none⟩ :: ·)

/-- What all arguments give. -/
def readArguments (arguments : List Value) : Option (List Argument) := readFrom none arguments

/-- A flag is read with its value, and then the rest. -/
theorem readFrom_written {argument : Argument} (h : argument.Fits) (rest : List Value) :
    readFrom none (argument.written ++ rest) = (readFrom none rest).map (argument :: ·) := by
  obtain ⟨flag, value⟩ := argument
  simp only [Argument.Fits] at h
  cases value with
  | none =>
    have hs : flag.takesValue = false := h.symm
    simp [Argument.written, readFrom, Flag.of?_text, hs]
  | some value =>
    have hs : flag.takesValue = true := h.symm
    simp [Argument.written, readFrom, Flag.of?_text, hs]

/-- **What flags are written as is read as these flags**, whatever their values look like. -/
theorem readArguments_written {arguments : List Argument} (h : ∀ argument ∈ arguments, argument.Fits) :
    readArguments (arguments.flatMap Argument.written) = some arguments := by
  induction arguments with
  | nil => rfl
  | cons argument arguments ih =>
    obtain ⟨ha, hrest⟩ := List.forall_mem_cons.mp h
    have ih : readFrom none (arguments.flatMap Argument.written) = some arguments := ih hrest
    rw [readArguments, List.flatMap_cons, readFrom_written ha, ih, Option.map_some]

/-- What was given for a flag: nothing, or the flag and the value that it took. -/
def found (arguments : List Argument) (flag : Flag) : Option (Option Value) :=
  (arguments.find? (·.flag = flag)).map Argument.value

/-! ## What options give -/

/-- Two values agree as far as arguments tell. -/
def Flag.Kind.Agree : Flag.Kind → Value → Value → Prop
  | required, x, y => x.display = y.display
  | optional, x, y => x.display = y.display ∧ (x = .null ↔ y = .null)
  | switch, x, y => x.isTruthy = y.isTruthy

instance : (kind : Flag.Kind) → (x y : Value) → Decidable (kind.Agree x y)
  | .required, x, y => inferInstanceAs (Decidable (x.display = y.display))
  | .optional, x, y => inferInstanceAs (Decidable (x.display = y.display ∧ (x = .null ↔ y = .null)))
  | .switch, x, y => inferInstanceAs (Decidable (x.isTruthy = y.isTruthy))

namespace Options

/-- The field that a flag is about. -/
def field (options : Options) : Flag → Value
  | .config => .string options.config
  | .url => options.url
  | .chainId => options.chainId
  | .privateKey => .string options.privateKey
  | .gasBoost => options.gasBoost
  | .interval => options.interval
  | .multicallBatchSize => options.multicallBatchSize
  | .minRatio => options.minRatio
  | .bumpGasDelay => options.bumpGasDelay
  | .startBlock => options.startBlock
  | .instanceName => options.instanceName
  | .oneShot => options.oneShot
  | .jsonLog => options.jsonLog
  | .file => options.file

/-- The value that a flag takes: the text of the field, but the address of the node as it is. -/
def passed (options : Options) (flag : Flag) : Value :=
  if flag = .url then options.url else .string (options.field flag).display

/-- What is given for a flag. -/
def given? (options : Options) (flag : Flag) : Option (Option Value) :=
  match flag.kind with
  | .required => some (some (options.passed flag))
  | .optional => if options.field flag = .null then none else some (some (options.passed flag))
  | .switch => if (options.field flag).isTruthy then some none else none

/-- The argument for a flag, if it is given. -/
def argument? (options : Options) (flag : Flag) : Option Argument := (options.given? flag).map (⟨flag, ·⟩)

/-- The flags that are given, in their order. -/
def arguments (options : Options) : List Argument := Flag.all.filterMap options.argument?

variable (options : Options)

/-- Whichever value a flag takes, its text is that of the field. -/
theorem display_passed (flag : Flag) : (options.passed flag).display = (options.field flag).display := by
  unfold passed
  split
  next h => rw [h, field]
  · rfl

/-- A flag is given with a value iff it takes one. -/
theorem isSome_of_given? {flag : Flag} {value : Option Value} (h : options.given? flag = some value) :
    value.isSome = flag.takesValue := by
  unfold given? at h
  cases hk : flag.kind with
  | required =>
    obtain rfl : some (options.passed flag) = value := by simpa [hk] using h
    simp [Flag.takesValue, hk]
  | optional =>
    simp only [hk] at h
    split at h
    · cases h
    · obtain rfl := Option.some.inj h
      simp [Flag.takesValue, hk]
  | switch =>
    simp only [hk] at h
    split at h
    · obtain rfl := Option.some.inj h
      simp [Flag.takesValue, hk]
    · cases h

/-- A flag is given with no other value than the one that is passed. -/
theorem eq_passed_of_given? {flag : Flag} {x : Value} (h : options.given? flag = some (some x)) :
    x = options.passed flag := by
  unfold given? at h
  split at h
  · simpa using h.symm
  · split at h
    · cases h
    · simpa using h.symm
  · split at h <;> simp at h

theorem mem_arguments {argument : Argument} :
    argument ∈ options.arguments ↔ options.given? argument.flag = some argument.value := by
  constructor
  · intro h
    obtain ⟨flag, -, ha⟩ := List.mem_filterMap.mp h
    obtain ⟨value, hg, rfl⟩ := Option.map_eq_some_iff.mp ha
    exact hg
  · intro h
    exact List.mem_filterMap.mpr ⟨argument.flag, Flag.mem_all _, by rw [argument?, h, Option.map_some]⟩

/-- **No flag is given twice**: the flags that are given are among all of them, in the same order. -/
theorem nodup_arguments : (options.arguments.map Argument.flag).Nodup := by
  have hsub (flags : List Flag) : ((flags.filterMap options.argument?).map Argument.flag).Sublist flags := by
    induction flags with
    | nil => exact List.Sublist.refl _
    | cons flag flags ih =>
      cases hg : options.given? flag with
      | none =>
        rw [List.filterMap_cons_none (by rw [argument?, hg, Option.map_none])]
        exact ih.cons flag
      | some value =>
        rw [List.filterMap_cons_some (by rw [argument?, hg, Option.map_some])]
        exact ih.cons_cons flag
  exact (hsub Flag.all).nodup Flag.nodup_all

/-- **What is given for a flag is found.** -/
theorem found_arguments (flag : Flag) : found options.arguments flag = options.given? flag := by
  cases hg : options.given? flag with
  | none =>
    have hnone : options.arguments.find? (·.flag = flag) = none := by
      refine List.find?_eq_none.mpr fun argument hm hflag => ?_
      rw [mem_arguments, of_decide_eq_true hflag, hg] at hm
      cases hm
    rw [found, hnone, Option.map_none]
  | some value =>
    have hm : ⟨flag, value⟩ ∈ options.arguments := (mem_arguments options).mpr hg
    obtain ⟨argument, hf⟩ := Option.isSome_iff_exists.mp
      (List.find?_isSome.mpr ⟨⟨flag, value⟩, hm, decide_eq_true rfl⟩ :
        (options.arguments.find? (·.flag = flag)).isSome = true)
    have hflag : argument.flag = flag := by simpa using List.find?_some hf
    have hvalue := (mem_arguments options).mp (List.mem_of_find?_eq_some hf)
    rw [hflag, hg] at hvalue
    rw [found, hf, Option.map_some, hvalue]

/-! ## Arguments as they are written -/

/-- Every field whose text is an argument can be shown. -/
def IsShowable : Prop := ∀ flag : Flag, flag.takesText = true → (options.field flag).isShowable = true

/-- What stands for a flag among the arguments. -/
def writtenFor (flag : Flag) : List Value := (options.argument? flag).toList.flatMap Argument.written

/-- The part of a flag: what stands for it, unless it takes a text that cannot be shown. -/
def partFor (flag : Flag) : Except Value.Fault (List Value) :=
  if flag.takesText = true ∧ (options.field flag).isShowable = false then .error .numeralTooLong
  else .ok (options.writtenFor flag)

theorem taking_eq (flag : Flag) (hk : flag.kind = .required) (hu : flag ≠ .url) :
    taking flag.text (options.field flag) = options.partFor flag := by
  have ht : flag.takesText = true := by simp [Flag.takesText, Flag.takesValue, hk, hu]
  cases hs : (options.field flag).isShowable with
  | true => simp [taking, Value.shown, partFor, writtenFor, argument?, given?, hk, passed, hu, hs, Argument.written,
      Except.map]
  | false => simp [taking, Value.shown, partFor, ht, hs, Except.map]

theorem optional_eq (flag : Flag) (hk : flag.kind = .optional) :
    optional flag.text (options.field flag) = options.partFor flag := by
  have hu : flag ≠ .url := by
    rintro rfl
    cases hk
  have ht : flag.takesText = true := by simp [Flag.takesText, Flag.takesValue, hk, hu]
  by_cases hn : options.field flag = .null
  · simp [optional, partFor, writtenFor, argument?, given?, hk, hn, Value.isShowable]
  · have ho : optional flag.text (options.field flag) = taking flag.text (options.field flag) := by
      unfold optional
      split
      · contradiction
      · rfl
    cases hs : (options.field flag).isShowable with
    | true => simp [ho, taking, Value.shown, partFor, writtenFor, argument?, given?, hk, hn, passed, hu, hs,
        Argument.written, Except.map]
    | false => simp [ho, taking, Value.shown, partFor, ht, hs, Except.map]

theorem switch_eq (flag : Flag) (hk : flag.kind = .switch) :
    switch flag.text (options.field flag) = options.partFor flag := by
  have ht : flag.takesText = false := by simp [Flag.takesText, Flag.takesValue, hk]
  by_cases hs : (options.field flag).isTruthy = true
  · simp [switch, partFor, ht, writtenFor, argument?, given?, hk, hs, Argument.written]
  · simp [switch, partFor, ht, writtenFor, argument?, given?, hk, hs]

/-- **The parts are those of all flags, in their order.** -/
theorem parts_eq : options.parts = Flag.all.map options.partFor := by
  simp only [Flag.all, List.map_cons, List.map_nil]
  rw [← options.taking_eq .config rfl (by decide), ← options.taking_eq .chainId rfl (by decide),
    ← options.taking_eq .privateKey rfl (by decide), ← options.taking_eq .gasBoost rfl (by decide),
    ← options.taking_eq .file rfl (by decide), ← options.optional_eq .interval rfl,
    ← options.optional_eq .multicallBatchSize rfl, ← options.optional_eq .minRatio rfl,
    ← options.optional_eq .bumpGasDelay rfl, ← options.optional_eq .startBlock rfl,
    ← options.optional_eq .instanceName rfl, ← options.switch_eq .oneShot rfl, ← options.switch_eq .jsonLog rfl]
  rfl

/-- A flag has its part iff the text that it takes can be shown, if it takes one. -/
theorem partFor_eq_ok {flag : Flag} {part : List Value} : options.partFor flag = .ok part ↔
    (flag.takesText = true → (options.field flag).isShowable = true) ∧ options.writtenFor flag = part := by
  rw [partFor]
  split <;> simp_all

theorem partFor_eq_error {flag : Flag} {fault : Value.Fault} (h : options.partFor flag = .error fault) :
    fault = .numeralTooLong := by
  rw [partFor] at h
  split at h <;> simp_all

/-- **The arguments are the flags that are given**, in their order, each with its value. -/
theorem argv_of_isShowable (h : options.IsShowable) :
    options.argv = .ok (options.arguments.flatMap Argument.written) := by
  have hall : options.arguments.flatMap Argument.written = (Flag.all.map options.writtenFor).flatten := by
    rw [arguments, List.filterMap_eq_flatMap_toList, List.flatMap_assoc, ← List.flatMap_def]
    rfl
  have hparts : options.parts.mapM id = .ok (Flag.all.map options.writtenFor) := by
    rw [Result.mapM_eq_ok, List.map_id, parts_eq, List.map_map]
    exact List.map_congr_left fun flag _ => options.partFor_eq_ok.mpr ⟨h flag, rfl⟩
  rw [argv, hparts, hall]
  rfl

/-- **There are no arguments if the text of a field cannot be shown.** -/
theorem argv_of_not_isShowable (h : ¬options.IsShowable) : options.argv = .error .numeralTooLong := by
  cases hp : options.parts.mapM id with
  | ok parts =>
    have hparts : Flag.all.map options.partFor = parts.map .ok := by
      rw [← parts_eq, ← Result.mapM_eq_ok.mp hp, List.map_id]
    refine absurd (fun flag ht => ?_) h
    obtain ⟨part, -, hpart⟩ := List.mem_map.mp (hparts ▸ List.mem_map_of_mem (Flag.mem_all flag))
    exact (options.partFor_eq_ok.mp hpart.symm).1 ht
  | error fault =>
    obtain ⟨before, part, after, hparts, -, hpart⟩ := Result.mapM_eq_error.mp hp
    rw [parts_eq] at hparts
    obtain ⟨flag, -, rfl⟩ := List.mem_map.mp (hparts ▸ List.mem_append_right before List.mem_cons_self)
    rw [argv, hp, options.partFor_eq_error hpart]
    rfl

/-- What is read from the arguments. -/
theorem readArguments_arguments :
    readArguments (options.arguments.flatMap Argument.written) = some options.arguments := by
  refine readArguments_written fun argument hm => ?_
  exact options.isSome_of_given? ((mem_arguments options).mp hm)

/-! ## Options with the same arguments -/

variable {options} {others : Options}

/-- The same is given for a flag iff the fields agree. The address of the node is told as it is. -/
theorem given?_eq_iff {flag : Flag} : options.given? flag = others.given? flag ↔
    flag.kind.Agree (options.field flag) (others.field flag) ∧ (flag = .url → options.url = others.url) := by
  cases hk : flag.kind with
  | required =>
    by_cases hu : flag = .url
    · subst hu
      have hfield : options.url = others.url → options.url.display = others.url.display := congrArg Value.display
      simpa [given?, hk, passed, Flag.Kind.Agree, field] using hfield
    · simp [given?, hk, passed, Flag.Kind.Agree, hu]
  | optional =>
    have hu : flag ≠ .url := by
      rintro rfl
      cases hk
    by_cases hn : options.field flag = .null
    · by_cases hm : others.field flag = .null
      · simp [given?, hk, Flag.Kind.Agree, hu, hn, hm]
      · simp [given?, hk, Flag.Kind.Agree, hu, hn, hm]
    · by_cases hm : others.field flag = .null
      · simp [given?, hk, Flag.Kind.Agree, hu, hn, hm]
      · simp [given?, hk, Flag.Kind.Agree, hu, hn, hm, passed]
  | switch =>
    have hu : flag ≠ .url := by
      rintro rfl
      cases hk
    cases hx : (options.field flag).isTruthy <;> cases hy : (others.field flag).isTruthy <;>
      simp [given?, hk, Flag.Kind.Agree, hu, hx, hy]

section Showable

variable (h : options.IsShowable) (h' : others.IsShowable)
include h h'

/-- The arguments are told apart by what is given for the flags. -/
theorem argv_eq_iff : options.argv = others.argv ↔ ∀ flag, options.given? flag = others.given? flag := by
  rw [options.argv_of_isShowable h, others.argv_of_isShowable h', Except.ok.injEq]
  constructor
  · intro he flag
    have harguments : options.arguments = others.arguments := by
      rw [← Option.some_inj, ← readArguments_arguments, ← readArguments_arguments, he]
    rw [← found_arguments, ← found_arguments, harguments]
  · intro he
    have hfun : options.argument? = others.argument? := by
      funext flag
      rw [argument?, argument?, he flag]
    rw [arguments, arguments, hfun]

/-- Options have the same arguments iff they have the same address and agree on every flag. -/
theorem argv_eq_iff_agree : options.argv = others.argv ↔
    options.url = others.url ∧ ∀ flag : Flag, flag.kind.Agree (options.field flag) (others.field flag) := by
  simp only [argv_eq_iff h h', given?_eq_iff, forall_and, forall_eq]
  exact and_comm

end Showable

end Options

/-- **The arguments are read back to what the options say.** If the fields can be shown, reading from left to right takes
all arguments and finds no flag twice. What is found for a flag is what the options give for it, and the text of its
value is the text of the field. So two options have the same arguments iff they have the same address of the node and
agree on every flag; where the addresses are texts, agreeing is enough. If the text of a field cannot be shown, there are
no arguments. -/
theorem argv_read_back :
    (∀ options : Options, options.IsShowable → ∃ given arguments,
      options.argv = .ok given ∧ readArguments given = some arguments ∧ (arguments.map Argument.flag).Nodup ∧
        ∀ flag, found arguments flag = options.given? flag ∧
          (options.passed flag).display = (options.field flag).display) ∧
    (∀ options others : Options, options.IsShowable → others.IsShowable → (options.argv = others.argv ↔
      options.url = others.url ∧ ∀ flag : Flag, flag.kind.Agree (options.field flag) (others.field flag))) ∧
    (∀ (options others : Options) (s t : Text), options.IsShowable → others.IsShowable →
      options.url = .string s → others.url = .string t →
        (options.argv = others.argv ↔ ∀ flag : Flag, flag.kind.Agree (options.field flag) (others.field flag))) ∧
    ∀ options : Options, ¬options.IsShowable → options.argv = .error .numeralTooLong := by
  refine ⟨?read, fun options others => Options.argv_eq_iff_agree, ?texts, fun options => options.argv_of_not_isShowable⟩
  case read =>
    intro options hs
    exact ⟨_, options.arguments, options.argv_of_isShowable hs, options.readArguments_arguments,
      options.nodup_arguments, fun flag => ⟨options.found_arguments flag, options.display_passed flag⟩⟩
  case texts =>
    intro options others s t hs hs' hurl hurl'
    rw [Options.argv_eq_iff_agree hs hs', and_iff_right_iff_imp]
    intro hagree
    have hdisplay : options.url.display = others.url.display := hagree .url
    rw [hurl, hurl'] at hdisplay ⊢
    exact congrArg Value.string hdisplay

/-- Options with values that look like flags, a zero and an empty text. -/
def disguised : Options where
  config := "-u"
  url := .string "--one-shot"
  chainId := .int 1
  privateKey := ""
  oneShot := .bool false
  file := .string "--file"
  interval := .int 0
  instanceName := .string ""

/-- The same with a text for the number, and a number for the truth value. -/
def respelled : Options := { disguised with chainId := .string "1", jsonLog := .int 2 }

/-- The same with a number of too many digits. -/
def overlong : Options := { disguised with minRatio := .int (10 ^ Text.maxDigits) }

/-- What looks like a flag is read as a value, and the other spelling has the same arguments. With the long number there
are none. -/
theorem disguised_read_back : disguised.IsShowable ∧ respelled.IsShowable ∧
    disguised.url = .string "--one-shot" ∧ respelled.url = .string "--one-shot" ∧
    disguised.argv = respelled.argv ∧
    (∃ given arguments, disguised.argv = .ok given ∧ readArguments given = some arguments ∧
      found arguments .config = some (some (.string "-u")) ∧ found arguments .oneShot = none ∧
      found arguments .interval = some (some (.string "0")) ∧ found arguments .minRatio = none ∧
      found arguments .instanceName = some (some (.string ""))) ∧
    ¬overlong.IsShowable ∧ overlong.argv = .error .numeralTooLong := by
  obtain ⟨hread, -, hsame, hlong⟩ := argv_read_back
  have hshowable : disguised.IsShowable := by
    intro flag _
    cases flag <;> decide
  have hshowable' : respelled.IsShowable := by
    intro flag _
    cases flag <;> decide
  have hoverlong : ¬overlong.IsShowable := by
    intro h
    exact Value.not_isShowable_pow_ten (Nat.le_refl _) (h .minRatio rfl)
  obtain ⟨given, arguments, hgiven, ha, -, hfound⟩ := hread disguised hshowable
  refine ⟨hshowable, hshowable', rfl, rfl,
    (hsame disguised respelled "--one-shot" "--one-shot" hshowable hshowable' rfl rfl).mpr ?_,
    ⟨given, arguments, hgiven, ha, (hfound .config).1, (hfound .oneShot).1, (hfound .interval).1, (hfound .minRatio).1,
      (hfound .instanceName).1⟩, hoverlong, hlong overlong hoverlong⟩
  intro flag
  cases flag <;> decide

end LiquidationDrill.Launch
