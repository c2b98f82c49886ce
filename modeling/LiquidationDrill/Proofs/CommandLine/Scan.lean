import LiquidationDrill.CommandLine.Arguments
import LiquidationDrill.Proofs.Result

/-!
# What scanned arguments hold

Scanning invents nothing: what it gives for a flag is what the reader of that flag says of some values
(`Reader.Yields`), and its operands are arguments (`scan_sound`). From this, every setting of a command is that of a
flag's value or of the operand (`settings_sound`). Nor does it miss anything: flags with any values after them are
found with these values (`scan_all_spoken`).
-/

namespace LiquidationDrill.CommandLine

variable {S : Type}

/-- A reader says this of some values. -/
def Reader.Yields : Reader S → Except Refusal S → Prop
  | .one read, setting => ∃ value, setting = read value
  | .two read, setting => ∃ value value', setting = read value value'

/-- A flag that is waiting for values is one of the flags, and what it will say its own reader says. -/
def Waits (flags : List (Flag S)) (waiting : Option (Flag S × Reader S)) : Prop :=
  ∀ flag reader, waiting = some (flag, reader) →
    flag ∈ flags ∧ ∀ setting, reader.Yields setting → flag.reader.Yields setting

theorem waits_none (flags : List (Flag S)) : Waits flags none := fun _ _ h => by cases h

/-- After the first of two values the reader waits for the second one. -/
theorem Waits.second {flags : List (Flag S)} {flag : Flag S} {read : Text → Text → Except Refusal S}
    (h : Waits flags (some (flag, .two read))) (value : Text) :
    Waits flags (some (flag, .one (read value))) := by
  intro flag' reader' he
  cases he
  obtain ⟨hm, hy⟩ := h flag _ rfl
  refine ⟨hm, fun setting hs => hy setting ?_⟩
  obtain ⟨value', rfl⟩ := hs
  exact ⟨value, value', rfl⟩

/-- What scanning found was said by flags of the command, and its operands are arguments. -/
structure Scanned.Sound (flags : List (Flag S)) (arguments : List Text) (scanned : Scanned S) : Prop where
  given : ∀ given ∈ scanned.given, given.flag ∈ flags ∧ given.flag.reader.Yields given.setting
  operands : scanned.operands ⊆ arguments

namespace Scanned.Sound

variable {flags : List (Flag S)} {arguments : List Text} {scanned : Scanned S}

theorem cons (h : Sound flags arguments scanned) (argument : Text) : Sound flags (argument :: arguments) scanned :=
  ⟨h.given, fun _ ho => List.mem_cons_of_mem argument (h.operands ho)⟩

theorem give (h : Sound flags arguments scanned) {flag : Flag S} {setting : Except Refusal S} (hf : flag ∈ flags)
    (hs : flag.reader.Yields setting) : Sound flags arguments (scanned.give ⟨flag, setting⟩) :=
  ⟨List.forall_mem_cons.mpr ⟨⟨hf, hs⟩, h.given⟩, h.operands⟩

theorem askHelp (h : Sound flags arguments scanned) : Sound flags arguments scanned.askHelp := ⟨h.given, h.operands⟩

theorem operate (h : Sound flags arguments scanned) (argument : Text) :
    Sound flags (argument :: arguments) (scanned.operate argument) :=
  ⟨h.given, List.cons_subset_cons argument h.operands⟩

end Scanned.Sound

/-- **Scanning finds nothing but what flags say and arguments.** -/
theorem scan_sound {flags : List (Flag S)} {mixed : Bool} {waiting : Option (Flag S × Reader S)}
    {arguments : List Text} {scanned : Scanned S} (hw : Waits flags waiting)
    (h : scan flags mixed waiting arguments = .ok scanned) : scanned.Sound flags arguments := by
  fun_induction scan flags mixed waiting arguments generalizing scanned
  case case1 =>
    cases h
    exact ⟨fun _ hg => absurd hg List.not_mem_nil, List.Subset.refl []⟩
  case case3 flag read value rest ih =>
    -- the last value of a flag
    obtain ⟨scanned, hr, rfl⟩ := Result.map_eq_ok.mp h
    obtain ⟨hm, hy⟩ := hw flag _ rfl
    exact ((ih (waits_none flags) hr).cons value).give hm (hy _ ⟨value, rfl⟩)
  case case4 flag read value rest ih => exact (ih (hw.second value) h).cons value
  case case5 rest =>
    cases h
    exact ⟨fun _ hg => absurd hg List.not_mem_nil, List.subset_cons_self _ rest⟩
  case case6 ih =>
    obtain ⟨scanned, hr, rfl⟩ := Result.map_eq_ok.mp h
    exact ((ih hw hr).cons _).askHelp
  case case9 flag hf _ ih =>
    refine (ih ?_ h).cons _
    intro flag' reader' he
    cases he
    exact ⟨List.mem_of_find?_eq_some hf, fun _ hs => hs⟩
  case case10 flag value hf read hr _ ih =>
    obtain ⟨scanned, hs, rfl⟩ := Result.map_eq_ok.mp h
    refine ((ih hw hs).cons _).give (List.mem_of_find?_eq_some hf) ?_
    rw [hr]
    exact ⟨value, rfl⟩
  case case11 flag value hf read hr _ ih =>
    refine (ih (Waits.second ?_ value) h).cons _
    intro flag' reader' he
    cases he
    exact ⟨List.mem_of_find?_eq_some hf, fun _ hs => hr ▸ hs⟩
  case case12 argument rest _ _ _ ih =>
    obtain ⟨scanned, hr, rfl⟩ := Result.map_eq_ok.mp h
    exact (ih hw hr).operate argument
  case case13 argument rest _ _ _ =>
    cases h
    exact ⟨fun _ hg => absurd hg List.not_mem_nil, List.Subset.refl _⟩
  case case2 | case7 | case8 => cases h

/-! ## Flags with their values after them -/

/-- The name of the flag calls the flag, and holds no value of it. -/
structure Callable (flags : List (Flag S)) (flag : Flag S) : Prop where
  isFlag : isFlag flag.name = true
  ne_end : flag.name ≠ "--"
  ne_help : flag.name ≠ helpFlag
  whole : splitFlag flag.name = (flag.name, none)
  found : flags.find? (·.name = flag.name) = some flag

/-- A flag and its values, which are whatever arguments come next. -/
inductive Spoken (flags : List (Flag S)) : List Text → Given S → Prop
  | one {flag : Flag S} {read : Text → Except Refusal S} (value : Text) :
      Callable flags flag → flag.reader = .one read → Spoken flags [flag.name, value] ⟨flag, read value⟩
  | two {flag : Flag S} {read : Text → Text → Except Refusal S} (value value' : Text) :
      Callable flags flag → flag.reader = .two read →
        Spoken flags [flag.name, value, value'] ⟨flag, read value value'⟩

variable {flags : List (Flag S)} {mixed : Bool}

/-- After its name a flag waits for its values. -/
theorem scan_name {flag : Flag S} (h : Callable flags flag) (rest : List Text) :
    scan flags mixed none (flag.name :: rest) = scan flags mixed (some (flag, flag.reader)) rest := by
  rw [scan, if_neg h.ne_end, if_pos h.isFlag, h.whole]
  dsimp only
  rw [if_neg h.ne_help, h.found]

theorem scan_spoken {words : List Text} {given : Given S} (h : Spoken flags words given) (rest : List Text) :
    scan flags mixed none (words ++ rest) = (scan flags mixed none rest).map (·.give given) := by
  cases h with
  | one value hc hr =>
    rw [List.cons_append, scan_name hc, hr]
    rfl
  | two value value' hc hr =>
    rw [List.cons_append, scan_name hc, hr]
    rfl

/-- **Flags that are given with their values after them are found**, and after `--` come the operands. -/
theorem scan_all_spoken {spoken : List (List Text × Given S)} (h : ∀ s ∈ spoken, Spoken flags s.1 s.2)
    (operands : List Text) :
    scan flags mixed none (spoken.flatMap Prod.fst ++ .ofString "--" :: operands) =
      .ok { given := spoken.map Prod.snd, operands } := by
  induction spoken with
  | nil =>
    rw [List.flatMap_nil, List.nil_append, scan, if_pos rfl]
    rfl
  | cons s spoken ih =>
    obtain ⟨hs, hspoken⟩ := List.forall_mem_cons.mp h
    rw [List.flatMap_cons, List.append_assoc, scan_spoken hs, ih hspoken]
    rfl

/-! ## Settings -/

/-- A value that is not refused is a setting. -/
theorem named_eq_ok {name : Text} {result : Except Refusal S} {setting : S} :
    named name result = .ok setting ↔ result = .ok setting := by
  unfold named
  split <;> simp

/-- What a flag sets the flag says of some values. -/
theorem flagSettings_sound {flags : List (Flag S)} {arguments : List Text} {scanned : Scanned S}
    (hs : scanned.Sound flags arguments) {flag : Flag S} {settings : List S}
    (h : flagSettings scanned.given flag = .ok settings) {setting : S} (hm : setting ∈ settings) :
    ∃ flag ∈ flags, flag.reader.Yields (.ok setting) := by
  obtain ⟨given, hg, hn⟩ := Result.mem_of_mapM_eq_ok h hm
  have hgiven : given ∈ scanned.given := by
    split at hg
    · exact (List.mem_filter.mp hg).1
    · exact (List.mem_filter.mp (List.mem_of_getLast? (Option.mem_toList.mp hg))).1
  obtain ⟨hf, hy⟩ := hs.given given hgiven
  exact ⟨given.flag, hf, named_eq_ok.mp hn ▸ hy⟩

/-- **The settings of a command with an operand** are what its flags say, and then what the one operand sets. -/
theorem settings_sound {command : Command S} {operand : Operand S} (ho : command.operand = some operand)
    {arguments : List Text} {settings : List S} (h : command.settings arguments = .ok settings) :
    ∃ fromFlags last, settings = fromFlags ++ [last] ∧
      (∀ setting ∈ fromFlags, ∃ flag ∈ command.flags, flag.reader.Yields (.ok setting)) ∧
      ∃ value ∈ arguments, operand.read value = .ok last := by
  unfold Command.settings at h
  split at h
  · cases h
  next scanned hscan =>
    have hsound := scan_sound (waits_none command.flags) hscan
    unfold Command.settingsOf at h
    dsimp only at h
    split at h
    · cases h
    obtain ⟨fromFlags, hflags, h⟩ := Result.bind_eq_ok.mp h
    obtain ⟨fromOperand, hoperand, h⟩ := Result.bind_eq_ok.mp h
    split at h
    · cases h
    split at h
    case h_2 => cases h
    case h_1 hdrop =>
      cases h
      rw [ho] at hoperand
      unfold operandSettings at hoperand
      split at hoperand
      · contradiction
      · cases hoperand
      next found value _ hfound hops =>
        cases hfound
        obtain ⟨last, hlast, rfl⟩ := Result.map_eq_ok.mp hoperand
        refine ⟨fromFlags.flatten, last, rfl, fun setting hm => ?_, value, ?_, named_eq_ok.mp hlast⟩
        · obtain ⟨part, hp, hm⟩ := List.mem_flatten.mp hm
          obtain ⟨flag, -, hf⟩ := Result.mem_of_mapM_eq_ok hflags hp
          exact flagSettings_sound hsound hf hm
        · exact hsound.operands (hops ▸ List.mem_cons_self)

end LiquidationDrill.CommandLine
