import LiquidationDrill.Proofs.Check.Ending
import LiquidationDrill.Proofs.CommandLine.Given
import Mathlib.Data.List.Nodup

/-!
# What the flags of a check ask for

The flags ask for counts, allowed errors, excluded vaults and a last message (`Options`). Whatever order they are given
in (`Asks`), the command judges the log by the counts, then the errors, then the vaults, then the last message, and
those of one kind keep their order (`run_of_asks`): what sees only settings of one flag sees them in the order in which
they were asked for (`sees_of_scan`). Options that can be asked for one by one can be asked for together
(`exists_asks`).
-/

namespace LiquidationDrill.Check

open CommandLine Scenario

/-! ## Options -/

/-- What is asked of a log. -/
structure Options where
  /-- Messages, and how many records with each there have to be. -/
  counts : List (Text × Int)
  allowed : List AllowedError
  excluded : List Text
  final : Option Text

/-- The predicates that options describe. -/
def Options.predicates (options : Options) : List Predicate :=
  options.counts.map (fun (message, expected) => .count message (.int expected) .info) ++
    [.noUnexpectedErrors options.allowed] ++
    options.excluded.map (fun id => .vaultExcluded id liquidation) ++
    options.final.toList.map fun message => .finalMessage message

/-- What the predicates of options are about. -/
theorem Options.mem_predicates {options : Options} {predicate : Predicate} :
    predicate ∈ options.predicates ↔
      (∃ message expected, (message, expected) ∈ options.counts ∧
        predicate = .count (.string message) (.int expected) .info) ∨
      predicate = .noUnexpectedErrors options.allowed ∨
      (∃ id ∈ options.excluded, predicate = .vaultExcluded (.string id) (.string liquidation)) ∨
      ∃ message ∈ options.final, predicate = .finalMessage (.string message) := by
  simp only [Options.predicates, List.mem_append, List.mem_map, List.mem_singleton, Option.mem_toList, Prod.exists,
    or_assoc, eq_comm]
  rfl

/-- The vaults in the predicates are those that are excluded. -/
theorem Options.exists_excluded {options : Options} {vaultId message : Value}
    (h : .vaultExcluded vaultId message ∈ options.predicates) : ∃ id ∈ options.excluded, vaultId = .string id := by
  rcases Options.mem_predicates.mp h with ⟨_, _, -, he⟩ | he | ⟨id, hid, he⟩ | ⟨_, -, he⟩
  all_goals cases he
  exact ⟨id, hid, rfl⟩

/-- The counts in the predicates are numbers. -/
theorem Options.exists_number {options : Options} {message expected : Value} {level : Level}
    (h : .count message expected level ∈ options.predicates) : ∃ n : Int, expected = .int n := by
  rcases Options.mem_predicates.mp h with ⟨_, n, -, he⟩ | he | ⟨_, -, he⟩ | ⟨_, -, he⟩
  all_goals cases he
  exact ⟨n, rfl⟩

namespace Setting

def count? : Setting → Option (Text × Int)
  | count message expected => some (message, expected)
  | _ => none

def allow? : Setting → Option AllowedError
  | allow allowed => some allowed
  | _ => none

def exclude? : Setting → Option Text
  | exclude vaultId => some vaultId
  | _ => none

def final? : Setting → Option Text
  | final message => some message
  | _ => none

/-- The flag that sets a setting. -/
def flagName? : Setting → Option Text
  | logFile _ => none
  | count _ _ => some "--count"
  | allow _ => some "--allow-error"
  | exclude _ => some "--exclude-vault"
  | final _ => some "--final-message"

end Setting

/-- The options that settings describe, given in this order. The last one of several last messages counts. -/
def Options.of (asked : List Setting) : Options where
  counts := asked.filterMap Setting.count?
  allowed := asked.filterMap Setting.allow?
  excluded := asked.filterMap Setting.exclude?
  final := (asked.filterMap Setting.final?).getLast?

/-- Settings describe the predicates of options if they agree with them kind by kind. -/
theorem predicates_eq {settings : List Setting} {options : Options}
    (hc : settings.filterMap Setting.count? = options.counts)
    (ha : settings.filterMap Setting.allow? = options.allowed)
    (he : settings.filterMap Setting.exclude? = options.excluded)
    (hf : settings.filterMap Setting.final? = options.final.toList) : predicates settings = options.predicates := by
  rw [Options.predicates, ← hc, ← ha, ← he, ← hf, List.map_filterMap, List.map_filterMap, List.map_filterMap,
    predicates]
  congr 1
  · congr 1
    · congr 1
      · refine List.filterMap_congr fun setting _ => ?_
        cases setting <;> rfl
    · refine List.filterMap_congr fun setting _ => ?_
      cases setting <;> rfl
  · refine List.filterMap_congr fun setting _ => ?_
    cases setting <;> rfl

/-! ## Command lines -/

variable {find? : Text → Option Entry}

/-- A flag of this name sets what its values say. -/
theorem flagName?_of_yields {flag : Flag Setting} (hf : flag ∈ (command find?).flags) {setting : Setting}
    (hy : flag.reader.Yields (.ok setting)) : setting.flagName? = some flag.name := by
  rcases yields_cases hf hy with ⟨hn, value, h⟩ | ⟨hn, allowed, h⟩ | ⟨hn, id, h⟩ | ⟨hn, message, h⟩
  · obtain ⟨message, expected, rfl, -⟩ := exists_count h.symm
    rw [hn, Setting.flagName?]
  · cases h
    rw [hn, Setting.flagName?]
  · cases h
    rw [hn, Setting.flagName?]
  · cases h
    rw [hn, Setting.flagName?]

/-- The flags are told apart by their names. -/
theorem eq_of_name_eq {a b : Flag Setting} (ha : a ∈ (command find?).flags) (hb : b ∈ (command find?).flags)
    (h : a.name = b.name) : a = b := by
  have hn : ((command find?).flags.map Flag.name).Nodup :=
    show ([("--count" : Text), "--allow-error", "--exclude-vault", "--final-message"]).Nodup by decide
  exact List.inj_on_of_nodup_map hn ha hb h

/-- The arguments are well-formed, ask for these options, and name a file with these bytes. -/
def Asks (find? : Text → Option Entry) (arguments : List Text) (options : Options) (bytes : List UInt8) : Prop :=
  ∃ rest scanned asked path, group.choose arguments = .ok (.ofString "check", rest) ∧
    scan (command find?).flags true none rest = .ok scanned ∧ scanned.asksHelp = false ∧
    scanned.given.map Given.setting = asked.map .ok ∧ Options.of asked = options ∧
    scanned.operands = [path] ∧ logFileSetting find? path = .ok (.logFile bytes)

/-- What sees only settings of one flag sees only what that flag was given. -/
theorem sees_of_scan {rest : List Text} {scanned : Scanned Setting}
    (hs : scan (command find?).flags true none rest = .ok scanned) {T : Type} {see : Setting → Option T}
    {flag : Flag Setting} (hf : flag ∈ (command find?).flags)
    (h : ∀ setting, (see setting).isSome = true → setting.flagName? = some flag.name) :
    Sees see scanned.given flag := by
  have hsound := scan_sound (waits_none _) hs
  refine ⟨fun g hg hn => eq_of_name_eq (hsound.given g hg).1 hf hn, fun g hg hn setting hset => ?_⟩
  obtain ⟨hm, hy⟩ := hsound.given g hg
  by_contra hsome
  have hname := h setting (Option.isSome_iff_ne_none.mpr hsome)
  rw [flagName?_of_yields hm (hset ▸ hy)] at hname
  exact hn (Option.some.inj hname)

section Settings

variable {rest : List Text} {scanned : Scanned Setting} {settings : List Setting}
  (hs : scan (command find?).flags true none rest = .ok scanned)
  (hg : scanned.given.map Given.setting = settings.map .ok)

theorem filterMap_settings {T : Type} {see : Setting → Option T} {name : Text}
    (h : ∀ setting, (see setting).isSome = true → setting.flagName? = some name) (fromFlags : List Setting)
    (bytes : List UInt8) : (fromFlags ++ [Setting.logFile bytes]).filterMap see = fromFlags.filterMap see := by
  have hlog : see (.logFile bytes) = none := by
    by_contra hsome
    cases h _ (Option.isSome_iff_ne_none.mpr hsome)
  rw [List.filterMap_append, List.filterMap_cons_none hlog, List.filterMap_nil, List.append_nil]

include hs hg

/-- What a repeatable flag sets is what it was asked for. -/
theorem settings_of_repeatable {T : Type} {see : Setting → Option T} {name : Text}
    (hf : ∃ flag ∈ (command find?).flags, flag.name = name ∧ flag.isRepeatable = true)
    (h : ∀ setting, (see setting).isSome = true → setting.flagName? = some name) (bytes : List UInt8) :
    (fromFlags scanned.given ++ [Setting.logFile bytes]).filterMap see = settings.filterMap see := by
  obtain ⟨flag, hm, rfl, hr⟩ := hf
  rw [filterMap_settings h, (sees_of_scan hs hm h).filterMap_of_repeatable hr, asked_eq hg]

/-- The last message that was asked for is the one that is set. -/
theorem settings_final (bytes : List UInt8) :
    (fromFlags scanned.given ++ [Setting.logFile bytes]).filterMap Setting.final? =
      (settings.filterMap Setting.final?).getLast?.toList := by
  obtain ⟨flag, hm, hn, hr, hy⟩ : ∃ flag ∈ (command find?).flags, flag.name = "--final-message" ∧
      flag.isRepeatable = false ∧ ∀ setting, flag.reader.Yields setting → ∃ message, setting = .ok (.final message) :=
    ⟨_, List.mem_cons_of_mem _ (List.mem_cons_of_mem _ (List.mem_cons_of_mem _ List.mem_cons_self)), rfl, rfl,
      fun _ hy => hy⟩
  have h (setting : Setting) (hsome : setting.final?.isSome = true) : setting.flagName? = some flag.name := by
    rw [hn]
    cases setting with
    | final message => rfl
    | _ => cases hsome
  have hsound := scan_sound (waits_none _) hs
  have hall : ∀ g ∈ scanned.given, g.flag.name = flag.name →
      (g.setting.toOption.bind Setting.final?).isSome = true := by
    intro g hg hname
    obtain ⟨hm', hy'⟩ := hsound.given g hg
    rw [eq_of_name_eq hm' hm hname] at hy'
    obtain ⟨message, he⟩ := hy _ hy'
    rw [he]
    rfl
  rw [filterMap_settings h, (sees_of_scan hs hm h).filterMap_of_single hr hall, asked_eq hg]

/-- The settings describe the predicates of the options. -/
theorem predicates_of_scan (bytes : List UInt8) :
    predicates (fromFlags scanned.given ++ [.logFile bytes]) = (Options.of settings).predicates := by
  refine predicates_eq ?_ ?_ ?_ (settings_final hs hg bytes)
  · have hf : ∃ flag ∈ (command find?).flags, flag.name = "--count" ∧ flag.isRepeatable = true :=
      ⟨_, List.mem_cons_self, rfl, rfl⟩
    refine settings_of_repeatable hs hg hf (fun setting h => ?_) bytes
    cases setting with
    | count message expected => rfl
    | _ => cases h
  · have hf : ∃ flag ∈ (command find?).flags, flag.name = "--allow-error" ∧ flag.isRepeatable = true :=
      ⟨_, List.mem_cons_of_mem _ List.mem_cons_self, rfl, rfl⟩
    refine settings_of_repeatable hs hg hf (fun setting h => ?_) bytes
    cases setting with
    | allow allowed => rfl
    | _ => cases h
  · have hf : ∃ flag ∈ (command find?).flags, flag.name = "--exclude-vault" ∧ flag.isRepeatable = true :=
      ⟨_, List.mem_cons_of_mem _ (List.mem_cons_of_mem _ List.mem_cons_self), rfl, rfl⟩
    refine settings_of_repeatable hs hg hf (fun setting h => ?_) bytes
    cases setting with
    | exclude id => rfl
    | _ => cases h

end Settings

/-- Arguments that ask for options set what describes their predicates. -/
theorem exists_settings {arguments : List Text} {options : Options} {bytes : List UInt8}
    (h : Asks find? arguments options bytes) :
    ∃ rest settings, group.choose arguments = .ok (.ofString "check", rest) ∧
      (command find?).settings rest = .ok settings ∧ .logFile bytes ∈ settings ∧
      predicates settings = options.predicates := by
  obtain ⟨rest, scanned, settings, path, hc, hs, hh, hg, rfl, hv, hl⟩ := h
  have hok : ∀ g ∈ scanned.given, ∃ setting, g.setting = .ok setting := fun g hm => by
    have hmem : g.setting ∈ settings.map .ok := hg ▸ List.mem_map_of_mem hm
    obtain ⟨setting, -, he⟩ := List.mem_map.mp hmem
    exact ⟨setting, he.symm⟩
  have hset : (command find?).settings rest = .ok (fromFlags scanned.given ++ [.logFile bytes]) := by
    rw [Command.settings, hs]
    exact settingsOf_eq rfl (by simp [command]) hh hok hv hl
  exact ⟨rest, _, hc, hset, List.mem_append_right _ List.mem_cons_self, predicates_of_scan hs hg bytes⟩

/-- **The log is judged by the predicates that options describe**, if the arguments ask for these options. -/
theorem run_of_asks {arguments : List Text} {options : Options} {bytes : List UInt8}
    (h : Asks find? arguments options bytes) : run find? arguments = report options.predicates bytes := by
  obtain ⟨rest, settings, hc, hset, hlog, hp⟩ := exists_settings h
  obtain ⟨-, -, bytes', -, hbytes, hsettled⟩ := settled_eq hset
  obtain rfl := (hbytes bytes).mp hlog
  rw [hp] at hsettled
  simp only [run, hc, hset, hsettled]

/-- All predicates of options that are asked for have names. -/
theorem all_isNameable_of_asks {arguments : List Text} {options : Options} {bytes : List UInt8}
    (h : Asks find? arguments options bytes) : options.predicates.all Predicate.isNameable = true := by
  obtain ⟨rest, settings, -, hset, -, hp⟩ := exists_settings h
  rw [← hp]
  exact all_isNameable fun _ _ hm => isShowable_of_settings hset hm

/-! ## Any options can be asked for -/

/-- The settings of options. -/
def Options.settings (options : Options) : List Setting :=
  options.counts.map (fun count => .count count.1 count.2) ++ options.allowed.map .allow ++
    options.excluded.map .exclude ++ options.final.toList.map .final

theorem Options.of_settings (options : Options) : Options.of options.settings = options := by
  obtain ⟨counts, allowed, excluded, final⟩ := options
  cases final <;>
    simp [Options.of, Options.settings, List.filterMap_append, List.filterMap_map, Function.comp_def, Setting.count?,
      Setting.allow?, Setting.exclude?, Setting.final?]

/-- The flags of the command are called by their names. -/
theorem callable {flag : Flag Setting} (hf : flag ∈ (command find?).flags) : Callable (command find?).flags flag := by
  simp only [command, List.mem_cons, List.not_mem_nil, or_false] at hf
  rcases hf with rfl | rfl | rfl | rfl
  · exact ⟨by decide, by decide, by decide, by decide, rfl⟩
  · exact ⟨by decide, by decide, by decide, by decide, rfl⟩
  · exact ⟨by decide, by decide, by decide, by decide, rfl⟩
  · exact ⟨by decide, by decide, by decide, by decide, rfl⟩

/-- The settings of flags can be spoken one after the other. -/
theorem exists_spoken {settings : List Setting}
    (h : ∀ setting ∈ settings, ∃ words given, Spoken (command find?).flags words given ∧ given.setting = .ok setting) :
    ∃ spoken : List (List Text × Given Setting), (∀ s ∈ spoken, Spoken (command find?).flags s.1 s.2) ∧
      (spoken.map Prod.snd).map Given.setting = settings.map .ok := by
  induction settings with
  | nil => exact ⟨[], fun _ hs => absurd hs List.not_mem_nil, rfl⟩
  | cons setting settings ih =>
    obtain ⟨⟨words, given, hs, hg⟩, hrest⟩ := List.forall_mem_cons.mp h
    obtain ⟨spoken, hall, hmap⟩ := ih hrest
    refine ⟨(words, given) :: spoken, List.forall_mem_cons.mpr ⟨hs, hall⟩, ?_⟩
    rw [List.map_cons, List.map_cons, List.map_cons, hmap, hg]

/-- **Whatever options can be asked for one by one can be asked for together.** -/
theorem exists_asks {options : Options} {path : Text} {bytes : List UInt8}
    (hc : ∀ count ∈ options.counts, ∃ value, countSetting value = .ok (.count count.1 count.2))
    (ha : ∀ allowed ∈ options.allowed, ∃ message piece, allowSetting message piece = .ok (.allow allowed))
    (hp : logFileSetting find? path = .ok (.logFile bytes)) : ∃ arguments, Asks find? arguments options bytes := by
  have hwords : ∀ setting ∈ options.settings, ∃ words given,
      Spoken (command find?).flags words given ∧ given.setting = .ok setting := by
    intro setting hm
    simp only [Options.settings, List.mem_append, List.mem_map, Option.mem_toList] at hm
    rcases hm with ((⟨count, hm, rfl⟩ | ⟨allowed, hm, rfl⟩) | ⟨id, -, rfl⟩) | ⟨message, -, rfl⟩
    · obtain ⟨value, hv⟩ := hc count hm
      exact ⟨_, _, .one value (callable List.mem_cons_self) rfl, hv⟩
    · obtain ⟨message, piece, hv⟩ := ha allowed hm
      exact ⟨_, _, .two message piece (callable (List.mem_cons_of_mem _ List.mem_cons_self)) rfl, hv⟩
    · exact ⟨_, _, .one id (callable (List.mem_cons_of_mem _ (List.mem_cons_of_mem _ List.mem_cons_self))) rfl, rfl⟩
    · exact ⟨_, _, .one message (callable (List.mem_cons_of_mem _
        (List.mem_cons_of_mem _ (List.mem_cons_of_mem _ List.mem_cons_self)))) rfl, rfl⟩
  obtain ⟨spoken, hspoken, hmap⟩ := exists_spoken hwords
  exact ⟨.ofString "check" :: (spoken.flatMap Prod.fst ++ .ofString "--" :: [path]), _, _, options.settings, path, rfl,
    scan_all_spoken hspoken [path], rfl, hmap, options.of_settings, rfl, hp⟩

end LiquidationDrill.Check
