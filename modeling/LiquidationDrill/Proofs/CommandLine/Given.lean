import LiquidationDrill.Proofs.CommandLine.Scan
import Mathlib.Data.List.Basic

/-!
# What flags ask for

A command looks at its flags in the order in which they were first given, each once (`firstGiven_spec`), and takes what
each of them was given as far as it counts (`settingsOf_eq`). So its settings are not in the order of the arguments. But
what only one flag can ask for keeps that order: settings are told apart by a partial function that sees those of one
flag (`Sees`), and what it sees is all that was asked for if the flag is repeatable (`Sees.filterMap_of_repeatable`),
and the last of it otherwise (`Sees.filterMap_of_single`).

Where only one flag was given values that it refuses, the command stops at the first of them that counts
(`settingsOf_eq_error`).
-/

namespace LiquidationDrill.CommandLine

variable {S T : Type}

/-! ## Flags in the order in which they were first given -/

/-- The flags that were given, each once. -/
def firstGiven (flags : List (Flag S)) : List (Flag S) := flags.eraseDupsBy fun a b => a.name = b.name

theorem firstGiven_cons (flag : Flag S) (flags : List (Flag S)) :
    firstGiven (flag :: flags) = flag :: firstGiven (flags.filter fun other => decide (other.name ≠ flag.name)) := by
  rw [firstGiven, List.eraseDupsBy_cons, firstGiven]
  congr 2
  refine List.filter_congr fun other _ => ?_
  simp

/-- They are flags that were given, no two have one name, and every flag that was given has a name of one. -/
theorem firstGiven_spec (flags : List (Flag S)) : firstGiven flags ⊆ flags ∧
    (firstGiven flags).Pairwise (fun a b => a.name ≠ b.name) ∧
      ∀ flag ∈ flags, ∃ first ∈ firstGiven flags, first.name = flag.name := by
  match flags with
  | [] => exact ⟨List.Subset.refl _, List.Pairwise.nil, fun _ h => absurd h List.not_mem_nil⟩
  | flag :: flags =>
    obtain ⟨hsub, hpair, hcover⟩ := firstGiven_spec (flags.filter fun other => decide (other.name ≠ flag.name))
    have hrest {other : Flag S}
        (ho : other ∈ firstGiven (flags.filter fun other => decide (other.name ≠ flag.name))) :
        other ∈ flags ∧ other.name ≠ flag.name := by
      simpa using hsub ho
    rw [firstGiven_cons]
    refine ⟨?_, List.Pairwise.cons (fun other ho => (hrest ho).2.symm) hpair, fun other ho => ?_⟩
    · exact List.cons_subset_cons flag fun other ho => (hrest ho).1
    · by_cases hn : other.name = flag.name
      · exact ⟨flag, List.mem_cons_self, hn.symm⟩
      · have hm : other ∈ flags := (List.mem_cons.mp ho).resolve_left fun e => hn (e ▸ rfl)
        obtain ⟨first, hf, he⟩ := hcover other (List.mem_filter.mpr ⟨hm, by simpa using hn⟩)
        exact ⟨first, List.mem_cons_of_mem flag hf, he⟩
termination_by flags.length
decreasing_by
  have := List.length_filter_le (fun other => decide (other.name ≠ flag.name)) flags
  simp only [List.length_cons]
  omega

section Lists

variable {α β : Type} {l : List α}

/-- What only one item of a list gives, the list gives, if it holds the item once. -/
theorem flatMap_eq_of_nodup {f : α → List β} {a : α} (hl : l.Nodup)
    (hne : ∀ b ∈ l, b ≠ a → f b = []) (hnot : a ∉ l → f a = []) : l.flatMap f = f a := by
  by_cases ha : a ∈ l
  · obtain ⟨before, after, rfl⟩ := List.append_of_mem ha
    obtain ⟨-, hafter, hparted⟩ := List.nodup_append.mp hl
    have hb : before.flatMap f = [] := List.flatMap_eq_nil_iff.mpr fun b hb =>
      hne b (List.mem_append_left _ hb) (hparted b hb a List.mem_cons_self)
    have haf : after.flatMap f = [] := List.flatMap_eq_nil_iff.mpr fun b hb =>
      hne b (List.mem_append_right _ (List.mem_cons_of_mem a hb)) fun e =>
        (List.nodup_cons.mp hafter).1 (e ▸ hb)
    rw [List.flatMap_append, List.flatMap_cons, hb, haf, List.nil_append, List.append_nil]
  · rw [hnot ha, List.flatMap_eq_nil_iff]
    exact fun b hb => hne b hb fun e => ha (e ▸ hb)

/-- Where every item gives something, the last thing given is what the last item gives. -/
theorem filterMap_getLast? {f : α → Option β} (h : ∀ a ∈ l, (f a).isSome = true) :
    l.getLast?.toList.filterMap f = (l.filterMap f).getLast?.toList := by
  rcases List.eq_nil_or_concat l with rfl | ⟨before, a, rfl⟩
  · rfl
  · obtain ⟨b, hb⟩ := Option.isSome_iff_exists.mp (h a (by simp))
    simp [List.filterMap_append, hb]

end Lists

/-! ## What flags were given -/

/-- What was asked for by values that are not refused. -/
def asked (given : List (Given S)) : List S := given.filterMap (·.setting.toOption)

theorem filterMap_asked (f : S → Option T) (given : List (Given S)) :
    (asked given).filterMap f = given.filterMap fun g => g.setting.toOption.bind f := by
  rw [asked, List.filterMap_filterMap]

/-- The times a flag was given, as far as they count. -/
def counted (given : List (Given S)) (flag : Flag S) : List (Given S) :=
  let times := given.filter (·.flag.name = flag.name)
  if flag.isRepeatable then times else times.getLast?.toList

/-- Values that are settings ask for these settings. -/
theorem asked_eq {given : List (Given S)} {settings : List S} (h : given.map Given.setting = settings.map .ok) :
    asked given = settings := by
  have ha : asked given = (given.map Given.setting).filterMap Except.toOption := by
    rw [asked, List.filterMap_map]
    rfl
  have hsome : (Except.toOption ∘ (.ok : S → Except Refusal S)) = some := rfl
  rw [ha, h, List.filterMap_map, hsome, List.filterMap_some]

/-- No value is refused, so all of them ask for something. -/
theorem map_setting_eq {given : List (Given S)} (h : ∀ g ∈ given, ∃ setting, g.setting = .ok setting) :
    given.map Given.setting = (asked given).map .ok := by
  obtain ⟨settings, hs⟩ := Result.exists_map_eq_ok h
  rw [asked_eq hs, hs]

/-- What flags set, flag by flag. -/
def fromFlags (given : List (Given S)) : List S :=
  (firstGiven (given.map Given.flag)).flatMap fun flag => asked (counted given flag)

theorem counted_subset (given : List (Given S)) (flag : Flag S) :
    ∀ g ∈ counted given flag, g ∈ given ∧ g.flag.name = flag.name := by
  intro g hg
  have ht : g ∈ given.filter (·.flag.name = flag.name) := by
    unfold counted at hg
    dsimp only at hg
    split at hg
    · exact hg
    · exact List.mem_of_getLast? (Option.mem_toList.mp hg)
  simpa using ht

/-- A flag sets what it was given, as far as it counts. -/
theorem flagSettings_eq {given : List (Given S)} (h : ∀ g ∈ given, ∃ setting, g.setting = .ok setting)
    (flag : Flag S) : flagSettings given flag = .ok (asked (counted given flag)) := by
  have hc := map_setting_eq fun g hg => h g (counted_subset given flag g hg).1
  refine Result.mapM_eq_ok.mpr ?_
  have hn : (fun setting : S => named flag.name (.ok setting)) = .ok := rfl
  rw [← Function.comp_def, ← List.map_map, ← counted, hc, List.map_map]
  exact congrArg (List.map · _) hn

/-- **A command with an operand sets** what its flags were given, flag by flag, and then what the operand says. -/
theorem settingsOf_eq {command : Command S} {operand : Operand S} {scanned : Scanned S} {value : Text} {last : S}
    (ho : command.operand = some operand) (hr : ∀ flag ∈ command.flags, flag.isRequired = false)
    (hh : scanned.asksHelp = false) (hg : ∀ g ∈ scanned.given, ∃ setting, g.setting = .ok setting)
    (hv : scanned.operands = [value]) (hl : operand.read value = .ok last) :
    command.settingsOf scanned = .ok (fromFlags scanned.given ++ [last]) := by
  have hflags : (firstGiven (scanned.given.map Given.flag)).mapM (flagSettings scanned.given) =
      .ok ((firstGiven (scanned.given.map Given.flag)).map fun flag => asked (counted scanned.given flag)) := by
    refine Result.mapM_eq_ok.mpr ?_
    rw [List.map_map]
    exact List.map_congr_left fun flag _ => flagSettings_eq hg flag
  have hmissing : command.flags.find? (fun flag => flag.isRequired &&
      !(firstGiven (scanned.given.map Given.flag)).any (·.name = flag.name)) = none :=
    List.find?_eq_none.mpr fun flag hf => by simp [hr flag hf]
  have hoperand : operandSettings command.operand scanned.operands = .ok [last] := by
    rw [ho, hv, operandSettings, named_eq_ok.mpr hl]
    rfl
  have hdrop : scanned.operands.drop command.operand.toList.length = [] := by
    rw [ho, hv]
    rfl
  unfold firstGiven at hflags hmissing
  unfold Command.settingsOf
  simp only [hh, hflags, hoperand, hmissing, hdrop]
  rw [fromFlags, List.flatMap_def]
  rfl

/-! ## What one flag was given -/

/-- `f` sees nothing but settings of this flag, which is the only one of its name. -/
structure Sees (f : S → Option T) (given : List (Given S)) (flag : Flag S) : Prop where
  flag_eq : ∀ g ∈ given, g.flag.name = flag.name → g.flag = flag
  eq_none : ∀ g ∈ given, g.flag.name ≠ flag.name → ∀ setting, g.setting = .ok setting → f setting = none

namespace Sees

variable {f : S → Option T} {given : List (Given S)} {flag : Flag S}

/-- What is seen of all flags is what is seen of this one. -/
theorem filterMap_fromFlags (h : Sees f given flag) :
    (fromFlags given).filterMap f = (asked (counted given flag)).filterMap f := by
  obtain ⟨hsub, hpair, hcover⟩ := firstGiven_spec (given.map Given.flag)
  have hnodup : (firstGiven (given.map Given.flag)).Nodup := hpair.imp fun hn e => hn (congrArg Flag.name e)
  rw [fromFlags, List.filterMap_flatMap]
  refine flatMap_eq_of_nodup hnodup (fun other ho hne => ?_) fun hnot => ?_
  · -- another flag has another name, so `f` sees nothing of it
    have hname : other.name ≠ flag.name := fun e => by
      obtain ⟨g, hg, rfl⟩ := List.mem_map.mp (hsub ho)
      exact hne (h.flag_eq g hg e)
    rw [filterMap_asked, List.filterMap_eq_nil_iff]
    intro g hg
    obtain ⟨hgiven, hgn⟩ := counted_subset given other g hg
    cases hs : g.setting with
    | error refusal => rfl
    | ok setting => exact h.eq_none g hgiven (hgn ▸ hname) setting hs
  · have hc : counted given flag = [] := by
      refine List.eq_nil_iff_forall_not_mem.mpr fun g hg => hnot ?_
      obtain ⟨hgiven, hgn⟩ := counted_subset given flag g hg
      obtain ⟨first, hf, hn⟩ := hcover g.flag (List.mem_map_of_mem hgiven)
      obtain ⟨g', hg', rfl⟩ := List.mem_map.mp (hsub hf)
      rwa [← h.flag_eq g' hg' (hn.trans hgn)]
    rw [hc]
    rfl

/-- What is seen of the times that this flag was given is what is seen of all that was given. -/
theorem filterMap_times (h : Sees f given flag) :
    (asked (given.filter (·.flag.name = flag.name))).filterMap f = (asked given).filterMap f := by
  rw [filterMap_asked, filterMap_asked, List.filterMap_filter]
  refine List.filterMap_congr fun g hg => ?_
  by_cases hn : g.flag.name = flag.name
  · simp [hn]
  · cases hs : g.setting with
    | error refusal => simp [Except.toOption]
    | ok setting => simp [Except.toOption, h.eq_none g hg hn setting hs]

/-- **A repeatable flag sets all that it was asked for**, in the order in which it was. -/
theorem filterMap_of_repeatable (h : Sees f given flag) (hr : flag.isRepeatable = true) :
    (fromFlags given).filterMap f = (asked given).filterMap f := by
  rw [h.filterMap_fromFlags, counted, if_pos hr, h.filterMap_times]

/-- **Any other flag sets the last that it was asked for**, if `f` sees all its settings. -/
theorem filterMap_of_single (h : Sees f given flag) (hr : flag.isRepeatable = false)
    (hall : ∀ g ∈ given, g.flag.name = flag.name → (g.setting.toOption.bind f).isSome = true) :
    (fromFlags given).filterMap f = ((asked given).filterMap f).getLast?.toList := by
  have htimes : ∀ g ∈ given.filter (·.flag.name = flag.name), (g.setting.toOption.bind f).isSome = true := by
    intro g hg
    obtain ⟨hg, hn⟩ := List.mem_filter.mp hg
    exact hall g hg (of_decide_eq_true hn)
  rw [h.filterMap_fromFlags, counted, if_neg (by simp [hr]), filterMap_asked, filterMap_getLast? htimes,
    ← filterMap_asked, h.filterMap_times]

end Sees

/-! ## What one flag refuses -/

section Refused

variable {given : List (Given S)} {flag : Flag S}

/-- A flag whose values are not refused sets something. -/
theorem exists_flagSettings (h : ∀ g ∈ given, g.flag.name = flag.name → ∃ setting, g.setting = .ok setting) :
    ∃ settings, flagSettings given flag = .ok settings := by
  cases hf : flagSettings given flag with
  | ok settings => exact ⟨settings, rfl⟩
  | error stop =>
    obtain ⟨before, g, after, hc, -, hg⟩ := Result.mapM_eq_error.mp hf
    have hm : g ∈ counted given flag := by
      rw [counted, hc]
      exact List.mem_append_right before List.mem_cons_self
    obtain ⟨hgiven, hname⟩ := counted_subset given flag g hm
    obtain ⟨setting, hs⟩ := h g hgiven hname
    rw [hs] at hg
    cases hg

/-- **A command stops at what one flag refuses**, if the values of the other flags are not refused and no help is asked
for. -/
theorem settingsOf_eq_error {command : Command S} {scanned : Scanned S} {stop : Stop} (hh : scanned.asksHelp = false)
    (hf : flag ∈ firstGiven (scanned.given.map Given.flag))
    (hothers : ∀ g ∈ scanned.given, g.flag.name ≠ flag.name → ∃ setting, g.setting = .ok setting)
    (he : flagSettings scanned.given flag = .error stop) : command.settingsOf scanned = .error stop := by
  obtain ⟨-, hpair, -⟩ := firstGiven_spec (scanned.given.map Given.flag)
  obtain ⟨before, after, hsplit⟩ := List.append_of_mem hf
  have hflags : (firstGiven (scanned.given.map Given.flag)).mapM (flagSettings scanned.given) = .error stop := by
    refine Result.mapM_eq_error.mpr ⟨before, flag, after, hsplit, ?_, he⟩
    intro other ho
    rw [hsplit] at hpair
    have hne : other.name ≠ flag.name := (List.pairwise_append.mp hpair).2.2 other ho flag List.mem_cons_self
    apply exists_flagSettings
    intro g hg hname
    exact hothers g hg (hname ▸ hne)
  unfold firstGiven at hflags
  unfold Command.settingsOf
  simp only [hh, hflags]
  rfl

end Refused

end LiquidationDrill.CommandLine
