import LiquidationDrill.Proofs.Check.Options
import LiquidationDrill.Proofs.Text.Literal

/-!
# Counts that are asked for

A value of `--count` asks for a number of records with a message iff the message stands before its last equals sign, is
not empty, and a literal of the number follows (`IsCount`, `countSetting_eq_ok`). A numeral holds no equals sign, so a
message and a number that are written this way are read back, whatever stands in the message
(`countSetting_countValue`). The counts of a check are those of the values that its arguments give (`counts_of_asks`),
and a value that asks for none ends the command before the log is looked at (`run_refused`). `counts_decoded` puts this
together.
-/

namespace LiquidationDrill.Check

open CommandLine Scenario

/-! ## Values -/

/-- The value that asks for so many records with the message. -/
def countValue (message : Text) (expected : Int) : Text := message ++ .ofChar '=' :: Text.ofInt expected

/-- A message that is not empty stands before the last equals sign of the value, and a literal of the number after
it. -/
def IsCount (value message : Text) (expected : Int) : Prop :=
  ∃ literal, value = message ++ .ofChar '=' :: literal ∧ .ofChar '=' ∉ literal ∧ message ≠ [] ∧
    Text.SpellsInteger literal expected

section Values

variable {value message : Text} {expected : Int}

/-- **A value sets what it asks for.** -/
theorem countSetting_eq_ok {setting : Setting} : countSetting value = .ok setting ↔
    ∃ message expected, setting = .count message expected ∧ IsCount value message expected := by
  unfold countSetting
  constructor
  · intro h
    split at h
    next c message literal hsplit =>
      split at h
      next n hn =>
        cases h
        obtain ⟨hv, hlast⟩ := Text.splitAtLast?_eq_some.mp hsplit
        exact ⟨c :: message, n, rfl, literal, hv, hlast, List.cons_ne_nil c message, Text.toInt?_eq_some.mp hn⟩
      · cases h
    · cases h
  · rintro ⟨message, expected, rfl, literal, hv, hlast, hne, hn⟩
    obtain ⟨c, message, rfl⟩ := List.exists_cons_of_ne_nil hne
    simp only [Text.splitAtLast?_eq_some.mpr ⟨hv, hlast⟩, Text.toInt?_eq_some.mpr hn]

/-- A value that sets nothing is complained of. -/
theorem countSetting_eq_error {refusal : Refusal} (h : countSetting value = .error refusal) :
    ∃ reason, refusal = .because reason := by
  unfold countSetting at h
  split at h
  · split at h
    · cases h
    · cases h
      exact ⟨_, rfl⟩
  · cases h
    exact ⟨_, rfl⟩

/-- No equals sign stands in a numeral. -/
theorem not_mem_ofInt (n : Int) : .ofChar '=' ∉ Text.ofInt n := by
  have hdigits : .ofChar '=' ∉ Text.ofNat n.natAbs := fun hm => absurd (Text.ofNat_isDigit _ _ hm) (by decide)
  unfold Text.ofInt
  split
  · simpa using hdigits
  · exact hdigits

/-- A message and a number are asked for by the value that is written for them. -/
theorem isCount_countValue (hm : message ≠ []) (hn : (Nat.digits 10 expected.natAbs).length ≤ Text.maxDigits) :
    IsCount (countValue message expected) message expected :=
  ⟨Text.ofInt expected, rfl, not_mem_ofInt expected, hm, Text.spellsInteger_ofInt hn⟩

/-- **They are read back.** -/
theorem countSetting_countValue (hm : message ≠ [])
    (hn : (Nat.digits 10 expected.natAbs).length ≤ Text.maxDigits) :
    countSetting (countValue message expected) = .ok (.count message expected) :=
  countSetting_eq_ok.mpr ⟨message, expected, rfl, isCount_countValue hm hn⟩

end Values

/-! ## Command lines -/

/-- The arguments are well-formed and ask for no help, and what `--count` is given sets what these values set, one by
one. -/
def GivesCounts (arguments values : List Text) : Prop :=
  ∃ rest scanned, group.choose arguments = .ok (.ofString "check", rest) ∧
    scan (command fun _ => none).flags true none rest = .ok scanned ∧ scanned.asksHelp = false ∧
    (scanned.given.filter (·.flag.name = .ofString "--count")).map Given.setting = values.map countSetting

section CommandLines

variable {find? : Text → Option Entry}

/-- The flag that asks for counts. -/
theorem exists_countFlag (find? : Text → Option Entry) : ∃ flag ∈ (command find?).flags,
    flag.name = .ofString "--count" ∧ flag.isRepeatable = true ∧ flag.reader = .one countSetting :=
  ⟨_, List.mem_cons_self, rfl, rfl, rfl⟩

/-- Any values can be given. -/
theorem givesCounts (values operands : List Text) : GivesCounts
    (.ofString "check" :: (values.flatMap (fun value => [.ofString "--count", value]) ++ .ofString "--" :: operands))
    values := by
  obtain ⟨flag, hf, hn, -, hr⟩ := exists_countFlag fun _ => none
  have hspoken : ∀ s ∈ values.map fun value => ([flag.name, value], (⟨flag, countSetting value⟩ : Given Setting)),
      Spoken (command fun _ => none).flags s.1 s.2 := by
    intro s hs
    obtain ⟨value, -, rfl⟩ := List.mem_map.mp hs
    exact .one value (callable hf) hr
  have hscan : scan (command fun _ => none).flags true none _ = _ := scan_all_spoken hspoken operands
  simp only [List.flatMap_map, List.map_map, Function.comp_def, hn] at hscan
  refine ⟨_, _, rfl, hscan, rfl, ?_⟩
  rw [List.filter_eq_self.mpr, List.map_map]
  · rfl
  · intro g hg
    obtain ⟨value, -, rfl⟩ := List.mem_map.mp hg
    simpa using hn

/-- Only counts are refused. -/
theorem ok_of_yields {flag : Flag Setting} (hf : flag ∈ (command find?).flags) (hn : flag.name ≠ .ofString "--count")
    {setting : Except Refusal Setting} (hy : flag.reader.Yields setting) : ∃ s, setting = .ok s := by
  rcases yields_cases hf hy with ⟨hc, -⟩ | ⟨-, allowed, rfl⟩ | ⟨-, id, rfl⟩ | ⟨-, message, rfl⟩
  · exact absurd hc hn
  · exact ⟨_, rfl⟩
  · exact ⟨_, rfl⟩
  · exact ⟨_, rfl⟩

/-- Values that ask for counts set them. -/
theorem map_countSetting {values : List Text} {counts : List (Text × Int)}
    (h : List.Forall₂ (fun value count => IsCount value count.1 count.2) values counts) :
    values.map countSetting = (counts.map fun count => Setting.count count.1 count.2).map .ok := by
  induction h with
  | nil => rfl
  | cons hcount _ ih =>
    rw [List.map_cons, List.map_cons, List.map_cons, ih, countSetting_eq_ok.mpr ⟨_, _, rfl, hcount⟩]

/-- **The counts of a check are those of the values that were given.** -/
theorem counts_of_asks {arguments values : List Text} {counts : List (Text × Int)} {options : Options}
    {bytes : List UInt8} (hg : GivesCounts arguments values)
    (hc : List.Forall₂ (fun value count => IsCount value count.1 count.2) values counts)
    (ha : Asks find? arguments options bytes) : options.counts = counts := by
  obtain ⟨rest, scanned, hchoose, hscan, -, hgiven⟩ := hg
  obtain ⟨rest', scanned', asked, path, hchoose', hscan', -, hasked, rfl, -, -⟩ := ha
  obtain rfl : rest = rest' := by
    rw [hchoose, Except.ok.injEq, Prod.mk.injEq] at hchoose'
    exact hchoose'.2
  obtain rfl : scanned = scanned' := Except.ok.inj (hscan.symm.trans hscan')
  obtain ⟨flag, hf, hn, -, -⟩ := exists_countFlag find?
  have hsees : Sees Setting.count? scanned.given flag := by
    refine sees_of_scan hscan' hf ?_
    intro setting hsome
    cases setting with
    | count message expected => exact congrArg some hn.symm
    | _ => cases hsome
  have htimes := hsees.filterMap_times
  rw [map_countSetting hc] at hgiven
  rw [hn, asked_eq hgiven, asked_eq hasked] at htimes
  rw [Options.of, ← htimes, List.filterMap_map]
  exact List.filterMap_some

/-- The first value that asks for no count is complained of. -/
theorem exists_refused {values : List Text} {value : Text} (hv : value ∈ values)
    (hnot : ∀ message expected, ¬IsCount value message expected) :
    ∃ before refused after reason, values = before ++ refused :: after ∧
      (∀ earlier ∈ before, ∃ message expected, IsCount earlier message expected) ∧
      countSetting refused = .error (.because reason) := by
  cases hmap : values.mapM countSetting with
  | ok settings =>
    have hm : countSetting value ∈ settings.map .ok := Result.mapM_eq_ok.mp hmap ▸ List.mem_map_of_mem hv
    obtain ⟨setting, -, hok⟩ := List.mem_map.mp hm
    obtain ⟨message, expected, -, hcount⟩ := countSetting_eq_ok.mp hok.symm
    exact absurd hcount (hnot message expected)
  | error refusal =>
    obtain ⟨before, refused, after, rfl, hbefore, hrefused⟩ := Result.mapM_eq_error.mp hmap
    obtain ⟨reason, rfl⟩ := countSetting_eq_error hrefused
    refine ⟨before, refused, after, reason, rfl, ?_, hrefused⟩
    intro earlier he
    obtain ⟨setting, hok⟩ := hbefore earlier he
    obtain ⟨message, expected, -, hcount⟩ := countSetting_eq_ok.mp hok
    exact ⟨message, expected, hcount⟩

section Refused

variable {values : List Text} {scanned : Scanned Setting}
  (hg : (scanned.given.filter (·.flag.name = .ofString "--count")).map Given.setting = values.map countSetting)

include hg

/-- A flag that is given values is given. -/
theorem exists_firstGiven (find? : Text → Option Entry) {value : Text} (hv : value ∈ values)
    (hflags : ∀ g ∈ scanned.given, g.flag ∈ (command find?).flags) :
    ∃ flag ∈ firstGiven (scanned.given.map Given.flag), flag.name = .ofString "--count" ∧ flag.isRepeatable = true := by
  obtain ⟨hsub, -, hcover⟩ := firstGiven_spec (scanned.given.map Given.flag)
  have hm : countSetting value ∈ (scanned.given.filter (·.flag.name = .ofString "--count")).map Given.setting := by
    rw [hg]
    exact List.mem_map_of_mem hv
  obtain ⟨g, hm, -⟩ := List.mem_map.mp hm
  have hgiven : g ∈ scanned.given ∧ g.flag.name = .ofString "--count" := by simpa using hm
  obtain ⟨flag, hf, hn⟩ := hcover g.flag (List.mem_map_of_mem hgiven.1)
  have hname : flag.name = .ofString "--count" := hn.trans hgiven.2
  refine ⟨flag, hf, hname, ?_⟩
  obtain ⟨g', hg', rfl⟩ := List.mem_map.mp (hsub hf)
  obtain ⟨counts, hc, hcn, hcr, -⟩ := exists_countFlag find?
  rwa [eq_of_name_eq (hflags g' hg') hc (hname.trans hcn.symm)]

/-- It sets what its values set. -/
theorem flagSettings_counts {flag : Flag Setting} (hn : flag.name = .ofString "--count")
    (hr : flag.isRepeatable = true) :
    flagSettings scanned.given flag = values.mapM fun value => named "--count" (countSetting value) := by
  rw [flagSettings, if_pos hr, hn]
  show List.mapM (named (.ofString "--count") ∘ Given.setting) _ = _
  rw [← List.mapM_map, hg, List.mapM_map]
  rfl

end Refused

/-- **A value that asks for no count stops the command**, whatever is found in the folder: the first such value is
complained of. -/
theorem run_refused {arguments values : List Text} {value : Text} (h : GivesCounts arguments values)
    (hv : value ∈ values) (hnot : ∀ message expected, ¬IsCount value message expected) :
    ∃ before refused after reason, values = before ++ refused :: after ∧
      (∀ earlier ∈ before, ∃ message expected, IsCount earlier message expected) ∧
      countSetting refused = .error (.because reason) ∧
      ∀ find?, run find? arguments = .misused (command find?).usage (.invalidValue "--count" reason) := by
  obtain ⟨rest, scanned, hchoose, hscan, hhelp, hg⟩ := h
  obtain ⟨before, refused, after, reason, rfl, hbefore, hrefused⟩ := exists_refused hv hnot
  refine ⟨before, refused, after, reason, rfl, hbefore, hrefused, ?_⟩
  intro find?
  have hs : scan (command find?).flags true none rest = .ok scanned := hscan
  have hsound := scan_sound (waits_none _) hs
  obtain ⟨flag, hf, hn, hr⟩ := exists_firstGiven hg find? hv fun g hm => (hsound.given g hm).1
  have hstop : flagSettings scanned.given flag = .error (.misuse (.invalidValue "--count" reason)) := by
    rw [flagSettings_counts hg hn hr, Result.mapM_eq_error]
    refine ⟨before, refused, after, rfl, ?_, ?_⟩
    · intro earlier he
      obtain ⟨message, expected, hcount⟩ := hbefore earlier he
      exact ⟨_, named_eq_ok.mpr (countSetting_eq_ok.mpr ⟨message, expected, rfl, hcount⟩)⟩
    · rw [hrefused]
      rfl
  have hsettings : (command find?).settings rest = .error (.misuse (.invalidValue "--count" reason)) := by
    rw [Command.settings, hs]
    refine settingsOf_eq_error hhelp hf ?_ hstop
    intro g hm hne
    obtain ⟨hflag, hy⟩ := hsound.given g hm
    exact ok_of_yields hflag (hn ▸ hne) hy
  simp only [run, hchoose, hsettings]
  rfl

end CommandLines

/-- **Counts are decoded.** A message that is not empty and a number of at most 4300 digits are read back from the value
that is written for them, so no two such pairs share a value. A value is accepted iff a message that is not empty stands
before its last equals sign and a literal of a number after it, and then it asks for these two. A check judges its log
by the counts that its values ask for, on the level of information; and where a value is not accepted, the command ends
with a complaint about the first such value, whatever files there are. -/
theorem counts_decoded :
    (∀ message expected, message ≠ [] → (Nat.digits 10 expected.natAbs).length ≤ 4300 →
      countSetting (countValue message expected) = .ok (.count message expected) ∧
      ∀ message' expected', message' ≠ [] → (Nat.digits 10 expected'.natAbs).length ≤ 4300 →
        countValue message expected = countValue message' expected' → message = message' ∧ expected = expected') ∧
    (∀ value setting, countSetting value = .ok setting ↔
      ∃ message expected, setting = .count message expected ∧ IsCount value message expected) ∧
    (∀ find? arguments values (counts : List (Text × Int)) options bytes, GivesCounts arguments values →
      List.Forall₂ (fun value count => IsCount value count.1 count.2) values counts →
        Asks find? arguments options bytes → run find? arguments = report options.predicates bytes ∧
          ∃ others, options.predicates =
            counts.map (fun count => .count (.string count.1) (.int count.2) .info) ++ others) ∧
    ∀ arguments values value, GivesCounts arguments values → value ∈ values →
      (∀ message expected, ¬IsCount value message expected) →
        ∃ before refused after reason, values = before ++ refused :: after ∧
          (∀ earlier ∈ before, ∃ message expected, IsCount earlier message expected) ∧
          countSetting refused = .error (.because reason) ∧
          ∀ find?, run find? arguments = .misused (command find?).usage (.invalidValue "--count" reason) := by
  refine ⟨?_, fun value setting => countSetting_eq_ok, ?_,
    fun arguments values value h hv hnot => run_refused h hv hnot⟩
  · intro message expected hm hn
    refine ⟨countSetting_countValue hm hn, ?_⟩
    intro message' expected' hm' hn' he
    have hboth := countSetting_countValue hm hn
    rw [he, countSetting_countValue hm' hn'] at hboth
    cases hboth
    exact ⟨rfl, rfl⟩
  · intro find? arguments values counts options bytes hg hc ha
    refine ⟨run_of_asks ha, ?_⟩
    obtain rfl := counts_of_asks hg hc ha
    exact ⟨_, by rw [Options.predicates, List.append_assoc, List.append_assoc]⟩

/-- The value is white space, a sign, digits of two scripts with an underscore between them, and white space again. -/
def mixedValue : Text := "bought=\u00A0+1_٣ "

theorem mixedValue_set : countSetting mixedValue = .ok (.count (.ofString "bought") 13) := by rfl

theorem mixedValue_asked : Asks (holding []) ["check", "--count", mixedValue, "--", "log"]
    ⟨[(.ofString "bought", 13)], [], [], none⟩ [] := by
  have hscan : ∃ scanned, scan (command (holding [])).flags true none ["--count", mixedValue, "--", "log"] =
      .ok scanned ∧ scanned.asksHelp = false ∧ scanned.given.map Given.setting = [countSetting mixedValue] ∧
      scanned.operands = [.ofString "log"] := ⟨_, rfl, rfl, rfl, rfl⟩
  obtain ⟨scanned, hs, hh, hg, ho⟩ := hscan
  rw [mixedValue_set] at hg
  exact ⟨_, scanned, [.count (.ofString "bought") 13], .ofString "log", rfl, hs, hh, hg, rfl, ho, rfl⟩

/-- A message with an equals sign and a negative number are read back; a value of two scripts is a count; and one with
two underscores in a row is complained of. -/
theorem mixedValue_decoded :
    countSetting (countValue "a=1" (-12)) = .ok (.count (.ofString "a=1") (-12)) ∧ IsCount mixedValue "bought" 13 ∧
    (∃ others, run (holding []) ["check", "--count", mixedValue, "--", "log"] =
      report (.count (.string "bought") (.int 13) .info :: others) []) ∧
    ∃ reason, ∀ find?, run find? ["check", "--count", "bought=1__3", "--", "log"] =
      .misused (command find?).usage (.invalidValue "--count" reason) := by
  obtain ⟨hwritten, haccepted, hjudged, hrefused⟩ := counts_decoded
  have hcount : IsCount mixedValue "bought" 13 := by
    obtain ⟨message, expected, he, hc⟩ := (haccepted _ _).mp mixedValue_set
    cases he
    exact hc
  have hnot : ∀ message expected, ¬IsCount "bought=1__3" message expected := by
    intro message expected hc
    have hok := (haccepted _ _).mpr ⟨message, expected, rfl, hc⟩
    have herror : (countSetting "bought=1__3").isOk = false := by decide +kernel
    rw [hok] at herror
    cases herror
  refine ⟨(hwritten _ _ (by decide) (by simp)).1, hcount, ?_, ?_⟩
  · obtain ⟨hrun, others, hpredicates⟩ := hjudged _ _ _ [(.ofString "bought", 13)] _ _
      (givesCounts [mixedValue] [.ofString "log"]) (.cons hcount .nil) mixedValue_asked
    rw [hpredicates] at hrun
    exact ⟨others, hrun⟩
  · obtain ⟨-, -, -, reason, -, -, -, hrun⟩ := hrefused _ _ _ (givesCounts [.ofString "bought=1__3"] [.ofString "log"])
      List.mem_cons_self hnot
    exact ⟨reason, hrun⟩

end LiquidationDrill.Check
