import LiquidationDrill.Launch.Inputs
import LiquidationDrill.Proofs.Json.Written
import LiquidationDrill.Proofs.Launch.Arguments
import LiquidationDrill.Proofs.Text.Encoded
import LiquidationDrill.Proofs.Text.HexBytes
import LiquidationDrill.Proofs.Text.Rows

/-!
# The input files are read back

A plain configuration names its contracts by texts and its thresholds by texts and integers (`Config.Plain`). It is
written as its members stand (`Config.Plain.text_eq`), and what is written is read back
(`Config.Plain.kept`, with `Json.read_written`). The key is written in hexadecimal digits, however it is spelled
(`PrivateKey.file_of_spelling`). `inputs_read_back` puts both together with the arguments that name the files.
-/

namespace LiquidationDrill.Launch

open Json (Kept InAscii)

/-! ## The configuration -/

/-- A text without halves of surrogate pairs. -/
def IsScalarText (x : Value) : Prop := ∃ t : Text, x = .string t ∧ t.isScalar = true

/-- An integer that is not too long to be read. -/
def IsReadableInt (x : Value) : Prop := ∃ n : Int, x = .int n ∧ (Text.ofNat n.natAbs).length ≤ Text.maxDigits

/-- A table of integers, each under a name of its own. -/
structure IsTable (x : Value) (entries : Value.Members) : Prop where
  object : x = .object entries
  distinct : (entries.map Prod.fst).Nodup
  names : ∀ entry ∈ entries, entry.1.isScalar = true
  values : ∀ entry ∈ entries, IsReadableInt entry.2

theorem IsScalarText.isWritable {x : Value} (h : IsScalarText x) : Json.isWritable x = true := by
  obtain ⟨t, rfl, -⟩ := h
  rfl

theorem IsScalarText.kept {x : Value} (h : IsScalarText x) (depth : Nat) : Kept depth x := by
  obtain ⟨t, rfl, ht⟩ := h
  exact .string depth ht

theorem IsTable.kept {x : Value} {entries : Value.Members} (h : IsTable x entries) (depth : Nat) :
    Kept (depth + 1) x := by
  rw [h.object]
  refine .object h.distinct h.names fun entry he => ?_
  obtain ⟨n, hn, hlen⟩ := h.values entry he
  rw [hn]
  exact .int depth hlen

/-- A member that is there unless its value is null. -/
def unlessNull (name : Text) (x : Value) : Value.Members := if x = .null then [] else [(name, x)]

theorem unlessNull_null (name : Text) : unlessNull name .null = [] := if_pos rfl

theorem unlessNull_of_ne (name : Text) {x : Value} (h : x ≠ .null) : unlessNull name x = [(name, x)] := if_neg h

theorem unlessNull_sublist (name : Text) (x : Value) : (unlessNull name x).Sublist [(name, x)] := by
  rw [unlessNull]
  split
  · exact List.nil_sublist _
  · exact List.Sublist.refl _

theorem kept_of_mem_unlessNull {name : Text} {x : Value} {depth : Nat} (h : x = .null ∨ Kept depth x) :
    ∀ member ∈ unlessNull name x, Kept depth member.2 := by
  intro member hm
  obtain rfl := List.mem_singleton.mp ((unlessNull_sublist name x).subset hm)
  rcases h with rfl | h
  · exact .null depth
  · exact h

namespace Config

/-- The contracts and the router are texts, and the thresholds a table of integers; the thresholds and the router may
be missing. -/
structure Plain (config : Config) : Prop where
  witch : IsScalarText config.witch
  flash : IsScalarText config.flash
  multicall2 : IsScalarText config.multicall2
  debtThresholds : config.debtThresholds = .null ∨ ∃ entries, IsTable config.debtThresholds entries
  swapRouter02 : config.swapRouter02 = .null ∨ IsScalarText config.swapRouter02

/-- What a configuration states, in order. -/
def stated (config : Config) : Value.Members :=
  config.contracts ++ unlessNull "BaseToDebtThreshold" config.debtThresholds ++
    unlessNull "SwapRouter02" config.swapRouter02

variable {config : Config}

/-- The entry of a threshold. -/
def entryOf (threshold : Text × Value) : Value.Entry := ⟨.text threshold.1, .string threshold.1, threshold.2⟩

/-- The entries of a table are called by their names. -/
theorem thresholdMembers_entryOf {nameOf : Value → Text} (hn : ∀ t : Text, nameOf (.string t) = t)
    (entries : Value.Members) :
    thresholdMembers nameOf (some (entries.map entryOf)) = unlessNull "BaseToDebtThreshold" (.object entries) := by
  have hmap : (entries.map entryOf).map (fun threshold => (nameOf threshold.name, threshold.value)) = entries := by
    induction entries with
    | nil => rfl
    | cons entry entries ih => rw [List.map_cons, List.map_cons, ih, entryOf, hn]
  rw [thresholdMembers, hmap, unlessNull_of_ne _ (fun e => by cases e)]

/-- The thresholds of a plain configuration are missing or a table. -/
theorem Plain.thresholds_cases (h : config.Plain) :
    (config.debtThresholds = .null ∧ config.thresholds = .ok none) ∨
      ∃ entries, IsTable config.debtThresholds entries ∧ config.thresholds = .ok (some (entries.map entryOf)) := by
  rcases h.debtThresholds with hnull | ⟨entries, ht⟩
  · exact Or.inl ⟨hnull, by rw [thresholds, hnull]⟩
  · refine Or.inr ⟨entries, ht, ?_⟩
    rw [thresholds, ht.object]
    rfl

/-- The router is a member unless it is null. -/
theorem routerMember_eq (config : Config) : config.routerMember = unlessNull "SwapRouter02" config.swapRouter02 := by
  rw [routerMember, unlessNull]
  cases config.swapRouter02 <;> rfl

/-- The members of thresholds are those that are stated. -/
theorem Plain.stated_eq (h : config.Plain) {nameOf : Value → Text} (hn : ∀ t : Text, nameOf (.string t) = t)
    {thresholds : Option (List Value.Entry)} (ht : config.thresholds = .ok thresholds) :
    config.contracts ++ thresholdMembers nameOf thresholds ++ config.routerMember = config.stated := by
  rw [routerMember_eq, stated]
  rcases h.thresholds_cases with ⟨hnull, hc⟩ | ⟨entries, htable, hc⟩
  · obtain rfl := Except.ok.inj (hc.symm.trans ht)
    rw [hnull, unlessNull_null]
    rfl
  · obtain rfl := Except.ok.inj (hc.symm.trans ht)
    rw [thresholdMembers_entryOf hn, htable.object]

/-- **The members of a plain configuration are what it states.** -/
theorem Plain.members_eq (h : config.Plain) : config.members = .ok config.stated := by
  obtain ⟨thresholds, ht⟩ : ∃ thresholds, config.thresholds = .ok thresholds := by
    rcases h.thresholds_cases with ⟨-, hc⟩ | ⟨_, -, hc⟩ <;> exact ⟨_, hc⟩
  have hs := h.stated_eq (fun _ => rfl : ∀ t : Text, Value.display (.string t) = t) ht
  rw [members, ht]
  exact congrArg Except.ok hs

/-- The contracts of a plain configuration have a form in JSON. -/
theorem Plain.checkContracts (h : config.Plain) : checkMembers config.contracts = .ok () := by
  refine if_pos ?_
  simp [contracts, Json.membersAreWritable, h.witch.isWritable, h.flash.isWritable, h.multicall2.isWritable]

/-- So does its router. -/
theorem Plain.checkRouter (h : config.Plain) : checkMembers config.routerMember = .ok () := by
  rw [routerMember_eq]
  rcases h.swapRouter02 with hnull | ht
  · rw [hnull, unlessNull_null]
    rfl
  · obtain ⟨t, ht, -⟩ := ht
    rw [ht, unlessNull_of_ne _ (fun e => by cases e)]
    rfl

/-- And so do the thresholds of a table. -/
theorem checkThresholds {entries : Value.Members} (h : ∀ entry ∈ entries, IsReadableInt entry.2) :
    (entries.map entryOf).forM checkThreshold = .ok () := by
  induction entries with
  | nil => rfl
  | cons entry entries ih =>
    obtain ⟨⟨n, hn, -⟩, hrest⟩ := List.forall_mem_cons.mp h
    obtain ⟨name, x⟩ := entry
    obtain rfl : x = .int n := hn
    exact ih hrest

/-- **A plain configuration is written as it states.** -/
theorem Plain.text_eq (h : config.Plain) : config.text = .ok (Json.indented (.object config.stated)) := by
  obtain ⟨thresholds, ht, hcheck⟩ : ∃ thresholds, config.thresholds = .ok thresholds ∧
      (thresholds.getD []).forM checkThreshold = .ok () := by
    rcases h.thresholds_cases with ⟨-, hc⟩ | ⟨entries, htable, hc⟩
    · exact ⟨none, hc, rfl⟩
    · exact ⟨_, hc, checkThresholds htable.values⟩
  have hs := h.stated_eq (fun _ => rfl : ∀ t : Text, writtenName (.string t) = t) ht
  rw [text, ht]
  dsimp only
  rw [h.checkContracts, hcheck, h.checkRouter, hs]
  rfl

/-- The names of all members. -/
def memberNames : List Text := ["Witch", "Flash", "Multicall2", "BaseToDebtThreshold", "SwapRouter02"]

/-- Members are stated in the order of all names, each at most once. -/
theorem names_stated_sublist (config : Config) : (config.stated.map Prod.fst).Sublist memberNames :=
  (((List.Sublist.refl config.contracts).append (unlessNull_sublist "BaseToDebtThreshold" _)).append
    (unlessNull_sublist "SwapRouter02" _)).map Prod.fst

/-- What a plain configuration states is kept when it is written and read. -/
theorem Plain.kept (h : config.Plain) (depth : Nat) : Kept (depth + 2) (.object config.stated) := by
  have hnames := names_stated_sublist config
  have hscalar : ∀ name ∈ memberNames, name.isScalar = true := by decide
  have hthresholds : config.debtThresholds = .null ∨ Kept (depth + 1) config.debtThresholds :=
    h.debtThresholds.imp_right fun ⟨_, ht⟩ => ht.kept depth
  have hrouter : config.swapRouter02 = .null ∨ Kept (depth + 1) config.swapRouter02 :=
    h.swapRouter02.imp_right fun ht => ht.kept (depth + 1)
  have hcontracts : ∀ member ∈ config.contracts, Kept (depth + 1) member.2 := by
    simp only [contracts, List.forall_mem_cons]
    exact ⟨h.witch.kept _, h.flash.kept _, h.multicall2.kept _, List.forall_mem_nil _⟩
  refine .object (hnames.nodup (by decide)) (fun member hm => ?_) ?_
  · exact hscalar _ (hnames.subset (List.mem_map_of_mem hm))
  · refine List.forall_mem_append.mpr ⟨List.forall_mem_append.mpr ⟨hcontracts, ?_⟩, ?_⟩
    · exact kept_of_mem_unlessNull hthresholds
    · exact kept_of_mem_unlessNull hrouter

/-- The names of what a configuration states: those of the contracts, and those of the thresholds and of the router
unless they are null. -/
def statedNames (config : Config) : List Text :=
  ([.ofString "Witch", .ofString "Flash", .ofString "Multicall2"] : List Text) ++
    (if config.debtThresholds = .null then [] else [.ofString "BaseToDebtThreshold"]) ++
      (if config.swapRouter02 = .null then [] else [.ofString "SwapRouter02"])

theorem names_stated (config : Config) : config.stated.map Prod.fst = config.statedNames := by
  rw [stated, statedNames, unlessNull, unlessNull]
  by_cases ht : config.debtThresholds = .null
  · rw [if_pos ht, if_pos ht]
    by_cases hr : config.swapRouter02 = .null
    · rw [if_pos hr, if_pos hr]
      rfl
    · rw [if_neg hr, if_neg hr]
      rfl
  · rw [if_neg ht, if_neg ht]
    by_cases hr : config.swapRouter02 = .null
    · rw [if_pos hr, if_pos hr]
      rfl
    · rw [if_neg hr, if_neg hr]
      rfl

end Config

/-! ## The key -/

/-- Bytes are written in hexadecimal digits. -/
theorem isHex_of_mem_hexBytes {bytes : List UInt8} {c : CodePoint} (h : c ∈ Text.hexBytes bytes) : c.isHex = true := by
  have hall : ∀ c ∈ Text.lowerDigits, c.isHex = true := by decide
  exact hall c (Text.mem_lowerDigits_of_mem_hexBytes bytes h)

/-- The spellings of a key: its bytes, their digits, and the digits after their mark. -/
def PrivateKey.spellings (key : List UInt8) : List PrivateKey :=
  [.bytes key, .text (Text.hexBytes key), .text ("0x" ++ Text.hexBytes key)]

/-- **Whatever its spelling, a key is written in its digits.** -/
theorem PrivateKey.content_of_spelling {key : List UInt8} {spelling : PrivateKey} (h : spelling ∈ spellings key) :
    spelling.content = Text.hexBytes key := by
  simp only [spellings, List.mem_cons, List.not_mem_nil, or_false] at h
  rcases h with rfl | rfl | rfl
  · rfl
  · rw [content, Text.dropStart?_eq_none_of_isHex fun _ hc => isHex_of_mem_hexBytes hc, Option.getD_none]
  · have hsome : (("0x" : Text) ++ Text.hexBytes key).dropStart? "0x" = some (Text.hexBytes key) :=
      Text.dropStart?_eq_some.mpr rfl
    rw [content, hsome, Option.getD_some]

/-- And these digits are what its file holds. -/
theorem PrivateKey.file_of_spelling {key : List UInt8} {spelling : PrivateKey} (h : spelling ∈ spellings key) :
    spelling.file = .ok (Text.hexBytes key) := by
  have hdigits : ∀ c ∈ Text.lowerDigits, c.isSurrogate = false := by decide
  have hscalar : (Text.hexBytes key).isScalar = true :=
    Text.isScalar_iff.mpr fun c hc => hdigits c (Text.mem_lowerDigits_of_mem_hexBytes key hc)
  rw [file, content_of_spelling h, Utf8.encode_eq_ok.mpr ⟨hscalar, rfl⟩]

/-! ## The files -/

/-- The first arguments of options that read the files of a folder: what names the files, and what stands between. -/
theorem Options.take_argv_reading {folder : Text} {options : Options} (h : (options.reading folder).IsShowable) :
    ∃ arguments, (options.reading folder).argv = .ok arguments ∧
      arguments.take 8 = [.string "-c", .string (pathIn folder configName), .string "-u", options.url,
        .string "-C", .string options.chainId.display, .string "-p", .string (pathIn folder keyName)] :=
  ⟨_, argv_of_isShowable _ h, rfl⟩

/-- The content of the file at a path, where files are in a folder. -/
def contentAt (folder : Text) (files : List (Text × Text)) (path : Text) : Option Text :=
  (files.map fun (name, content) => (pathIn folder name, content)).lookup path

/-- A configuration is written in ASCII. -/
theorem Config.Plain.text_ascii {config : Config} (h : config.Plain) :
    ∀ c ∈ Json.indented (.object config.stated), c.val < 0x80 := by
  have hspaces (level : Nat) : ∀ c ∈ Text.spaces (2 * level), c.val < 0x80 := fun c hc => by
    rw [List.eq_of_mem_replicate hc]
    decide
  have hascii (c : CodePoint) (hc : InAscii c) : c.val < 0x80 := Nat.lt_succ_of_lt hc.2
  refine Json.write_forall hascii (fun level => ?_) (fun level => ?_) (h.kept 0) 0
  · exact List.forall_mem_append.mpr ⟨by decide, hspaces level⟩
  · exact List.forall_mem_append.mpr ⟨by decide, hspaces level⟩

/-- **The files that are written for the liquidator are read back.** A plain configuration is written in ASCII, in the
file that the arguments name first, and what is read from it are its members in their order; those that are null are
left out, and only those. In the file with the key stand the digits of its bytes, however it is spelled. The arguments
name both files where there are arguments. -/
theorem inputs_read_back (config : Config) (h : config.Plain) (folder : Text) (options : Options) (key : List UInt8) :
    ∃ content : Text, (∀ c ∈ content, c.val < 0x80) ∧ Json.read content = .ok (.object config.stated) ∧
      config.members = .ok config.stated ∧ config.stated.map Prod.fst = config.statedNames ∧
      Text.bytes? (Text.hexBytes key) = some key ∧
      ∀ spelling ∈ PrivateKey.spellings key, ∃ files configPath keyPath,
        inputFiles config spelling = .ok files ∧
        ((options.reading folder).IsShowable → ∃ arguments, (options.reading folder).argv = .ok arguments ∧
          arguments.take 8 = [.string "-c", .string configPath, .string "-u", options.url,
            .string "-C", .string options.chainId.display, .string "-p", .string keyPath]) ∧
        contentAt folder files configPath = some content ∧
        contentAt folder files keyPath = some (Text.hexBytes key) := by
  have hread : Json.read (Json.indented (.object config.stated)) = .ok (.object config.stated) :=
    Json.read_written Json.Layout.indented_isSpaced (h.kept 988)
  refine ⟨Json.indented (.object config.stated), h.text_ascii, hread, h.members_eq, config.names_stated,
    Text.bytes?_hexBytes key, fun spelling hs => ?_⟩
  have hfiles : inputFiles config spelling =
      .ok [(configName, Json.indented (.object config.stated)), (keyName, Text.hexBytes key)] := by
    rw [inputFiles, h.text_eq, PrivateKey.file_of_spelling hs]
    rfl
  have hne : pathIn folder keyName ≠ pathIn folder configName := fun e =>
    absurd (List.append_cancel_left e) (by decide : keyName ≠ configName)
  have hbeq : (pathIn folder keyName == pathIn folder configName) = false := beq_eq_false_iff_ne.mpr hne
  refine ⟨_, pathIn folder configName, pathIn folder keyName, hfiles, Options.take_argv_reading, ?_, ?_⟩
  · simp [contentAt]
  · simp [contentAt, List.lookup_cons, hbeq]

/-- A configuration with one threshold and no router; the names of its contracts have to be escaped. -/
def sparse : Config where
  witch := .string "0x53\u00e9"
  flash := .string "\"🔦\""
  multicall2 := .string "a\\b\n"
  debtThresholds := .object [("0x303030300000", .int (-100000))]

/-- It is plain. -/
theorem sparse_plain : sparse.Plain where
  witch := ⟨_, rfl, by decide⟩
  flash := ⟨_, rfl, by decide⟩
  multicall2 := ⟨_, rfl, by decide⟩
  debtThresholds := Or.inr ⟨_, rfl, by decide, by decide,
    List.forall_mem_singleton.mpr ⟨-100000, rfl, by decide⟩⟩
  swapRouter02 := Or.inl rfl

/-- It is read back from its file, and a key of two bytes from the other one. -/
theorem sparse_read_back : ∃ content : Text, Json.read content = .ok (.object sparse.stated) ∧
    ∀ spelling ∈ PrivateKey.spellings [0x0A, 0xFF], ∃ files configPath keyPath,
      inputFiles sparse spelling = .ok files ∧
        (∃ arguments, (disguised.reading "drill").argv = .ok arguments ∧
          arguments.take 8 = [.string "-c", .string configPath, .string "-u", .string "--one-shot",
            .string "-C", .string "1", .string "-p", .string keyPath]) ∧
        contentAt "drill" files configPath = some content ∧ contentAt "drill" files keyPath = some "0aff" := by
  obtain ⟨content, -, hread, -, -, -, hfiles⟩ := inputs_read_back sparse sparse_plain "drill" disguised [0x0A, 0xFF]
  have hshowable : (disguised.reading "drill").IsShowable := by
    intro flag _
    cases flag <;> decide
  refine ⟨content, hread, fun spelling hs => ?_⟩
  obtain ⟨files, configPath, keyPath, hwritten, harguments, hconfig, hkey⟩ := hfiles spelling hs
  exact ⟨files, configPath, keyPath, hwritten, harguments hshowable, hconfig, hkey⟩

end LiquidationDrill.Launch
