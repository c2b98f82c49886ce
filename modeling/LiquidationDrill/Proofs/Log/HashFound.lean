import LiquidationDrill.Proofs.Log.HashFaults

/-!
# Which hash is found

Of all places where the mark stands before white space and a word, the first one counts (`FirstMarked`), and the word
there is taken as far as it goes (`findHash?_eq_some`); a mark without a word does not count. A mark does not overlap with
another one, since it has its colon at its end only (`hashMark_infix_of_overlap`), so that what stands before a mark and
holds none of its own gives no hash (`firstMarked_after`). `hash_extracted` says what is read of the field of a record.
-/

namespace LiquidationDrill.Log

open Text (IsRow StartsOutside)

/-! ## The first mark that counts -/

/-- The word stands at the first place where one is marked. -/
def FirstMarked (t word : Text) : Prop := ∃ i, Marks (t.drop i) word ∧ ∀ j < i, ¬MarksWord (t.drop j)

theorem not_marks_nil (word : Text) : ¬Marks [] word := by
  rintro ⟨space, rest, h, -⟩
  cases h

/-- **The hash that is found is the word at the first place where one is marked.** -/
theorem findHash?_eq_some {t word : Text} : findHash? t = some word ↔ FirstMarked t word := by
  unfold FirstMarked
  induction t with
  | nil =>
    refine iff_of_false (fun h => by cases h) ?_
    rintro ⟨i, hm, -⟩
    rw [List.drop_nil] at hm
    exact not_marks_nil word hm
  | cons c t ih =>
    rw [findHash?, Option.or_eq_some_iff, hashAt?_eq_some, ← Option.not_isSome_iff_eq_none, hashAt?_isSome, ih]
    constructor
    · rintro (hhere | ⟨hnot, i, hm, hfirst⟩)
      · exact ⟨0, hhere, fun j hj => absurd hj (Nat.not_lt_zero j)⟩
      · refine ⟨i + 1, hm, fun j hj => ?_⟩
        cases j with
        | zero => exact hnot
        | succ j => exact hfirst j (Nat.lt_of_succ_lt_succ hj)
    · rintro ⟨i, hm, hfirst⟩
      cases i with
      | zero => exact Or.inl hm
      | succ i => exact Or.inr ⟨hfirst 0 i.succ_pos, i, hm, fun j hj => hfirst (j + 1) (Nat.succ_lt_succ hj)⟩

/-- There is one iff a word is marked anywhere. -/
theorem exists_firstMarked {t : Text} : (∃ word, FirstMarked t word) ↔ ∃ i, MarksWord (t.drop i) := by
  constructor
  · rintro ⟨word, i, hm, -⟩
    exact ⟨i, marksWord_iff.mpr ⟨word, hm⟩⟩
  · intro h
    classical
    obtain ⟨word, hm⟩ := marksWord_iff.mp (Nat.find_spec h)
    exact ⟨word, Nat.find h, hm, fun j => Nat.find_min h⟩

/-! ## Marks do not overlap -/

theorem MarksWord.hashMark_prefix {t : Text} (h : MarksWord t) : hashMark <+: t := by
  obtain ⟨space, word, rest, rfl, -⟩ := h
  exact List.prefix_append hashMark _

/-- A mark that begins before another one ends before it: the colon at its end stands nowhere else in it. -/
theorem hashMark_infix_of_overlap {before rest : Text} {j : Nat} (hj : j < before.length)
    (h : hashMark <+: (before ++ (hashMark ++ rest)).drop j) : hashMark <:+: before := by
  have hlen : hashMark.length = 8 := rfl
  by_cases hends : j + 8 ≤ before.length
  · rw [List.drop_append_of_le_length hj.le] at h
    have hpre := List.prefix_of_prefix_length_le h (List.prefix_append _ _) (by rw [List.length_drop]; omega)
    exact hpre.isInfix.trans (List.drop_suffix j before).isInfix
  · -- the colon at the end of the first mark is one of the code points before that of the second one
    exfalso
    have hcolon : ((before ++ (hashMark ++ rest)).drop j)[7]? = some (.ofChar ':') := by
      obtain ⟨after, hafter⟩ := h
      rw [← hafter, List.getElem?_append_left (by omega)]
      rfl
    have hall : ∀ k < 7, hashMark[k]? ≠ some (.ofChar ':') := by decide
    rw [List.getElem?_drop, List.getElem?_append_right (by omega), List.getElem?_append_left (by omega)] at hcolon
    exact hall _ (by omega) hcolon

/-- **Where no mark stands before it, a marked word is the first one.** -/
theorem firstMarked_after {before word t : Text} (hb : ¬hashMark <:+: before) (hm : Marks t word) :
    FirstMarked (before ++ t) word := by
  refine ⟨before.length, by rwa [List.drop_left], fun j hj hw => hb ?_⟩
  obtain ⟨space, rest, rfl, -⟩ := hm
  exact hashMark_infix_of_overlap hj hw.hashMark_prefix

/-! ## Hashes -/

/-- A hash is a word. -/
theorem IsHashText.isRow {hash : Text} (h : IsHashText hash) : IsRow CodePoint.isWord hash := by
  obtain ⟨digits, rfl, -, hdigits⟩ := h
  refine ⟨List.append_ne_nil_of_left_ne_nil (by decide) digits, List.forall_mem_append.mpr ⟨by decide +kernel, ?_⟩⟩
  exact fun c hc => CodePoint.isWord_of_isHex (hdigits c hc)

/-- No mark stands in a hash. -/
theorem IsHashText.not_infix {hash : Text} (h : IsHashText hash) : ¬hashMark <:+: hash := by
  intro hi
  have hcolon : .ofChar ':' ∈ hash := hi.subset (by decide)
  exact absurd (h.isRow.2 _ hcolon) (by decide +kernel)

/-- A value gives its text if this is a hash, and otherwise what is found in it. -/
theorem txHash_eq_ok {value : Value} {hash : Text} : txHash value = .ok hash ↔
    IsHashText value.display ∧ value.display = hash ∨ ¬IsHashText value.display ∧ FirstMarked value.display hash := by
  rw [← isHash_iff, ← findHash?_eq_some]
  unfold txHash describedHash
  cases isHash value.display <;> cases findHash? value.display <;> simp

/-! ## Records -/

variable {record : Record} {value : Value}

/-- A field that is there and not null is searched. -/
theorem Record.txHash?_of_field (hf : record.fields.get? "tx_hash" = some value) (hne : value ≠ .null) :
    record.txHash? = (Log.txHash value).map some := by
  rcases record.txHash?_cases with ⟨hnull, -⟩ | ⟨other, hother, -, ho⟩
  · rcases field_eq_null.mp hnull with h | h
    · rw [hf] at h
      cases h
    · exact absurd (Option.some.inj (hf.symm.trans h)) hne
  · obtain rfl := Option.some.inj (hf.symm.trans hother)
    exact ho

/-- **The hash of a record is the first one that its field shows.** Where the field is there and not null, its text is
the hash if it is `0x` and hexadecimal digits. Otherwise there is a hash iff somewhere in the text the mark stands before
white space and a word, and the hash is then the word at the first such place, as far as it goes; where there is no such
place, the value is at fault. So a hash that stands after the mark and a blank is found whatever comes before it and after
it, as long as no mark comes before it and its word does not go on. -/
theorem hash_extracted (hf : record.fields.get? "tx_hash" = some value) (hne : value ≠ .null) :
    (IsHashText value.display → record.txHash? = .ok (some value.display)) ∧
    (¬IsHashText value.display →
      (∀ hash, record.txHash? = .ok (some hash) ↔
        ∃ i, Marks (value.display.drop i) hash ∧ ∀ j < i, ¬MarksWord (value.display.drop j)) ∧
      ((∃ found, record.txHash? = .ok found) ↔ ∃ i, MarksWord (value.display.drop i)) ∧
      ((¬∃ i, MarksWord (value.display.drop i)) → record.txHash? = .error (.malformed (.unreadableHash value) none))) ∧
    ∀ before hash rest : Text, IsHashText hash → ¬hashMark <:+: before → StartsOutside CodePoint.isWord rest →
      value.display = before ++ ("tx_hash: " ++ (hash ++ rest)) → record.txHash? = .ok (some hash) := by
  have hok (found : Option Text) :
      record.txHash? = .ok found ↔ ∃ hash, Log.txHash value = .ok hash ∧ some hash = found := by
    rw [Record.txHash?_of_field hf hne, Result.map_eq_ok]
  have hfound (hn : ¬IsHashText value.display) (hash : Text) :
      record.txHash? = .ok (some hash) ↔ FirstMarked value.display hash := by
    rw [hok]
    simp [txHash_eq_ok, hn]
  have hfinds (hn : ¬IsHashText value.display) :
      (∃ found, record.txHash? = .ok found) ↔ ∃ i, MarksWord (value.display.drop i) := by
    simp only [← exists_firstMarked, hok, txHash_eq_ok, hn, false_and, not_false_eq_true, true_and, false_or]
    exact ⟨fun ⟨_, hash, h, _⟩ => ⟨hash, h⟩, fun ⟨hash, h⟩ => ⟨some hash, hash, h, rfl⟩⟩
  refine ⟨fun h => (hok _).mpr ⟨_, txHash_eq_ok.mpr (Or.inl ⟨h, rfl⟩), rfl⟩,
    fun hn => ⟨hfound hn, hfinds hn, fun hnone => ?_⟩, fun before hash rest hhash hbefore hrest hv => ?_⟩
  · cases h : record.txHash? with
    | ok found => exact absurd ((hfinds hn).mp ⟨found, h⟩) hnone
    | error fault =>
      obtain ⟨other, hother, -, -, rfl⟩ := Record.txHash?_eq_error.mp h
      obtain rfl := Option.some.inj (hf.symm.trans hother)
      rfl
  · have hmarked : Marks (hashMark ++ (" " ++ (hash ++ rest))) hash :=
      ⟨" ", rest, rfl, by decide +kernel, hhash.isRow, hrest⟩
    have hdisplay : value.display = before ++ (hashMark ++ (" " ++ (hash ++ rest))) := hv
    have hn : ¬IsHashText value.display := by
      intro h
      refine h.not_infix ⟨before, " " ++ (hash ++ rest), ?_⟩
      rw [hdisplay, List.append_assoc]
    rw [hfound hn, hdisplay]
    exact firstMarked_after hbefore hmarked

/-- A field with three marks. No word follows the first one; the word after the second one, behind a wide space, is of a
digit, an underscore and a letter outside of ASCII; and a hash follows the third one. -/
def remarked : Text := "tx_hash: !tx_hash:\u2003\u0663_\u00e9, tx_hash: 0xab"

/-- A record with this field. -/
def remarkedRecord : Record where
  level := .info
  fields := [("tx_hash", .string remarked)]
  lineNumber := 1
  target := .null
  timestamp := .null
  spans := []
  raw := []

/-- The word after the second one is found. -/
theorem remarked_extracted : remarkedRecord.fields.get? "tx_hash" = some (.string remarked) ∧
    remarkedRecord.txHash? = .ok (some "\u0663_\u00e9") := by
  have hf : remarkedRecord.fields.get? "tx_hash" = some (.string remarked) := by decide
  obtain ⟨-, hsearched, -⟩ := hash_extracted hf (by decide)
  have hn : ¬IsHashText remarked := by
    rw [← isHash_iff]
    decide
  have hmarks : Marks (remarked.drop 10) "\u0663_\u00e9" := by decide +kernel
  have hfirst : ∀ j < 10, ¬MarksWord (remarked.drop j) := by decide +kernel
  exact ⟨hf, ((hsearched hn).1 _).mpr ⟨10, hmarks, hfirst⟩⟩

end LiquidationDrill.Log
