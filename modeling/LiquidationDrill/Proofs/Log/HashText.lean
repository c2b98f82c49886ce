import LiquidationDrill.Log.TxHash
import LiquidationDrill.Proofs.Text.Rows

/-!
# Values that show a transaction hash

A text is a hash if it is `0x` and hexadecimal digits (`isHash_iff`), and it describes a transaction if somewhere in it
the mark stands before white space and a word (`findHash?_eq_none`). A value shows a hash if its text is one or
describes one (`ShowsHash`); exactly then `txHash` gives a hash (`txHash_isOk`), and otherwise it names the value
(`txHash_eq_error`).
-/

namespace LiquidationDrill.Log

open Text (IsRow StartsOutside)

/-! ## Hashes -/

/-- `0x` and hexadecimal digits, and nothing else. -/
def IsHashText (t : Text) : Prop := ∃ digits : Text, t = "0x" ++ digits ∧ IsRow CodePoint.isHex digits

theorem isHash_iff {t : Text} : isHash t = true ↔ IsHashText t := by
  have hdigits (digits : Text) :
      (!digits.isEmpty && digits.all CodePoint.isHex) = true ↔ IsRow CodePoint.isHex digits := by
    simp [IsRow]
  unfold isHash IsHashText
  cases hd : t.dropStart? "0x" with
  | some digits =>
    rw [Text.dropStart?_eq_some] at hd
    subst hd
    simp [hdigits]
  | none =>
    constructor
    · intro h
      cases h
    · rintro ⟨digits, ht, -⟩
      rw [Text.dropStart?_eq_some.mpr ht] at hd
      cases hd

/-! ## Descriptions -/

/-- The text begins with the mark, white space and a word. -/
def MarksWord (t : Text) : Prop :=
  ∃ space word rest, t = hashMark ++ (space ++ (word ++ rest)) ∧ IsRow CodePoint.isBlank space ∧
    IsRow CodePoint.isWord word

/-- The text begins with the mark, white space and this word, and the word ends there. -/
def Marks (t word : Text) : Prop :=
  ∃ space rest, t = hashMark ++ (space ++ (word ++ rest)) ∧ IsRow CodePoint.isBlank space ∧
    IsRow CodePoint.isWord word ∧ StartsOutside CodePoint.isWord rest

/-- Where a word is marked, one is marked as far as it goes. -/
theorem marksWord_iff {t : Text} : MarksWord t ↔ ∃ word, Marks t word := by
  constructor
  · rintro ⟨space, word, rest, rfl, hspace, hne, hword⟩
    refine ⟨(word ++ rest).takeWhile CodePoint.isWord, space, (word ++ rest).dropWhile CodePoint.isWord, ?_, hspace,
      ⟨?_, List.all_eq_true.mp List.all_takeWhile⟩, Text.startsOutside_dropWhile _ _⟩
    · rw [List.takeWhile_append_dropWhile]
    · rw [List.takeWhile_append_of_pos hword]
      exact List.append_ne_nil_of_left_ne_nil hne _
  · rintro ⟨word, space, rest, ht, hspace, hword, -⟩
    exact ⟨space, word, rest, ht, hspace, hword⟩

/-- **The word found after a mark at the beginning is the one that is marked.** -/
theorem hashAt?_eq_some {t word : Text} : hashAt? t = some word ↔ Marks t word := by
  constructor
  · intro h
    unfold hashAt? at h
    split at h
    · cases h
    · cases h
    next c rest hd =>
      rw [Text.dropStart?_eq_some] at hd
      dsimp only at h
      split at h
      case isFalse => cases h
      case isTrue hw =>
        obtain rfl := Option.some.inj h
        rw [Bool.and_eq_true, Bool.not_eq_true', List.isEmpty_eq_false_iff] at hw
        refine ⟨c :: rest.takeWhile CodePoint.isBlank, (rest.dropWhile CodePoint.isBlank).dropWhile CodePoint.isWord,
          ?_, ⟨List.cons_ne_nil _ _, ?_⟩, ⟨hw.2, List.all_eq_true.mp List.all_takeWhile⟩,
          Text.startsOutside_dropWhile _ _⟩
        · rw [hd, List.takeWhile_append_dropWhile, List.cons_append, List.takeWhile_append_dropWhile]
        · exact List.forall_mem_cons.mpr ⟨hw.1, List.all_eq_true.mp List.all_takeWhile⟩
  · rintro ⟨space, rest, rfl, ⟨hne, hspace⟩, hword, hrest⟩
    obtain ⟨c, space, rfl⟩ := List.exists_cons_of_ne_nil hne
    obtain ⟨hc, hspace⟩ := List.forall_mem_cons.mp hspace
    have hleft := Text.dropWhile_row hspace (hword.startsOutside (fun _ => CodePoint.isBlank_of_isWord) rest)
    rw [hashAt?, Text.dropStart?_eq_some.mpr rfl, List.cons_append]
    dsimp only
    rw [hleft, Text.takeWhile_row hword.2 hrest, if_pos (by simp [hc, hword.1])]

/-- A word is found after a mark at the beginning iff the mark, white space and a word stand there. -/
theorem hashAt?_isSome {t : Text} : (hashAt? t).isSome = true ↔ MarksWord t := by
  rw [Option.isSome_iff_exists, marksWord_iff]
  simp only [hashAt?_eq_some]

instance (t word : Text) : Decidable (Marks t word) := decidable_of_iff _ hashAt?_eq_some

instance (t : Text) : Decidable (MarksWord t) := decidable_of_iff _ hashAt?_isSome

/-- **No hash is found iff no mark has white space and a word after it**, wherever it stands. -/
theorem findHash?_eq_none {t : Text} : findHash? t = none ↔ ∀ before rest, t = before ++ rest → ¬MarksWord rest := by
  have hmark : ¬MarksWord [] := by
    rintro ⟨space, word, rest, h, -⟩
    cases h
  induction t with
  | nil =>
    refine ⟨fun _ before rest h => ?_, fun _ => rfl⟩
    obtain ⟨-, rfl⟩ := List.append_eq_nil_iff.mp h.symm
    exact hmark
  | cons c t ih =>
    rw [findHash?, Option.or_eq_none_iff, ← Option.not_isSome_iff_eq_none, hashAt?_isSome]
    constructor
    · rintro ⟨hhere, hlater⟩ before rest h
      cases before with
      | nil =>
        obtain rfl : c :: t = rest := h
        exact hhere
      | cons d before => exact ih.mp hlater before rest (List.cons.inj h).2
    · intro h
      refine ⟨h [] (c :: t) rfl, ih.mpr fun before rest ht => h (c :: before) rest ?_⟩
      rw [ht, List.cons_append]

/-! ## Values -/

/-- The text of the value is a hash, or describes a transaction by one. -/
def ShowsHash (value : Value) : Prop :=
  IsHashText value.display ∨ ∃ before rest, value.display = before ++ rest ∧ MarksWord rest

theorem describedHash_eq_error {value : Value} {fault : Fault} :
    describedHash value = .error fault ↔
      findHash? value.display = none ∧ fault = .malformed (.unreadableHash value) none := by
  unfold describedHash
  cases findHash? value.display <;> simp [eq_comm]

/-- **A value without a hash is named, but not where it stands.** -/
theorem txHash_eq_error {value : Value} {fault : Fault} :
    txHash value = .error fault ↔ ¬ShowsHash value ∧ fault = .malformed (.unreadableHash value) none := by
  unfold txHash ShowsHash
  by_cases hh : isHash value.display = true
  · rw [if_pos hh]
    have := isHash_iff.mp hh
    simp [this]
  · rw [if_neg hh, describedHash_eq_error, findHash?_eq_none]
    have := mt isHash_iff.mpr hh
    simp [this]

/-- A value gives a hash iff it shows one. -/
theorem txHash_isOk {value : Value} : (∃ hash, txHash value = .ok hash) ↔ ShowsHash value := by
  constructor
  · rintro ⟨hash, h⟩
    refine Classical.byContradiction fun hn => ?_
    rw [txHash_eq_error.mpr ⟨hn, rfl⟩] at h
    cases h
  · intro hs
    cases h : txHash value with
    | ok hash => exact ⟨hash, rfl⟩
    | error fault => exact absurd hs (txHash_eq_error.mp h).1

end LiquidationDrill.Log
