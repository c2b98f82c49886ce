import LiquidationDrill.Log.VaultId
import LiquidationDrill.Proofs.Result
import LiquidationDrill.Proofs.Text.Lower
import LiquidationDrill.Proofs.Text.Printable
import LiquidationDrill.Proofs.Text.Utf8
import LiquidationDrill.Text.Encoded
import Mathlib.Data.List.TakeWhile

/-!
# Which texts can be written

A text has bytes iff it holds no half of a surrogate pair (`Utf8.encode_eq_ok`). Control sequences hold none
(`Text.isScalar_plain`), so a line can be written iff it holds none (`Text.echoed_eq_ok`), and of several lines those
before the first one with a half are written (`Text.echoedLines_append_cons`). The system is given a text unless it holds
NUL, or a half that does not stand for a byte (`Text.systemBytes_isOk`).

Neither lower case nor trimming makes such halves or loses any, so the plain form of a vault id holds one iff the id does
(`Text.isScalar_plainVaultId`).
-/

namespace LiquidationDrill

namespace Text

/-! ## Texts without halves of surrogate pairs -/

section Scalar

variable {s t : Text}

theorem isScalar_iff : t.isScalar = true ↔ ∀ c ∈ t, c.isSurrogate = false := by
  simp [isScalar]

@[simp] theorem isScalar_append : (s ++ t).isScalar = (s.isScalar && t.isScalar) := List.all_append

@[simp] theorem isScalar_cons {c : CodePoint} : isScalar (c :: t) = (!c.isSurrogate && t.isScalar) := List.all_cons

theorem isScalar_of_subset (h : t.isScalar = true) (hs : s ⊆ t) : s.isScalar = true :=
  isScalar_iff.mpr fun c hc => isScalar_iff.mp h c (hs hc)

/-- No half of a surrogate pair is printable. -/
theorem Printable.isScalar (h : Printable t) : t.isScalar = true := by
  have hall : ∀ range ∈ printableRanges, range.2 < 0xD800 ∨ 0xDFFF < range.1 := by decide +kernel
  rw [isScalar_iff]
  intro c hc
  obtain ⟨range, hm, hfirst, hlast⟩ := Ranges.exists_of_has (h c hc)
  have hrange := hall range hm
  apply Utf8.isSurrogate_eq_false.mpr
  omega

end Scalar

/-! ## Control sequences -/

/-- A control sequence is an escape, an opening bracket, parameters and a letter. -/
def IsControl (t : Text) : Prop :=
  ∃ (escape : CodePoint) (parameters : Text) (letter : CodePoint),
    t = escape :: .ofChar '[' :: (parameters ++ [letter]) ∧ escape.isEscape = true ∧
      (∀ c ∈ parameters, c.isControlParameter = true) ∧ letter.isAsciiLetter = true

/-- Control sequences hold no halves. -/
theorem IsControl.isScalar {t : Text} (h : IsControl t) : t.isScalar = true := by
  obtain ⟨escape, parameters, letter, rfl, hescape, hparameters, hletter⟩ := h
  have hmiddle : parameters.isScalar = true := by
    rw [isScalar_iff]
    intro c hc
    have hp := hparameters c hc
    rw [Utf8.isSurrogate_eq_false]
    grind [CodePoint.isControlParameter, CodePoint.ofChar]
  have hends : escape.isSurrogate = false ∧ letter.isSurrogate = false := by
    rw [Utf8.isSurrogate_eq_false, Utf8.isSurrogate_eq_false]
    grind [CodePoint.isEscape, CodePoint.isAsciiLetter]
  simp only [isScalar_cons, isScalar_append, hmiddle, hends, Bool.not_false, Bool.true_and]
  decide

/-- What is left out of a text is a control sequence. -/
theorem isControl_take {t : Text} {n : Nat} (h : t.controlLength = n + 1) : IsControl (t.take (n + 1)) := by
  unfold controlLength at h
  split at h
  next c d t =>
    dsimp only at h
    split at h
    case isTrue hstart =>
      split at h
      next e rest hdrop =>
        split at h
        case isTrue hletter =>
          obtain rfl : (t.takeWhile CodePoint.isControlParameter).length + 2 = n := by omega
          obtain ⟨hc, rfl⟩ : c.isEscape = true ∧ d = '[' := by simpa using hstart
          have htake : t.takeWhile CodePoint.isControlParameter ++ e :: rest = t := by
            rw [List.prefix_iff_eq_take.mp (List.takeWhile_prefix CodePoint.isControlParameter), ← hdrop,
              List.take_append_drop]
          refine ⟨c, t.takeWhile CodePoint.isControlParameter, e, ?_, hc, List.all_eq_true.mp List.all_takeWhile,
            hletter⟩
          rw [List.take_succ_cons, List.take_succ_cons]
          nth_rewrite 2 [← htake]
          rw [List.take_length_add_append]
          rfl
        case isFalse => cases h
      next => cases h
    case isFalse => cases h
  next => cases h

/-- What is left out holds no halves, if nothing does that is to be left out at first. -/
theorem isScalar_plainAfter {skip : Nat} {t : Text} (h : isScalar (t.take skip) = true) :
    (plainAfter skip t).isScalar = t.isScalar := by
  induction t generalizing skip with
  | nil => cases skip <;> rfl
  | cons c t ih =>
    cases skip with
    | zero =>
      rw [plainAfter]
      split
      next => rw [isScalar_cons, isScalar_cons, ih rfl]
      next n hn =>
        have hcontrol := (isControl_take hn).isScalar
        rw [List.take_succ_cons, isScalar_cons, Bool.and_eq_true] at hcontrol
        rw [ih hcontrol.2, isScalar_cons, hcontrol.1, Bool.true_and]
    | succ n =>
      rw [List.take_succ_cons, isScalar_cons, Bool.and_eq_true] at h
      rw [plainAfter, ih h.2, isScalar_cons, h.1, Bool.true_and]

/-- **Without its control sequences a text holds halves of surrogate pairs iff it does with them.** -/
theorem isScalar_plain (t : Text) : t.plain.isScalar = t.isScalar := isScalar_plainAfter rfl

end Text

/-! ## Output and errors -/

namespace Utf8

/-- Nothing of a text lacks bytes iff no code point of it does. -/
theorem unencodable?_eq_none {lacks : CodePoint → Bool} {t : Text} :
    unencodable? lacks t = none ↔ ∀ c ∈ t, lacks c = false := by
  have hnil : t.dropWhile (!lacks ·) = [] ↔ ∀ c ∈ t, lacks c = false := by
    simp [List.dropWhile_eq_nil_iff]
  rw [← hnil, unencodable?]
  split
  next h => simp [h]
  next h => simpa using h

/-- **A text has bytes iff it holds no halves of surrogate pairs**, and they are those of its code points. -/
theorem encode_eq_ok {t : Text} {bytes : List UInt8} : encode t = .ok bytes ↔ t.isScalar = true ∧ t.utf8 = bytes := by
  rw [Text.isScalar_iff, ← unencodable?_eq_none, encode]
  split
  next h => simp [h]
  next h => simp [h]

theorem encode_isOk {t : Text} : (∃ bytes, encode t = .ok bytes) ↔ t.isScalar = true := by
  constructor
  · rintro ⟨bytes, h⟩
    exact (encode_eq_ok.mp h).1
  · intro h
    exact ⟨_, encode_eq_ok.mpr ⟨h, rfl⟩⟩

end Utf8

namespace Text

/-- **A line can be written iff it holds no halves.** -/
theorem echoed_eq_ok {line written : Text} :
    line.echoed = .ok written ↔ line.isScalar = true ∧ (line ++ "\n").plain = written := by
  have hline : (line ++ "\n").plain.isScalar = line.isScalar := by
    rw [isScalar_plain, isScalar_append, show isScalar "\n" = true by decide, Bool.and_true]
  rw [echoed, Result.map_eq_ok, exists_and_right, Utf8.encode_isOk, hline]

theorem echoed_eq_error {line : Text} : (∃ fault, line.echoed = .error fault) ↔ line.isScalar = false := by
  rw [← Result.isOk_eq_false, ← Bool.not_eq_true, ← Bool.not_eq_true, Result.isOk_iff, not_iff_not]
  simp only [echoed_eq_ok, exists_and_left, exists_eq', and_true]

/-- Lines without halves are all written. -/
theorem echoedLines_of_isScalar {lines : List Text} (h : ∀ line ∈ lines, line.isScalar = true) :
    echoedLines lines = (lines.flatMap fun line : Text => (line ++ "\n").plain, none) := by
  induction lines with
  | nil => rfl
  | cons line lines ih =>
    obtain ⟨hline, hlines⟩ := List.forall_mem_cons.mp h
    simp only [echoedLines, echoed_eq_ok.mpr ⟨hline, rfl⟩, ih hlines, List.flatMap_cons]

/-- **Of other lines those before the first one with a half are written.** -/
theorem echoedLines_append_cons {before after : List Text} {line : Text} {fault : Utf8.Unencodable}
    (h : ∀ earlier ∈ before, earlier.isScalar = true) (hf : line.echoed = .error fault) :
    echoedLines (before ++ line :: after) = (before.flatMap fun line : Text => (line ++ "\n").plain, some fault) := by
  induction before with
  | nil => simp only [List.nil_append, echoedLines, hf, List.flatMap_nil]
  | cons earlier before ih =>
    obtain ⟨hearlier, hbefore⟩ := List.forall_mem_cons.mp h
    simp only [List.cons_append, echoedLines, echoed_eq_ok.mpr ⟨hearlier, rfl⟩, ih hbefore, List.flatMap_cons]

/-- The first line with a half. -/
theorem exists_first_unencodable {lines : List Text} (h : ∃ line ∈ lines, line.isScalar = false) :
    ∃ before line after fault, lines = before ++ line :: after ∧ (∀ earlier ∈ before, earlier.isScalar = true) ∧
      line.echoed = .error fault := by
  induction lines with
  | nil => simp at h
  | cons line lines ih =>
    cases hs : line.isScalar with
    | false =>
      obtain ⟨fault, hf⟩ := echoed_eq_error.mpr hs
      exact ⟨[], line, lines, fault, rfl, List.forall_mem_nil _, hf⟩
    | true =>
      obtain ⟨before, first, after, fault, rfl, hbefore, hf⟩ := ih (by simpa [hs] using h)
      exact ⟨line :: before, first, after, fault, rfl, List.forall_mem_cons.mpr ⟨hs, hbefore⟩, hf⟩

/-- Nothing is escaped in a text without halves. -/
theorem reported_eq {t : Text} (h : t.isScalar = true) : t.reported = t := by
  rw [isScalar_iff] at h
  induction t with
  | nil => rfl
  | cons c t ih =>
    obtain ⟨hc, ht⟩ := List.forall_mem_cons.mp h
    have hrest := ih ht
    rw [reported] at hrest ⊢
    rw [List.flatMap_cons, hc, hrest]
    rfl

/-! ## Names and arguments -/

/-- The system can be given the text: no NUL stands in it, and no half but those that stand for bytes. -/
def IsPassable (t : Text) : Prop := ∀ c ∈ t, c.val ≠ 0 ∧ (c.isSurrogate = true → c.isLoneByte = true)

instance (t : Text) : Decidable t.IsPassable :=
  inferInstanceAs (Decidable (∀ c ∈ t, c.val ≠ 0 ∧ (c.isSurrogate = true → c.isLoneByte = true)))

/-- **The system is given exactly the texts that can be passed.** -/
theorem systemBytes_isOk {t : Text} : (∃ bytes, t.systemBytes = .ok bytes) ↔ t.IsPassable := by
  have hencodable : Utf8.unencodable? (fun c => c.isSurrogate && !c.isLoneByte) t = none ↔
      ∀ c ∈ t, c.isSurrogate = true → c.isLoneByte = true := by
    rw [Utf8.unencodable?_eq_none]
    simp
  have hnul : t.any (·.val = 0) = true ↔ ∃ c ∈ t, c.val = 0 := by simp
  unfold systemBytes IsPassable
  split
  next fault hf =>
    have hlacks : ¬∀ c ∈ t, c.isSurrogate = true → c.isLoneByte = true := by
      rw [← hencodable, hf]
      simp
    constructor
    · rintro ⟨bytes, h⟩
      cases h
    · exact fun h => absurd (fun c hc => (h c hc).2) hlacks
  next hf =>
    have hstands := hencodable.mp hf
    split
    case isTrue hn =>
      obtain ⟨c, hc, hzero⟩ := hnul.mp hn
      constructor
      · rintro ⟨bytes, h⟩
        cases h
      · exact fun h => absurd hzero (h c hc).1
    case isFalse hn =>
      refine ⟨fun _ c hc => ⟨fun hzero => hn (hnul.mpr ⟨c, hc, hzero⟩), hstands c hc⟩, fun _ => ⟨_, rfl⟩⟩

end Text

/-! ## Vault ids -/

namespace Text

/-- What is trimmed of a text holds no halves. -/
theorem isScalar_trim {p : CodePoint → Bool} (h : ∀ c, p c = true → c.isSurrogate = false) (t : Text) :
    (t.trim p).isScalar = t.isScalar := by
  obtain ⟨before, after, ht, hbefore, hafter⟩ := exists_trim p t
  have hb : before.isScalar = true := isScalar_iff.mpr fun c hc => h c (hbefore c hc)
  have ha : after.isScalar = true := isScalar_iff.mpr fun c hc => h c (hafter c hc)
  conv_rhs => rw [ht, isScalar_append, isScalar_append, hb, ha, Bool.true_and, Bool.and_true]

theorem isSurrogate_of_isBlank {c : CodePoint} (h : c.isBlank = true) : c.isSurrogate = false := by
  have hall : ∀ range ∈ blankRanges, range.2 < 0xD800 := by decide
  obtain ⟨range, hm, -, hlast⟩ := Ranges.exists_of_has h
  have hrange := hall range hm
  apply Utf8.isSurrogate_eq_false.mpr
  omega

end Text

/-- No run moves a half, and none makes one. -/
theorem lowerRuns_apply_surrogate (n : Nat) :
    (0xD800 ≤ lowerRuns.apply n ∧ lowerRuns.apply n ≤ 0xDFFF ↔ 0xD800 ≤ n ∧ n ≤ 0xDFFF) := by
  have hall : ∀ run ∈ lowerRuns, (run.2.1 < 0xD800 ∨ 0xDFFF < run.1) ∧
      ((run.2.1 : Int) + run.2.2.2 < 0xD800 ∨ 0xDFFF < (run.1 : Int) + run.2.2.2) := by decide +kernel
  rcases CaseRuns.apply_eq lowerRuns n with he | ⟨run, hm, hfirst, hlast, he⟩
  · rw [he]
  · have hrun := hall run hm
    omega

theorem CodePoint.isSurrogate_ofNat (n : Nat) : (ofNat n).isSurrogate = true ↔ 0xD800 ≤ n ∧ n ≤ 0xDFFF := by
  unfold ofNat
  split
  · simp [isSurrogate]
  · have hr : replacement.isSurrogate = false := by decide
    rw [hr]
    constructor
    · intro h
      cases h
    · omega

/-- The lower case of a code point holds a half iff it is one. -/
theorem CodePoint.isScalar_toLower (c : CodePoint) : c.toLower.isScalar = !c.isSurrogate := by
  unfold toLower
  split
  case isTrue h =>
    have hc : c.isSurrogate = false := Utf8.isSurrogate_eq_false.mpr (by omega)
    rw [hc]
    decide
  case isFalse =>
    have hsame : (ofNat (lowerRuns.apply c.val)).isSurrogate = c.isSurrogate := by
      rw [Bool.eq_iff_iff, isSurrogate_ofNat, lowerRuns_apply_surrogate]
      simp [isSurrogate]
    rw [Text.isScalar_cons, hsame]
    exact Bool.and_true _

namespace Text

/-- **Lower case neither makes halves nor loses any.** -/
theorem isScalar_lowerAfter (before t : Text) : (lowerAfter before t).isScalar = t.isScalar := by
  induction t generalizing before with
  | nil => rfl
  | cons c t ih =>
    rw [lowerAfter, isScalar_append, ih, isScalar_cons]
    congr 1
    split
    case isTrue h =>
      have hc : c.isSurrogate = false := Utf8.isSurrogate_eq_false.mpr (by omega)
      rw [hc]
      split <;> decide
    case isFalse => exact c.isScalar_toLower

/-- **The plain form of a vault id holds halves of surrogate pairs iff the id does.** -/
theorem isScalar_plainVaultId (id : Text) : (plainVaultId (.string id)).isScalar = id.isScalar := by
  have hid : ((id.strip.trim (· = .ofChar '"')).lower).isScalar = id.isScalar := by
    rw [lower, isScalar_lowerAfter, isScalar_trim, strip, isScalar_trim fun c => isSurrogate_of_isBlank]
    intro c hc
    obtain rfl := of_decide_eq_true hc
    decide
  show ((((id.strip.trim (· = .ofChar '"')).lower).dropStart? "0x").getD _).isScalar = _
  rw [← hid]
  cases hs : ((id.strip.trim (· = .ofChar '"')).lower).dropStart? "0x" with
  | none => rfl
  | some rest =>
    rw [dropStart?_eq_some] at hs
    rw [hs, isScalar_append, show isScalar "0x" = true by decide, Bool.true_and]
    rfl

end Text

end LiquidationDrill
