import LiquidationDrill.Text.Quoted
import LiquidationDrill.Text.Terminal

/-!
# Texts that can be shown

A text in quotes is printable (`quoted_printable`), and so are numerals (`ofInt_printable`). A printable text holds
neither line feeds nor control sequences: it is shown as it is, on one line (`plain_eq_of_no_escape`,
`Printable.not_feed`).
-/

namespace LiquidationDrill

namespace Text

/-- Every code point of the text can be shown as it is. -/
def Printable (t : Text) : Prop := ∀ c ∈ t, c.isPrintable = true

instance (t : Text) : Decidable (Printable t) := inferInstanceAs (Decidable (∀ c ∈ t, c.isPrintable = true))

section Parts

variable {s t : Text}

theorem printable_nil : Printable [] := fun _ hc => absurd hc List.not_mem_nil

@[simp] theorem printable_append : Printable (s ++ t) ↔ Printable s ∧ Printable t := List.forall_mem_append

@[simp] theorem printable_cons {c : CodePoint} : Printable (c :: t) ↔ c.isPrintable = true ∧ Printable t :=
  List.forall_mem_cons

theorem Printable.of_subset (h : Printable t) (hs : s ⊆ t) : Printable s := fun c hc => h c (hs hc)

theorem printable_replicate {c : CodePoint} (n : Nat) (h : c.isPrintable = true) : Printable (List.replicate n c) :=
  fun _ hd => List.eq_of_mem_replicate hd ▸ h

theorem printable_flatMap {α : Type} {l : List α} {f : α → Text} (h : ∀ a ∈ l, Printable (f a)) :
    Printable (l.flatMap f) := by
  intro c hc
  obtain ⟨a, ha, hc⟩ := List.mem_flatMap.mp hc
  exact h a ha c hc

end Parts

/-! ## Numerals -/

theorem isPrintable_ofDigit {n : Nat} (h : n < 16) : (CodePoint.ofDigit n).isPrintable = true := by
  have hall : ∀ n < 16, (CodePoint.ofDigit n).isPrintable = true := by decide
  exact hall n h

theorem lt_of_mem_digitsRev {base fuel n d : Nat} (hb : 0 < base) (h : d ∈ digitsRev base fuel n) : d < base := by
  induction fuel generalizing n with
  | zero => cases h
  | succ fuel ih =>
    rw [digitsRev] at h
    split at h
    · cases h
    · rcases List.mem_cons.mp h with rfl | h
      · exact Nat.mod_lt n hb
      · exact ih h

/-- A numeral is printable in every base whose digits are. -/
theorem numeral_printable {base : Nat} (hb : 0 < base) (hb' : base ≤ 16) (n : Nat) : Printable (numeral base n) := by
  rw [numeral]
  split
  · exact printable_cons.mpr ⟨by decide, printable_nil⟩
  · intro c hc
    obtain ⟨d, hd, rfl⟩ := List.mem_map.mp (List.mem_reverse.mp hc)
    exact isPrintable_ofDigit (Nat.lt_of_lt_of_le (lt_of_mem_digitsRev hb hd) hb')

theorem ofNat_printable (n : Nat) : Printable (ofNat n) := numeral_printable (by decide) (by decide) n

theorem ofInt_printable (n : Int) : Printable (ofInt n) := by
  rw [ofInt]
  split
  · exact printable_cons.mpr ⟨by decide, ofNat_printable _⟩
  · exact ofNat_printable _

theorem hexPadded_printable (width n : Nat) : Printable (hexPadded width n) :=
  printable_append.mpr ⟨printable_replicate _ (by decide), numeral_printable (by decide) (by decide) n⟩

theorem hexByte_printable (b : UInt8) : Printable (hexByte b) := by
  have hb := b.toNat_lt
  simp only [hexByte, printable_cons]
  exact ⟨isPrintable_ofDigit (by omega), isPrintable_ofDigit (by omega), printable_nil⟩

/-! ## Quotes -/

/-- A code point within quotes is written with printable ones. -/
theorem escaped_printable {quote : CodePoint} (hq : quote.isPrintable = true) (c : CodePoint) :
    Printable (CodePoint.escaped quote c) := by
  unfold CodePoint.escaped
  split
  case isTrue h =>
    rcases h with rfl | rfl
    · simp only [printable_cons]
      exact ⟨by decide, hq, printable_nil⟩
    · decide
  split
  case isTrue => decide
  split
  case isTrue => decide
  split
  case isTrue => decide
  split
  case isTrue h => exact printable_cons.mpr ⟨h, printable_nil⟩
  have hx (width : Nat) {mark : Text} (hm : Printable mark) : Printable (mark ++ hexPadded width c.val) :=
    printable_append.mpr ⟨hm, hexPadded_printable width c.val⟩
  split
  · exact hx 2 (by decide)
  split
  · exact hx 4 (by decide)
  · exact hx 8 (by decide)

theorem isPrintable_quoteMark (t : Text) : t.quoteMark.isPrintable = true := by
  unfold quoteMark
  split <;> decide

/-- **A text in quotes is printable.** -/
theorem quoted_printable (t : Text) : Printable t.quoted := by
  have hm := isPrintable_quoteMark t
  simp only [quoted, printable_append, printable_cons]
  exact ⟨⟨⟨hm, printable_nil⟩, printable_flatMap fun c _ => escaped_printable hm c⟩, hm, printable_nil⟩

/-- So are bytes in quotes. -/
theorem quotedBytes_printable (bytes : List UInt8) : Printable (quotedBytes bytes) := by
  have hm := isPrintable_quoteMark (bytes.map ofByte)
  simp only [quotedBytes, printable_append, printable_cons]
  refine ⟨⟨⟨by decide, hm, printable_nil⟩, printable_flatMap fun b _ => ?_⟩, hm, printable_nil⟩
  unfold escapedByte
  split
  · exact escaped_printable hm _
  · exact printable_append.mpr ⟨by decide, hexByte_printable b⟩

/-! ## Terminal output -/

/-- A text without escape characters is shown as it is. -/
theorem plain_eq_of_no_escape {t : Text} (h : ∀ c ∈ t, c.isEscape = false) : t.plain = t := by
  induction t with
  | nil => rfl
  | cons c t ih =>
    obtain ⟨hc, ht⟩ := List.forall_mem_cons.mp h
    have h0 : controlLength (c :: t) = 0 := by
      cases t with
      | nil => rfl
      | cons d t => simp [controlLength, hc]
    rw [plain, plainAfter, h0]
    exact congrArg (c :: ·) (ih ht)

theorem isEscape_eq_false_of_isPrintable {c : CodePoint} (h : c.isPrintable = true) : c.isEscape = false := by
  rw [← Bool.not_eq_true]
  intro he
  rw [CodePoint.isEscape, decide_eq_true_eq] at he
  rw [CodePoint.isPrintable, he] at h
  exact absurd h (by decide)

/-- No line feed is printable. -/
theorem Printable.not_feed {t : Text} (h : Printable t) : .ofChar '\n' ∉ t := fun hc => absurd (h _ hc) (by decide)

end Text

end LiquidationDrill
