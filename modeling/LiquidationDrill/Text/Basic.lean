/-!
# Text

Text is a list of Unicode code points, the halves of surrogate pairs included: a log line may escape one half
alone, so a message read from it need not be a string of characters.

- `CodePoint`, with `CodePoint.ofChar` for characters and `CodePoint.isSurrogate` for what is none;
- `Text.ofString` and its partial inverse `Text.toString?`;
- searching: `Text.startsWith`, `Text.contains`, `Text.dropStart?`, `Text.splitAtLast?`.
-/

namespace LiquidationDrill

/-- A number that Unicode assigns to a character or to one half of a surrogate pair. -/
structure CodePoint where
  val : Nat
  val_lt : val < 0x110000
  deriving DecidableEq

namespace CodePoint

/-- The code point of a character. -/
def ofChar (c : Char) : CodePoint :=
  ⟨c.toNat, by
    have h := c.valid
    have hc : c.toNat = c.val.toNat := rfl
    simp only [UInt32.isValidChar, Nat.isValidChar] at h
    omega⟩

instance : Coe Char CodePoint := ⟨ofChar⟩

instance : Inhabited CodePoint := ⟨ofChar ' '⟩

/-- Halves of surrogate pairs are code points and no characters. -/
def isSurrogate (c : CodePoint) : Bool := 0xD800 ≤ c.val && c.val ≤ 0xDFFF

/-- The first half of a surrogate pair. -/
def isHighSurrogate (c : CodePoint) : Bool := 0xD800 ≤ c.val && c.val ≤ 0xDBFF

/-- The second half of a surrogate pair. -/
def isLowSurrogate (c : CodePoint) : Bool := 0xDC00 ≤ c.val && c.val ≤ 0xDFFF

/-- The character a code point stands for, if it stands for one. -/
def toChar? (c : CodePoint) : Option Char := if c.isSurrogate then none else some (Char.ofNat c.val)

/-- The code point of a character stands for that character. -/
theorem toChar?_ofChar (c : Char) : (ofChar c).toChar? = some c := by
  have h := c.valid
  have hc : c.toNat = c.val.toNat := rfl
  simp only [UInt32.isValidChar, Nat.isValidChar] at h
  have hs : (ofChar c).isSurrogate = false := by
    simp only [isSurrogate, ofChar, hc, Bool.and_eq_false_imp, decide_eq_true_eq, decide_eq_false_iff_not]
    omega
  rw [toChar?, hs]
  simp [ofChar]

/-- Characters have code points of their own. -/
@[simp] theorem ofChar_inj {c d : Char} : ofChar c = ofChar d ↔ c = d :=
  ⟨fun h => Option.some.inj (toChar?_ofChar c ▸ toChar?_ofChar d ▸ congrArg toChar? h), congrArg ofChar⟩

/-- U+FFFD stands where something unreadable was. -/
def replacement : CodePoint := ⟨0xFFFD, by decide⟩

/-- The code point of a number; numbers beyond the last one give the replacement character. -/
def ofNat (n : Nat) : CodePoint := if h : n < 0x110000 then ⟨n, h⟩ else replacement

theorem val_ofNat {n : Nat} (h : n < 0x110000) : (ofNat n).val = n := by simp [ofNat, h]

theorem ext {c d : CodePoint} (h : c.val = d.val) : c = d := by
  cases c; cases d; cases h; rfl

end CodePoint

/-- A sequence of code points. -/
abbrev Text := List CodePoint

namespace Text

/-- The code points of a string. -/
def ofString (s : String) : Text := s.toList.map CodePoint.ofChar

instance : Coe String Text := ⟨ofString⟩

/-- The string with these code points; a half of a surrogate pair is in no string. -/
def toString? (t : Text) : Option String := (t.mapM CodePoint.toChar?).map String.ofList

/-- Nothing is lost of a string. -/
theorem toString?_ofString (s : String) : toString? (ofString s) = some s := by
  have h (cs : List Char) : (cs.map CodePoint.ofChar).mapM CodePoint.toChar? = some cs := by
    induction cs with
    | nil => rfl
    | cons c cs ih => simp [List.mapM_cons, CodePoint.toChar?_ofChar, ih]
  simp [toString?, ofString, h]

/-- No half of a surrogate pair stands in the text. -/
def isScalar (t : Text) : Bool := t.all (!·.isSurrogate)

/-- The text begins with the given one. -/
def startsWith (t start : Text) : Bool := start.isPrefixOf t

/-- What follows `start`, where the text begins with it. -/
def dropStart? : Text → Text → Option Text
  | t, [] => some t
  | [], _ :: _ => none
  | c :: t, d :: start => if c = d then dropStart? t start else none

/-- What follows the beginning of a text makes the text again. -/
theorem dropStart?_eq_some {t start rest : Text} : t.dropStart? start = some rest ↔ t = start ++ rest := by
  fun_induction dropStart? t start with
  | case1 t => simp
  | case2 d start => simp
  | case3 c t start ih => simp [ih]
  | case4 c t d start h => simp [h]

/-- The given piece stands somewhere in the text; the empty piece stands in every text. -/
def contains : Text → Text → Bool
  | [], piece => piece.isEmpty
  | c :: t, piece => piece.isPrefixOf (c :: t) || contains t piece

/-- A text contains its infixes. -/
theorem contains_iff_infix {t piece : Text} : t.contains piece = true ↔ piece <:+: t := by
  induction t with
  | nil => simp [contains]
  | cons c t ih => simp [contains, ih, List.infix_cons_iff]

/-- The parts before and after the last `c`. -/
def splitAtLast? : Text → CodePoint → Option (Text × Text)
  | [], _ => none
  | d :: t, c =>
    match splitAtLast? t c with
    | some (before, after) => some (d :: before, after)
    | none => if d = c then some ([], t) else none

/-- Without a `c` there are no parts. -/
theorem splitAtLast?_eq_none {t : Text} {c : CodePoint} : t.splitAtLast? c = none ↔ c ∉ t := by
  induction t with
  | nil => simp [splitAtLast?]
  | cons d t ih =>
    cases h : splitAtLast? t c with
    | some parts => grind [splitAtLast?]
    | none => grind [splitAtLast?]

/-- The parts with `c` between them are the text, and the last part holds no `c`. -/
theorem splitAtLast?_eq_some {t before after : Text} {c : CodePoint} :
    t.splitAtLast? c = some (before, after) ↔ t = before ++ c :: after ∧ c ∉ after := by
  induction t generalizing before with
  | nil => simp [splitAtLast?]
  | cons d t ih =>
    have hn := splitAtLast?_eq_none (t := t) (c := c)
    cases h : splitAtLast? t c with
    | some parts => cases before <;> grind [splitAtLast?]
    | none => cases before <;> grind [splitAtLast?]

/-- The parts before and after the first `c`. -/
def splitAtFirst? : Text → CodePoint → Option (Text × Text)
  | [], _ => none
  | d :: t, c => if d = c then some ([], t) else (splitAtFirst? t c).map fun (before, after) => (d :: before, after)

/-- The parts with `c` between them are the text, and the first part holds no `c`. -/
theorem splitAtFirst?_eq_some {t before after : Text} {c : CodePoint} :
    t.splitAtFirst? c = some (before, after) ↔ t = before ++ c :: after ∧ c ∉ before := by
  induction t generalizing before with
  | nil => simp [splitAtFirst?]
  | cons d t ih =>
    cases before with
    | nil => by_cases h : d = c <;> simp [splitAtFirst?, h]
    | cons e before =>
      by_cases h : d = c
      · subst h
        simp only [splitAtFirst?, if_pos, Option.some.injEq, Prod.mk.injEq]
        grind
      · simp only [splitAtFirst?, if_neg h, Option.map_eq_some_iff, Prod.mk.injEq]
        grind

/-- The pieces with `between` written between any two of them. -/
def join (between : Text) : List Text → Text
  | [] => []
  | [t] => t
  | t :: ts => t ++ between ++ join between ts

/-- As many blanks as given. -/
def spaces (n : Nat) : Text := List.replicate n (CodePoint.ofChar ' ')

/-- The text between `c`s: one piece more than there are `c`s. -/
def splitOn : Text → CodePoint → List Text
  | [], _ => [[]]
  | d :: t, c =>
    match splitOn t c with
    | piece :: pieces => if d = c then [] :: piece :: pieces else (d :: piece) :: pieces
    | [] => [[d]]

/-- Drops what satisfies `p` from both ends. -/
def trim (p : CodePoint → Bool) (t : Text) : Text := ((t.dropWhile p).reverse.dropWhile p).reverse

end Text

end LiquidationDrill
