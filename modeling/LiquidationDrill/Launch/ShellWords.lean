import LiquidationDrill.Text.Basic

/-!
# Shell words

A command is written as words with white space between them. Quotes keep white space within a word, single ones
everything; a backslash keeps the next character, between double quotes only a double quote or a backslash.

- `ShellWords.split`: the words of a command, or why it has none.
-/

namespace LiquidationDrill

namespace ShellWords

/-- Why a text is no sequence of words. -/
inductive Fault where
  /-- The text ends within quotes. -/
  | unclosedQuotation
  /-- The text ends with the backslash. -/
  | nothingEscaped
  deriving DecidableEq

/-- The wording of a fault. -/
def Fault.message : Fault → Text
  | unclosedQuotation => "No closing quotation"
  | nothingEscaped => "No escaped character"

/-- Parts words. -/
def isGap (c : CodePoint) : Bool := c = ' ' || c = '\t' || c = '\r' || c = '\n'

/-- Where the next code point stands. -/
inductive Place where
  /-- Before a word. -/
  | between
  /-- In a word, of which the beginning has been read. -/
  | word (begun : Text)
  /-- After a backslash. -/
  | escaped (begun : Text)
  /-- Between quotes. -/
  | quoted (mark : CodePoint) (begun : Text)
  /-- After a backslash between double quotes. -/
  | quotedEscaped (begun : Text)

/-- A single or double quote. -/
def isMark (c : CodePoint) : Bool := c = '\'' || c = '"'

/-- The place after one more code point outside of quotes. -/
def Place.outside (begun : Text) (c : CodePoint) : Place :=
  if c = '\\' then .escaped begun else if isMark c then .quoted c begun else .word (begun ++ [c])

/-- The place after one more code point between quotes. -/
def Place.within (mark : CodePoint) (begun : Text) (c : CodePoint) : Place :=
  if c = mark then .word begun
  else if mark = '"' && c = '\\' then .quotedEscaped begun
  else .quoted mark (begun ++ [c])

/-- The place after an escaped code point between double quotes: the backslash stays where it escapes nothing. -/
def Place.unescaped (begun : Text) (c : CodePoint) : Place :=
  if c = '"' || c = '\\' then .quoted '"' (begun ++ [c]) else .quoted '"' (begun ++ [.ofChar '\\', c])

/-- The words of a text from a place on. -/
def splitFrom : Place → Text → Except Fault (List Text)
  | .between, [] => .ok []
  | .word begun, [] => .ok [begun]
  | .escaped _, [] => .error .nothingEscaped
  | .quoted _ _, [] => .error .unclosedQuotation
  | .quotedEscaped _, [] => .error .nothingEscaped
  | .between, c :: t => if isGap c then splitFrom .between t else splitFrom (.outside [] c) t
  | .word begun, c :: t =>
    if isGap c then (splitFrom .between t).map (begun :: ·) else splitFrom (.outside begun c) t
  | .escaped begun, c :: t => splitFrom (.word (begun ++ [c])) t
  | .quoted mark begun, c :: t => splitFrom (.within mark begun c) t
  | .quotedEscaped begun, c :: t => splitFrom (.unescaped begun c) t

/-- The words of a text. -/
def split (t : Text) : Except Fault (List Text) := splitFrom .between t

end ShellWords

end LiquidationDrill
