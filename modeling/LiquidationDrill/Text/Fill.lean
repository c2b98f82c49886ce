import LiquidationDrill.Text.Basic

/-!
# Filled lines

A paragraph is filled into lines of a width: a line takes as many words as fit, and the blanks where a line ends are
left out.
-/

namespace LiquidationDrill

namespace Text

/-- Words, each with the number of blanks before it. -/
def spacedWords : (blanks : Nat) → Text → List (Nat × Text)
  | _, [] => []
  | blanks, c :: t =>
    if c = ' ' then spacedWords (blanks + 1) t
    else
      match spacedWords 0 t with
      | (0, word) :: words => (blanks, c :: word) :: words
      | words => (blanks, [c]) :: words

/-- Fills lines: `line` has been begun. -/
def fillAfter (width : Nat) (line : Text) : List (Nat × Text) → List Text
  | [] => [line]
  | (blanks, word) :: words =>
    if line.length + blanks + word.length ≤ width then fillAfter width (line ++ spaces blanks ++ word) words
    else line :: fillAfter width word words

/-- The lines of a paragraph at a width. -/
def fill (width : Nat) (t : Text) : List Text :=
  match spacedWords 0 t with
  | [] => []
  | (_, word) :: words => fillAfter width word words

end Text

end LiquidationDrill
