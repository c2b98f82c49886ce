import LiquidationDrill.Text.Basic

/-!
# Similar texts

How similar two texts are is measured by the code points of matching blocks: the longest piece that stands in both,
the first such piece of the first text and then of the second, and so on to the left and to the right of it.

- `Text.similarity`: twice the code points in matching blocks;
- `Text.closeMatches`: the three candidates most similar to a word, those below three fifths left out.
-/

namespace LiquidationDrill

namespace Text

/-- The length of the longest common beginning. -/
def commonStart : Text → Text → Nat
  | c :: s, d :: t => if c = d then commonStart s t + 1 else 0
  | _, _ => 0

/-- A piece that stands in two texts: where in each, and its length. -/
structure Block where
  left : Nat
  right : Nat
  size : Nat

/-- The first of the longest pieces that begin both `s` and some end of the second text, from position `right`. -/
def longestAt (left : Nat) (s : Text) : (right : Nat) → Text → Block → Block
  | _, [], best => best
  | right, d :: t, best =>
    let size := commonStart s (d :: t)
    longestAt left s (right + 1) t (if best.size < size then ⟨left, right, size⟩ else best)

/-- The first of the longest pieces that stand in both texts, from position `left` of the first. -/
def longestFrom (left : Nat) : Text → Text → Block → Block
  | [], _, best => best
  | c :: s, t, best => longestFrom (left + 1) s t (longestAt left (c :: s) 0 t best)

/-- The code points of all matching blocks; `fuel` bounds the depth of the search. -/
def matching : (fuel : Nat) → Text → Text → Nat
  | 0, _, _ => 0
  | fuel + 1, s, t =>
    match longestFrom 0 s t ⟨0, 0, 0⟩ with
    | ⟨_, _, 0⟩ => 0
    | ⟨left, right, size + 1⟩ =>
      size + 1 + matching fuel (s.take left) (t.take right) +
        matching fuel (s.drop (left + size + 1)) (t.drop (right + size + 1))

/-- Twice the code points of all matching blocks. It is at most the sum of the lengths, for equal texts. -/
def similarity (s t : Text) : Nat := 2 * matching (s.length + 1) s t

/-- Order by code points, the shorter text first where it begins the other. -/
def before : Text → Text → Bool
  | [], [] => false
  | [], _ :: _ => true
  | _ :: _, [] => false
  | c :: s, d :: t => c.val < d.val || (c.val == d.val && before s t)

/-- The text comes first in the order by code points, or is the other one. -/
def notAfter (s t : Text) : Bool := !before t s

/-- A candidate with its similarity to the word and the greatest similarity they could have. -/
structure Candidate where
  text : Text
  similarity : Nat
  total : Nat

/-- The more similar candidate is better, and of equally similar ones the later. -/
def Candidate.better (a b : Candidate) : Bool :=
  a.similarity * b.total > b.similarity * a.total ||
    (a.similarity * b.total == b.similarity * a.total && b.text.notAfter a.text)

/-- The three candidates most similar to a word, the best first; a share of three fifths is required. -/
def closeMatches (word : Text) (candidates : List Text) : List Text :=
  let measured := candidates.map fun t => Candidate.mk t (similarity t word) (t.length + word.length)
  let close := measured.filter fun c => 3 * c.total ≤ 5 * c.similarity
  ((close.mergeSort Candidate.better).take 3).map Candidate.text

end Text

end LiquidationDrill
