import LiquidationDrill.Text.Terminal
import LiquidationDrill.Text.Utf8

/-!
# Texts that are passed on

Halves of surrogate pairs have no bytes in UTF-8, so a text that holds some cannot be written.

- `Utf8.encode`: the bytes of a text, or the first stretch that has none;
- `Text.echoed`, `Text.echoedLines`: lines as they are written to the output;
- `Text.reported`: a text as it is written among the errors, where such halves are escaped;
- `Text.systemBytes`: the bytes of a file name or of an argument of a program. The system's own names may be no UTF-8;
  a half in the range of `CodePoint.isLoneByte` stands for each byte that is none.
-/

namespace LiquidationDrill

namespace Utf8

/-- A stretch of a text that has no bytes, with its position. -/
structure Unencodable where
  position : Nat
  stretch : Text
  deriving DecidableEq

/-- The wording: one code point is shown, and of several ones the positions. -/
def Unencodable.message (fault : Unencodable) : Text :=
  let place : Text :=
    match fault.stretch with
    | [c] => "character '\\u" ++ Text.hexPadded 4 c.val ++ "' in position " ++ Text.ofNat fault.position
    | stretch =>
      "characters in position " ++ Text.ofNat fault.position ++ "-" ++
        Text.ofNat (fault.position + stretch.length - 1)
  "'utf-8' codec can't encode " ++ place ++ ": surrogates not allowed"

/-- The first stretch of a text that has no bytes: from the first code point that lacks them up to the end of the halves
there. -/
def unencodable? (lacks : CodePoint → Bool) (t : Text) : Option Unencodable :=
  match t.dropWhile (!lacks ·) with
  | [] => none
  | rest => some ⟨(t.takeWhile (!lacks ·)).length, rest.takeWhile CodePoint.isSurrogate⟩

/-- The bytes of a text, if all of it has some. -/
def encode (t : Text) : Except Unencodable (List UInt8) :=
  match unencodable? CodePoint.isSurrogate t with
  | some fault => .error fault
  | none => .ok t.utf8

end Utf8

namespace Text

/-! ## Output and errors -/

/-- A line as it is written, without control sequences. -/
def echoed (line : Text) : Except Utf8.Unencodable Text :=
  let written := (line ++ "\n").plain
  (Utf8.encode written).map fun _ => written

/-- What is written of lines one after the other, and why it ends before the last of them, if it does. -/
def echoedLines : List Text → Text × Option Utf8.Unencodable
  | [] => ([], none)
  | line :: lines =>
    match line.echoed with
    | .error fault => ([], some fault)
    | .ok written => (written ++ (echoedLines lines).1, (echoedLines lines).2)

/-- A text as it is written among the errors: halves of surrogate pairs are escaped. -/
def reported (t : Text) : Text :=
  t.flatMap fun c => if c.isSurrogate then "\\u" ++ hexPadded 4 c.val else [c]

end Text

/-! ## Names and arguments -/

/-- Stands for a byte that is no UTF-8. -/
def CodePoint.isLoneByte (c : CodePoint) : Bool := 0xDC80 ≤ c.val && c.val ≤ 0xDCFF

/-- Why the system cannot be given a text. -/
inductive SystemFault where
  | unencodable (fault : Utf8.Unencodable)
  /-- The system takes a NUL for the end of a name. -/
  | nul

/-- The wording of a fault. -/
def SystemFault.message : SystemFault → Text
  | unencodable fault => fault.message
  | nul => "embedded null byte"

/-- The bytes that the system is given for a name or an argument. -/
def Text.systemBytes (t : Text) : Except SystemFault (List UInt8) :=
  match Utf8.unencodable? (fun c => c.isSurrogate && !c.isLoneByte) t with
  | some fault => .error (.unencodable fault)
  | none =>
    if t.any (·.val = 0) then .error .nul
    else .ok (t.flatMap fun c => if c.isLoneByte then [.ofNat (c.val - 0xDC00)] else c.utf8)

end LiquidationDrill
