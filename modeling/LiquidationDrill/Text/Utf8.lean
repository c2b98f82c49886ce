import LiquidationDrill.Text.Numeral

/-!
# UTF-8

- `Text.utf8`: the bytes of a text;
- `Utf8.decode`: the text of bytes, or the first place where they are no UTF-8 and why;
- `Utf8.decodeLossy`: the same with U+FFFD for each stretch that cannot be read.

Bytes are read one at a time by `Utf8.feed`, which knows the sequence that has begun (`Utf8.Partial`). A stretch
that cannot be read is the longest beginning of a well-formed sequence, or one byte that begins none.
-/

namespace LiquidationDrill

/-- The bytes of one code point. -/
def CodePoint.utf8 (c : CodePoint) : List UInt8 :=
  let tail (shift : Nat) : UInt8 := .ofNat (0x80 + c.val >>> shift % 0x40)
  if c.val < 0x80 then [.ofNat c.val]
  else if c.val < 0x800 then [.ofNat (0xC0 + c.val >>> 6), tail 0]
  else if c.val < 0x10000 then [.ofNat (0xE0 + c.val >>> 12), tail 6, tail 0]
  else [.ofNat (0xF0 + c.val >>> 18), tail 12, tail 6, tail 0]

/-- The bytes of a text. -/
def Text.utf8 (t : Text) : List UInt8 := t.flatMap CodePoint.utf8

namespace Utf8

/-- Why bytes are no UTF-8. -/
inductive Flaw where
  /-- A byte that begins no sequence. -/
  | start
  /-- A sequence goes on with a byte that cannot continue it. -/
  | continuation
  /-- The bytes end within a sequence. -/
  | ending
  deriving DecidableEq

/-- The first flaw of a sequence of bytes. -/
structure Malformed where
  flaw : Flaw
  /-- The position of the first byte that cannot be read. -/
  position : Nat
  /-- That byte. -/
  byte : UInt8
  /-- How many bytes belong to the flaw. -/
  length : Nat
  deriving DecidableEq

/-- The wording of a flaw. -/
def Flaw.reason : Flaw → Text
  | start => "invalid start byte"
  | continuation => "invalid continuation byte"
  | ending => "unexpected end of data"

/-- The wording: one byte is shown, and of several ones the positions. -/
def Malformed.message (m : Malformed) : Text :=
  let place : Text :=
    if m.length = 1 then "byte 0x" ++ Text.hexByte m.byte ++ " in position " ++ Text.ofNat m.position
    else "bytes in position " ++ Text.ofNat m.position ++ "-" ++ Text.ofNat (m.position + m.length - 1)
  "'utf-8' codec can't decode " ++ place ++ ": " ++ m.flaw.reason

/-- A sequence that has begun and is not complete. -/
structure Partial where
  /-- Its first byte. -/
  first : UInt8
  /-- How many of its bytes have been read. -/
  taken : Nat
  /-- The bits they carry. -/
  bits : Nat
  /-- How many bytes follow the next one. -/
  remaining : Nat
  /-- The range of the next byte. -/
  lowest : Nat
  highest : Nat
  deriving DecidableEq

/-- Reads the first byte of a sequence. The range of the second byte excludes the sequences that a shorter one
could replace, halves of surrogate pairs and numbers beyond the last code point. -/
def first (b : UInt8) : Except Flaw (Option CodePoint × Option Partial) :=
  let n := b.toNat
  if n < 0x80 then .ok (some (CodePoint.ofNat n), none)
  else if n < 0xC2 then .error .start
  else if n < 0xE0 then .ok (none, some ⟨b, 1, n - 0xC0, 0, 0x80, 0xBF⟩)
  else if n < 0xF0 then
    .ok (none, some ⟨b, 1, n - 0xE0, 1, if n = 0xE0 then 0xA0 else 0x80, if n = 0xED then 0x9F else 0xBF⟩)
  else if n < 0xF5 then
    .ok (none, some ⟨b, 1, n - 0xF0, 2, if n = 0xF0 then 0x90 else 0x80, if n = 0xF4 then 0x8F else 0xBF⟩)
  else .error .start

/-- Reads a byte of the sequence `p`. -/
def next (p : Partial) (b : UInt8) : Except Flaw (Option CodePoint × Option Partial) :=
  if p.lowest ≤ b.toNat ∧ b.toNat ≤ p.highest then
    let bits := p.bits * 0x40 + (b.toNat - 0x80)
    match p.remaining with
    | 0 => .ok (some (CodePoint.ofNat bits), none)
    | remaining + 1 => .ok (none, some ⟨p.first, p.taken + 1, bits, remaining, 0x80, 0xBF⟩)
  else .error .continuation

/-- Reads one byte: the code point it completes, if any, and the sequence it belongs to otherwise. -/
def feed : Option Partial → UInt8 → Except Flaw (Option CodePoint × Option Partial)
  | none, b => first b
  | some p, b => next p b

/-- Reads bytes that begin at `position`, after those of `p`. -/
def decodeFrom (position : Nat) : Option Partial → List UInt8 → Except Malformed Text
  | none, [] => .ok []
  | some p, [] => .error ⟨.ending, position - p.taken, p.first, p.taken⟩
  | p, b :: bytes =>
    match feed p b, p with
    | .ok (c, p'), _ => (decodeFrom (position + 1) p' bytes).map (c.toList ++ ·)
    | .error flaw, none => .error ⟨flaw, position, b, 1⟩
    | .error flaw, some p => .error ⟨flaw, position - p.taken, p.first, p.taken⟩

/-- The text of bytes, or the first place where they are no UTF-8. -/
def decode (bytes : List UInt8) : Except Malformed Text := decodeFrom 0 none bytes

/-- Reads bytes after those of `p`. A byte that cannot continue a sequence is read again as the first of one. -/
def decodeLossyFrom : Option Partial → List UInt8 → Text
  | none, [] => []
  | some _, [] => [CodePoint.replacement]
  | p, b :: bytes =>
    match feed p b, p with
    | .ok (c, p'), _ => c.toList ++ decodeLossyFrom p' bytes
    | .error _, none => CodePoint.replacement :: decodeLossyFrom none bytes
    | .error _, some _ =>
      match first b with
      | .ok (c, p') => CodePoint.replacement :: (c.toList ++ decodeLossyFrom p' bytes)
      | .error _ => CodePoint.replacement :: CodePoint.replacement :: decodeLossyFrom none bytes

/-- The text of bytes, with the replacement character for each stretch that cannot be read. -/
def decodeLossy (bytes : List UInt8) : Text := decodeLossyFrom none bytes

end Utf8

end LiquidationDrill
