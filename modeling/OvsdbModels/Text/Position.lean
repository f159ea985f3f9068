/-
  OvsdbModels/Text/Position.lean
  ==============================
  Places in a text: byte offsets, and lines with columns.

  A line feed ends the line that it stands in.  Columns count bytes.
-/

namespace OvsdbModels.Text

/-- A stretch of a text, in bytes. -/
structure Span where
  offset : Nat
  length : Nat
  deriving DecidableEq, Repr

/-- A line, counted from one, and a number of bytes of it. -/
structure Position where
  line : Nat
  column : Nat
  deriving DecidableEq, Repr

/-- The position that lies `offset` bytes into a text, of which the given number of lines, the last
of them begun at `start`, lie before the byte `here` where the rest begins. -/
def positionFrom (offset line start here : Nat) : List Char → Position
  | [] => ⟨line, offset - start⟩
  | c :: rest =>
    if offset ≤ here then ⟨line, offset - start⟩
    else if c = '\n' then positionFrom offset (line + 1) (here + 1) (here + 1) rest
    else positionFrom offset line start (here + c.utf8Size) rest

/-- The position at a byte offset of a text. -/
def positionAt (source : String) (offset : Nat) : Position :=
  positionFrom offset 1 0 0 source.toList

/-- The number of bytes before the line that has `lines` lines before it. -/
def bytesBefore (lines : Nat) : List Char → Nat
  | [] => 0
  | c :: rest =>
    match lines with
    | 0 => 0
    | n + 1 => c.utf8Size + bytesBefore (if c = '\n' then n else n + 1) rest

/-- The byte offset of a line and a column counted from one; column zero is the start of the line
too.  There is none for line zero, nor behind the end of the text. -/
def offsetOf? (source : String) (position : Position) : Option Nat :=
  if position.line = 0 then none
  else
    let offset := bytesBefore (position.line - 1) source.toList + (position.column - 1)
    if offset ≤ source.utf8ByteSize then some offset else none

end OvsdbModels.Text
