/-
  OvsdbModels/Schema/KeySpan.lean
  ===============================
  Finding the keys of a document by their text.

  A key is its name between double quotes with a colon behind it; blanks may stand before the colon.
  So a string that only happens to be equal to the name is passed over.
-/
import OvsdbModels.Text.Blank
import OvsdbModels.Text.Position

namespace OvsdbModels

open Text

/-- Whether a text begins with a colon, blanks aside. -/
def beginsWithColon (s : List Char) : Bool :=
  match trimFront s with
  | ':' :: _ => true
  | _ => false

/-- The first key with the given text, quotes included, in a text that begins at the byte `here`:
its offset and what follows it.  The first `skip` characters belong to an occurrence that is no
key. -/
def findKeyFrom (quotedKey : List Char) (here skip : Nat) : List Char → Option (Nat × List Char)
  | [] => none
  | c :: rest =>
    match skip with
    | n + 1 => findKeyFrom quotedKey (here + c.utf8Size) n rest
    | 0 =>
      match quotedKey.isPrefixOf? (c :: rest) with
      | some after =>
        if beginsWithColon after then some (here, after)
        else findKeyFrom quotedKey (here + c.utf8Size) (quotedKey.length - 1) rest
      | none => findKeyFrom quotedKey (here + c.utf8Size) 0 rest

/-- The span of the last key of a path in a text that begins at the byte `here`; each key is looked
for behind the one before it. -/
def keySpanFrom (here : Nat) (s : List Char) : List String → Option Span
  | [] => none
  | key :: path => do
    let (start, after) ← findKeyFrom ('"' :: key.toList ++ ['"']) here 0 s
    let size := key.utf8ByteSize
    match path with
    | [] => pure ⟨start + 1, size⟩
    | _ => keySpanFrom (start + size + 2) after path

/-- The span of the last key of a path. -/
def keySpan? (source : String) (path : List String) : Option Span :=
  keySpanFrom 0 source.toList path

end OvsdbModels
