/-
  OvsdbModels/Json/Text.lean
  ==========================
  Reading strings.  Characters are taken as they stand; an escape gives one character, which may be
  written as a surrogate pair.
-/
import OvsdbModels.Json.Reader
import OvsdbModels.Text.Letter

namespace OvsdbModels.Json

def byteCount : List Char → Nat
  | [] => 0
  | c :: rest => c.utf8Size + byteCount rest

def hexEscape : Reader Nat := fun cursor =>
  let digits := cursor.rest.take 4
  let size := byteCount digits
  if size < 4 then .error ⟨.unfinishedString, some (cursor.offset + size)⟩ cursor
  else
    match Text.hexNumber? digits with
    | some n => .ok n { cursor with rest := cursor.rest.drop 4, offset := cursor.offset + 4 }
    | none => .error ⟨.invalidEscape, some (cursor.offset + 4)⟩ cursor

/-- The first half of a surrogate pair. -/
def isLeading (n : Nat) : Bool := decide (0xd800 ≤ n) && decide (n ≤ 0xdbff)

/-- The second half of a surrogate pair. -/
def isTrailing (n : Nat) : Bool := decide (0xdc00 ≤ n) && decide (n ≤ 0xdfff)

/-- A character that has to follow the first half of a surrogate pair. -/
def pairMark (expected : Char) : Reader Unit := do
  match ← peek with
  | none => failHere .unfinishedString
  | some c => if c = expected then advance else failAhead 1 .unfinishedEscape

/-- A `\u` escape behind its `u`; half a surrogate pair must have its other half beside it. -/
def unicodeEscape : Reader Char := do
  let n ← hexEscape
  if isTrailing n then failHere .loneSurrogate
  else if isLeading n then
    pairMark '\\'
    pairMark 'u'
    let n' ← hexEscape
    if isTrailing n' then pure (Char.ofNat (0x10000 + (n - 0xd800) * 0x400 + (n' - 0xdc00)))
    else failHere .loneSurrogate
  else pure (Char.ofNat n)

def shortEscape? : Char → Option Char
  | '"' => some '"'
  | '\\' => some '\\'
  | '/' => some '/'
  | 'b' => some '\x08'
  | 'f' => some '\x0c'
  | 'n' => some '\n'
  | 'r' => some '\r'
  | 't' => some '\t'
  | _ => none

/-- An escape behind its backslash, with `unicode` reading what follows a `u`. -/
def escape {α : Type} (short : Char → α) (unicode : Reader α) : Reader α := do
  match ← peek with
  | none => failHere .unfinishedString
  | some 'u' =>
    advance
    unicode
  | some c =>
    match shortEscape? c with
    | some value =>
      advance
      pure (short value)
    | none => failAhead 1 .invalidEscape

/-- The characters of a string up to its closing quote, which is taken too. -/
def charactersLoop : Nat → List Char → Reader String
  | 0, _ => failHere .unfinishedString
  | fuel + 1, done => do
    match ← peek with
    | none => failHere .unfinishedString
    | some '"' =>
      advance
      pure (String.ofList done.reverse)
    | some '\\' =>
      advance
      let c ← escape id unicodeEscape
      charactersLoop fuel (c :: done)
    | some c =>
      if c.toNat < 0x20 then failAhead 1 .controlCharacter
      else
        advance
        charactersLoop fuel (c :: done)

/-- A string, of which the opening quote is the next character. -/
def stringLiteral : Reader String := do
  advance
  charactersLoop (← fuel) []

/-! ### Strings that are passed over -/

/-- Passes over a string up to its closing quote; halves of surrogate pairs may stand alone. -/
def passStringLoop : Nat → Reader Unit
  | 0 => failHere .unfinishedString
  | fuel + 1 => do
    match ← peek with
    | none => failHere .unfinishedString
    | some '"' => advance
    | some '\\' =>
      advance
      escape (fun _ => ()) (do let _ ← hexEscape)
      passStringLoop fuel
    | some c =>
      if c.toNat < 0x20 then failHere .controlCharacter
      else
        advance
        passStringLoop fuel

/-- Passes over a string, of which the opening quote is the next character. -/
def passString : Reader Unit := do
  advance
  passStringLoop (← fuel)

end OvsdbModels.Json
