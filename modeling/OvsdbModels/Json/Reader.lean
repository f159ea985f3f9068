/-
  OvsdbModels/Json/Reader.lean
  ============================
  Reading a document from front to back, one piece at a time.

  A reader takes a cursor and leaves it behind what it read, also where it fails: a failure that
  concerns a whole array or object is placed where the reading of that container comes to its end.
  Offsets count bytes of the document in UTF-8.
-/
import OvsdbModels.Json.Failure

namespace OvsdbModels.Json

structure Cursor where
  /-- The text that is still to be read. -/
  rest : List Char
  /-- The number of bytes read. -/
  offset : Nat
  /-- A bound on the number of steps that any loop over the rest of the document takes. -/
  fuel : Nat
  deriving DecidableEq, Repr

def Cursor.start (source : String) : Cursor :=
  let text := source.toList
  ⟨text, 0, 2 * text.length + 2⟩

/-- A failure and, once it is known, the offset where it is reported. -/
structure Problem where
  failure : Failure
  offset? : Option Nat
  deriving DecidableEq, Repr

abbrev Reader := EStateM Problem Cursor

/-! ### Failing -/

/-- Fails at a distance from the cursor. -/
def failAhead {α : Type} (bytes : Nat) (failure : Failure) : Reader α := fun cursor =>
  .error ⟨failure, some (cursor.offset + bytes)⟩ cursor

def failHere {α : Type} (failure : Failure) : Reader α := failAhead 0 failure

/-- Fails at the byte that comes next: behind it, or at the end of the document. -/
def failNext {α : Type} (failure : Failure) : Reader α := fun cursor =>
  let bytes := if cursor.rest.isEmpty then 0 else 1
  .error ⟨failure, some (cursor.offset + bytes)⟩ cursor

/-- Fails with the container that is being read. -/
def failWhole {α : Type} (failure : Failure) : Reader α := throw ⟨failure, none⟩

/-! ### Characters -/

def peek : Reader (Option Char) := fun cursor => .ok cursor.rest.head? cursor

def advance : Reader Unit := fun cursor =>
  match cursor.rest with
  | [] => .ok () cursor
  | c :: rest => .ok () { cursor with rest := rest, offset := cursor.offset + c.utf8Size }

/-- White space between the pieces of a document. -/
def isSpace (c : Char) : Bool := c = ' ' || c = '\n' || c = '\t' || c = '\r'

/-- The next character that is not white space, which is not taken. -/
def peekPiece : Reader (Option Char) := fun cursor =>
  let rest := cursor.rest.dropWhile isSpace
  let spaces := (cursor.rest.takeWhile isSpace).length
  .ok rest.head? { cursor with rest := rest, offset := cursor.offset + spaces }

/-- The bound on the steps of a loop. -/
def fuel : Reader Nat := fun cursor => .ok cursor.fuel cursor

/-- The rest of a word of which the first letter has been taken. -/
def wordTail : List Char → Reader Unit
  | [] => pure ()
  | expected :: more => do
    match ← peek with
    | none => failHere .unfinishedValue
    | some c =>
      if c = expected then
        advance
        wordTail more
      else failAhead 1 .misspelledWord

/-- A word, of which the first letter is the next character. -/
def word (letters : List Char) : Reader Unit := do
  advance
  wordTail letters.tail

/-! ### Containers -/

/-- Whether another item of an array follows; the cursor is then in front of it. -/
def hasItem (first : Bool) : Reader Bool := do
  match ← peekPiece with
  | none => failNext .unfinishedArray
  | some ']' => pure false
  | some c =>
    if first then pure true
    else if c = ',' then
      advance
      match ← peekPiece with
      | none => failNext .unfinishedValue
      | some ']' => failNext .trailingComma
      | some _ => pure true
    else failNext .expectedItemOrEnd

/-- Whether another member of an object follows; the cursor is then in front of its name. -/
def hasMember (first : Bool) : Reader Bool := do
  match ← peekPiece with
  | none => failNext .unfinishedObject
  | some '\x7d' => pure false
  | some c =>
    if first then
      if c = '"' then pure true else failNext .nameNotString
    else if c = ',' then
      advance
      match ← peekPiece with
      | none => failNext .unfinishedValue
      | some '"' => pure true
      | some '\x7d' => failNext .trailingComma
      | some _ => failNext .nameNotString
    else failNext .expectedMemberOrEnd

/-- The colon between a member's name and its value. -/
def colon : Reader Unit := do
  match ← peekPiece with
  | none => failNext .unfinishedObject
  | some ':' => advance
  | some _ => failNext .expectedColon

def endArray : Reader Unit := do
  match ← peekPiece with
  | none => failNext .unfinishedArray
  | some ']' => advance
  | some ',' =>
    advance
    match ← peekPiece with
    | some ']' => failNext .trailingComma
    | _ => failNext .trailingCharacters
  | some _ => failNext .trailingCharacters

def endObject : Reader Unit := do
  match ← peekPiece with
  | none => failNext .unfinishedObject
  | some '\x7d' => advance
  | some ',' => failNext .trailingComma
  | some _ => failNext .trailingCharacters

/-- Reads the inside of a container and then its end, also when the inside failed.  The failure of
the inside is the one reported; if it has no place yet, it gets the place where the end's reading
stopped. -/
def enclosed {α : Type} (inside : Reader α) (finish : Reader Unit) : Reader α := fun cursor =>
  match inside cursor with
  | .ok a after =>
    match finish after with
    | .ok _ final => .ok a final
    | .error problem final => .error problem final
  | .error problem after =>
    let final :=
      match finish after with
      | .ok _ final => final
      | .error _ final => final
    .error ⟨problem.failure, some (problem.offset?.getD final.offset)⟩ final

/-- The number of containers that may stand inside one another. -/
def maxDepth : Nat := 127

/-- Goes one container deeper, if `depth` allows one more. -/
def deeper {α : Type} (depth : Nat) (inside : Nat → Reader α) : Reader α :=
  match depth with
  | 0 => failNext .tooDeep
  | depth + 1 => inside depth

/-- An array, of which the opening bracket is the next character. -/
def inArray {α : Type} (depth : Nat) (inside : Nat → Reader α) : Reader α :=
  deeper depth fun depth => do
    advance
    enclosed (inside depth) endArray

/-- An object, of which the opening brace is the next character. -/
def inObject {α : Type} (depth : Nat) (inside : Nat → Reader α) : Reader α :=
  deeper depth fun depth => do
    advance
    enclosed (inside depth) endObject

/-- The items of an array up to its end. -/
def itemsLoop {α : Type} (item : Reader α) : Nat → List α → Reader (List α)
  | 0, _ => failHere .unfinishedArray
  | fuel + 1, done => do
    if ← hasItem done.isEmpty then
      let a ← item
      itemsLoop item fuel (a :: done)
    else pure done.reverse

/-- The items of an array up to its end. -/
def items {α : Type} (item : Reader α) : Reader (List α) := do
  itemsLoop item (← fuel) []

/-! ### Documents -/

/-- Reads a whole document: one value and nothing but white space after it. -/
def readAll {α : Type} (value : Nat → Reader α) (source : String) : Except Problem α :=
  let whole : Reader α := do
    let a ← value maxDepth
    match ← peekPiece with
    | none => pure a
    | some _ => failNext .trailingCharacters
  match whole (Cursor.start source) with
  | .ok a _ => .ok a
  | .error problem _ => .error problem

end OvsdbModels.Json
