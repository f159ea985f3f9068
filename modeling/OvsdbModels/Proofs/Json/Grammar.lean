/-
  OvsdbModels/Proofs/Json/Grammar.lean
  ====================================
  **The grammar of documents.**

  A tree is a document without its white space: numbers and strings are kept as they are written,
  members in their order.  `Spells` relates a tree to its texts, which differ in white space alone;
  one of them has none (`spells_text`).  What follows a value matters to its reading only if the value
  is a number, so texts are read up to a character that ends one (`Stops`).
-/
import OvsdbModels.Json.Text

namespace OvsdbModels.Json

/-! ### Strings -/

/-- A character of a string, as it is written. -/
inductive Symbol where
  | plain (c : Char) (h : 0x20 ≤ c.toNat ∧ c ≠ '"' ∧ c ≠ '\\')
  /-- A backslash and a letter that stands for a character. -/
  | short (letter value : Char) (h : shortEscape? letter = some value)
  /-- A backslash, a `u` and the hexadecimal digits of a UTF-16 code unit. -/
  | unit (digits : List Char) (n : Nat) (length : digits.length = 4)
      (h : Text.hexNumber? digits = some n)

def Symbol.text : Symbol → List Char
  | plain c _ => [c]
  | short letter _ _ => ['\\', letter]
  | unit digits _ _ _ => '\\' :: 'u' :: digits

def symbolsText (s : List Symbol) : List Char := s.flatMap Symbol.text

/-- A string between its quotes. -/
def quotedText (s : List Symbol) : List Char := '"' :: (symbolsText s ++ ['"'])

/-- The characters that a string stands for, unless half a surrogate pair stands alone. -/
def decode? : List Symbol → Option (List Char)
  | [] => some []
  | .plain c _ :: rest => (decode? rest).map (c :: ·)
  | .short _ value _ :: rest => (decode? rest).map (value :: ·)
  | .unit _ n _ _ :: rest =>
    if isTrailing n then none
    else if isLeading n then
      match rest with
      | .unit _ n' _ _ :: rest =>
        if isTrailing n' then
          (decode? rest).map (Char.ofNat (0x10000 + (n - 0xd800) * 0x400 + (n' - 0xdc00)) :: ·)
        else none
      | _ => none
    else (decode? rest).map (Char.ofNat n :: ·)

def name? (s : List Symbol) : Option String := (decode? s).map String.ofList

/-! ### Numbers -/

/-- One or more digits. -/
structure DigitRun where
  text : List Char
  ne_nil : text ≠ []
  digits : ∀ c ∈ text, c.isDigit = true

structure Exponent where
  upper : Bool
  /-- The sign that is written, `true` for a minus. -/
  sign : Option Bool
  digits : DigitRun

structure Numeral where
  negative : Bool
  whole : DigitRun
  /-- Zero stands alone before the point. -/
  zero : whole.text.head? = some '0' → whole.text = ['0']
  fraction : Option DigitRun
  exponent : Option Exponent

def signText : Option Bool → List Char
  | none => []
  | some false => ['+']
  | some true => ['-']

def exponentText : Option Exponent → List Char
  | none => []
  | some e => (if e.upper then 'E' else 'e') :: (signText e.sign ++ e.digits.text)

def fractionText : Option DigitRun → List Char
  | none => []
  | some digits => '.' :: digits.text

def Numeral.text (n : Numeral) : List Char :=
  (if n.negative then ['-'] else []) ++
    (n.whole.text ++ (fractionText n.fraction ++ exponentText n.exponent))

/-! ### Trees -/

inductive Tree where
  | null
  | boolean (b : Bool)
  | number (n : Numeral)
  | string (s : List Symbol)
  | array (items : List Tree)
  | object (members : List (List Symbol × Tree))

def IsBlank (s : List Char) : Prop := ∀ c ∈ s, isSpace c = true

/-- What stands in front of an item: white space, and a comma unless the item is the first. -/
inductive Lead : Bool → List Char → Prop where
  | first {blank : List Char} (h : IsBlank blank) : Lead true blank
  | later {blank blank' : List Char} (h : IsBlank blank) (h' : IsBlank blank') :
      Lead false (blank ++ ',' :: blank')

/-- The items of a container up to its closing bracket, from the first one or a later one on. -/
inductive Listed {α : Type} (Item : α → List Char → Prop) : Bool → List α → List Char → Prop where
  | done {first : Bool} {blank : List Char} (h : IsBlank blank) : Listed Item first [] blank
  | item {first : Bool} {a : α} {items : List α} {lead text rest : List Char}
      (hlead : Lead first lead) (hitem : Item a text) (hrest : Listed Item false items rest) :
      Listed Item first (a :: items) (lead ++ (text ++ rest))

/-- A member of an object. -/
inductive SpellsMember (Value : Tree → List Char → Prop) :
    List Symbol × Tree → List Char → Prop where
  | mk {name : List Symbol} {value : Tree} {blank blank' text : List Char} (h : IsBlank blank)
      (h' : IsBlank blank') (hvalue : Value value text) :
      SpellsMember Value (name, value) (quotedText name ++ (blank ++ ':' :: (blank' ++ text)))

/-- Whether a text is a way to write a tree. -/
inductive Spells : Tree → List Char → Prop where
  | null : Spells .null ['n', 'u', 'l', 'l']
  | boolTrue : Spells (.boolean true) ['t', 'r', 'u', 'e']
  | boolFalse : Spells (.boolean false) ['f', 'a', 'l', 's', 'e']
  | number (n : Numeral) : Spells (.number n) n.text
  | string (s : List Symbol) : Spells (.string s) (quotedText s)
  | array {items : List Tree} {inside : List Char} (h : Listed Spells true items inside) :
      Spells (.array items) ('[' :: (inside ++ [']']))
  | object {members : List (List Symbol × Tree)} {inside : List Char}
      (h : Listed (SpellsMember Spells) true members inside) :
      Spells (.object members) ('\x7b' :: (inside ++ ['\x7d']))

/-- Whether a document is a way to write a tree. -/
inductive IsDocument (tree : Tree) : List Char → Prop where
  | mk {blank text blank' : List Char} (h : IsBlank blank) (htext : Spells tree text)
      (h' : IsBlank blank') : IsDocument tree (blank ++ (text ++ blank'))

/-! ### Induction over trees -/

/-- What holds of a container if it holds of all that stands in it holds of every tree. -/
@[elab_as_elim]
theorem Tree.induct {motive : Tree → Prop} (null : motive .null)
    (boolean : ∀ b, motive (.boolean b)) (number : ∀ n, motive (.number n))
    (string : ∀ s, motive (.string s))
    (array : ∀ items, (∀ t ∈ items, motive t) → motive (.array items))
    (object : ∀ members, (∀ m ∈ members, motive m.2) → motive (.object members)) (t : Tree) :
    motive t :=
  match t with
  | .null => null
  | .boolean b => boolean b
  | .number n => number n
  | .string s => string s
  | .array items =>
    array items fun item _ => item.induct null boolean number string array object
  | .object members =>
    object members fun m _ => m.2.induct null boolean number string array object
termination_by t
decreasing_by
  · rename_i hitem
    have := List.sizeOf_lt_of_mem hitem
    simp only [Tree.array.sizeOf_spec]
    omega
  · rename_i hmember
    have := List.sizeOf_lt_of_mem hmember
    have : sizeOf m.2 < sizeOf m := by
      cases m
      simp only [Prod.mk.sizeOf_spec]
      omega
    simp only [Tree.object.sizeOf_spec]
    omega

/-! ### Texts without white space -/

mutual

/-- A tree written without white space. -/
def Tree.text : Tree → List Char
  | .null => ['n', 'u', 'l', 'l']
  | .boolean true => ['t', 'r', 'u', 'e']
  | .boolean false => ['f', 'a', 'l', 's', 'e']
  | .number n => n.text
  | .string s => quotedText s
  | .array items => '[' :: (itemsText true items ++ [']'])
  | .object members => '\x7b' :: (membersText true members ++ ['\x7d'])

def itemsText : Bool → List Tree → List Char
  | _, [] => []
  | first, t :: rest => (if first then [] else [',']) ++ (t.text ++ itemsText false rest)

def membersText : Bool → List (List Symbol × Tree) → List Char
  | _, [] => []
  | first, (name, value) :: rest =>
    (if first then [] else [',']) ++
      ((quotedText name ++ ':' :: value.text) ++ membersText false rest)

end

theorem isBlank_nil : IsBlank [] := fun _ h => absurd h List.not_mem_nil

theorem lead_compact (first : Bool) : Lead first (if first then [] else [',']) := by
  cases first with
  | true => exact .first isBlank_nil
  | false => exact .later isBlank_nil isBlank_nil

theorem listed_itemsText {items : List Tree} (h : ∀ t ∈ items, Spells t t.text) (first : Bool) :
    Listed Spells first items (itemsText first items) := by
  induction items generalizing first with
  | nil => exact .done isBlank_nil
  | cons t rest ih =>
    obtain ⟨ht, hrest⟩ := List.forall_mem_cons.mp h
    exact .item (lead_compact first) ht (ih hrest false)

theorem listed_membersText {members : List (List Symbol × Tree)}
    (h : ∀ m ∈ members, Spells m.2 m.2.text) (first : Bool) :
    Listed (SpellsMember Spells) first members (membersText first members) := by
  induction members generalizing first with
  | nil => exact .done isBlank_nil
  | cons m rest ih =>
    obtain ⟨hm, hrest⟩ := List.forall_mem_cons.mp h
    exact .item (lead_compact first) (.mk isBlank_nil isBlank_nil hm) (ih hrest false)

theorem spells_text (t : Tree) : Spells t t.text := by
  induction t using Tree.induct with
  | null => exact .null
  | boolean b =>
    cases b with
    | true => exact .boolTrue
    | false => exact .boolFalse
  | number n => exact .number n
  | string s => exact .string s
  | array items ih => exact .array (listed_itemsText ih true)
  | object members ih => exact .object (listed_membersText ih true)

theorem isDocument_text (t : Tree) : IsDocument t t.text := by
  have hdocument := IsDocument.mk isBlank_nil (spells_text t) isBlank_nil
  rwa [List.nil_append, List.append_nil] at hdocument

/-! ### What may follow a value -/

/-- Whether a text is empty or begins with a character that ends a number. -/
def Stops (rest : List Char) : Prop :=
  ∀ c, rest.head? = some c → c ∈ [' ', '\n', '\t', '\r', ',', ']', '\x7d']

end OvsdbModels.Json
