/-
  OvsdbModels/Proofs/Json/Place.lean
  ==================================
  **Where a member stands in a document.**

  A way leads from a tree to one of its members, through members and items (`Step`).  `KeyPlace` says
  between which parts of a text the key of that member stands; around the key the text is a way to write
  the tree (`KeyPlace.spells`).
-/
import OvsdbModels.Proofs.Json.Container

namespace OvsdbModels.Json

/-! ### Items in front -/

/-- The items of a container in front of some item, up to that item. -/
inductive Ahead {α : Type} (Item : α → List Char → Prop) : Bool → List α → List Char → Prop where
  | last {first : Bool} {lead : List Char} (h : Lead first lead) : Ahead Item first [] lead
  | item {first : Bool} {a : α} {items : List α} {lead text rest : List Char}
      (hlead : Lead first lead) (hitem : Item a text) (hrest : Ahead Item false items rest) :
      Ahead Item first (a :: items) (lead ++ (text ++ rest))

theorem Ahead.listed {α : Type} {Item : α → List Char → Prop} {first : Bool} {items later : List α}
    {a : α} {ahead text rest : List Char} (h : Ahead Item first items ahead) (hitem : Item a text)
    (hrest : Listed Item false later rest) :
    Listed Item first (items ++ a :: later) (ahead ++ (text ++ rest)) := by
  induction h with
  | last hlead => exact .item hlead hitem hrest
  | item hlead hfirst _ ih =>
    simp only [List.append_assoc]
    exact .item hlead hfirst ih

/-! ### Ways -/

/-- A step into a container: to the last member of a name, or to the item at a position. -/
inductive Step where
  | member (name : String)
  | item (position : Nat)
  deriving DecidableEq

/-- The names of the members on a way. -/
def wayNames (way : List Step) : List String :=
  way.filterMap fun step =>
    match step with
    | .member name => some name
    | .item _ => none

/-- Whether a key has a name that none of the later members has. -/
structure LastNamed (name : String) (key : List Symbol) (later : List (List Symbol × Tree)) :
    Prop where
  named : name? key = some name
  last : ∀ m ∈ later, name? m.1 ≠ some name

/-- The place of the key of the member that a way leads to, in a text of a tree. -/
inductive KeyPlace :
    Tree → List Step → (before : List Char) → (key : List Symbol) → (after : List Char) → Prop where
  | here {ms later : List (List Symbol × Tree)} {name : String} {key : List Symbol} {value : Tree}
      {ahead blank blank' text rest : List Char} (hahead : Ahead (SpellsMember Spells) true ms ahead)
      (hname : LastNamed name key later) (hblank : IsBlank blank) (hblank' : IsBlank blank')
      (htext : Spells value text) (hrest : Listed (SpellsMember Spells) false later rest) :
      KeyPlace (.object (ms ++ (key, value) :: later)) [.member name] ('\x7b' :: ahead) key
        (blank ++ ':' :: (blank' ++ (text ++ (rest ++ ['\x7d']))))
  | member {ms later : List (List Symbol × Tree)} {name : String} {outer key : List Symbol}
      {value : Tree} {way : List Step} {ahead blank blank' before after rest : List Char}
      (hahead : Ahead (SpellsMember Spells) true ms ahead) (hname : LastNamed name outer later)
      (hblank : IsBlank blank) (hblank' : IsBlank blank')
      (hplace : KeyPlace value way before key after)
      (hrest : Listed (SpellsMember Spells) false later rest) :
      KeyPlace (.object (ms ++ (outer, value) :: later)) (.member name :: way)
        ('\x7b' :: (ahead ++ (quotedText outer ++ (blank ++ ':' :: (blank' ++ before))))) key
        (after ++ (rest ++ ['\x7d']))
  | item {items later : List Tree} {value : Tree} {key : List Symbol} {way : List Step}
      {ahead before after rest : List Char} (hahead : Ahead Spells true items ahead)
      (hplace : KeyPlace value way before key after) (hrest : Listed Spells false later rest) :
      KeyPlace (.array (items ++ value :: later)) (.item items.length :: way)
        ('[' :: (ahead ++ before)) key (after ++ (rest ++ [']']))

/-- The place of a key in a document. -/
inductive DocumentKey (tree : Tree) (way : List Step) :
    (before : List Char) → (key : List Symbol) → (after : List Char) → Prop where
  | mk {blank before after blank' : List Char} {key : List Symbol} (h : IsBlank blank)
      (hplace : KeyPlace tree way before key after) (h' : IsBlank blank') :
      DocumentKey tree way (blank ++ before) key (after ++ blank')

theorem spells_object_member (key : List Symbol) {ms later : List (List Symbol × Tree)} {value : Tree}
    {ahead blank blank' text rest : List Char} (hahead : Ahead (SpellsMember Spells) true ms ahead)
    (hblank : IsBlank blank) (hblank' : IsBlank blank') (htext : Spells value text)
    (hrest : Listed (SpellsMember Spells) false later rest) :
    Spells (.object (ms ++ (key, value) :: later))
      ('\x7b' :: (ahead ++ (quotedText key ++ (blank ++ ':' :: (blank' ++
        (text ++ (rest ++ ['\x7d']))))))) := by
  have hmember : SpellsMember Spells (key, value) _ := .mk hblank hblank' htext
  have hspells := Spells.object (hahead.listed hmember hrest)
  simp only [List.append_assoc, List.cons_append] at hspells
  exact hspells

/-- A key stands in a text of its tree. -/
theorem KeyPlace.spells {tree : Tree} {way : List Step} {before after : List Char}
    {key : List Symbol} (h : KeyPlace tree way before key after) :
    Spells tree (before ++ (quotedText key ++ after)) := by
  induction h with
  | here hahead _ hblank hblank' htext hrest =>
    exact spells_object_member _ hahead hblank hblank' htext hrest
  | @member _ _ _ outer _ _ _ _ _ _ _ _ _ hahead _ hblank hblank' _ hrest ih =>
    have hspells := spells_object_member outer hahead hblank hblank' ih hrest
    simp only [List.append_assoc, List.cons_append] at hspells ⊢
    exact hspells
  | item hahead _ hrest ih =>
    have hspells := Spells.array (hahead.listed ih hrest)
    simp only [List.append_assoc, List.cons_append] at hspells ⊢
    exact hspells

theorem DocumentKey.isDocument {tree : Tree} {way : List Step} {before after : List Char}
    {key : List Symbol} (h : DocumentKey tree way before key after) :
    IsDocument tree (before ++ (quotedText key ++ after)) := by
  cases h with
  | mk hblank hplace hblank' =>
    have hdocument := IsDocument.mk hblank hplace.spells hblank'
    simp only [List.append_assoc] at hdocument ⊢
    exact hdocument

/-! ### Places in texts without white space -/

theorem listed_later (ms : List (List Symbol × Tree)) :
    Listed (SpellsMember Spells) false ms (membersText false ms) :=
  listed_membersText (fun m _ => spells_text m.2) false

theorem ahead_one (m : List Symbol × Tree) :
    Ahead (SpellsMember Spells) true [m] (quotedText m.1 ++ ':' :: m.2.text ++ [',']) := by
  have hlater : Ahead (SpellsMember Spells) false [] [','] := .last (lead_compact false)
  exact .item (lead_compact true) (.mk isBlank_nil isBlank_nil (spells_text m.2)) hlater

/-- A way that begins with the first member of an object. -/
theorem KeyPlace.first {name : String} {outer key : List Symbol} {value : Tree} {way : List Step}
    {before after : List Char} {later : List (List Symbol × Tree)}
    (hname : LastNamed name outer later) (hplace : KeyPlace value way before key after) :
    KeyPlace (.object ((outer, value) :: later)) (.member name :: way)
      ('\x7b' :: (quotedText outer ++ ':' :: before)) key
      (after ++ (membersText false later ++ ['\x7d'])) :=
  .member (.last (lead_compact true)) hname isBlank_nil isBlank_nil hplace (listed_later later)

end OvsdbModels.Json
