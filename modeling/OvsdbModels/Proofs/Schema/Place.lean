/-
  OvsdbModels/Proofs/Schema/Place.lean
  ====================================
  **Where the error of a column points to.**

  The fault of a column lies at a key of the document: the key of the column itself, or the `enum` or
  `refTable` of the side at fault (`Fault.IsWay`).  The error marks the key at which the first chain of
  names ends, and that is the fault's own key only if no chain ends earlier (`error_of_place`): the key
  side's `enum` is marked in place of the value side's (`error_of_sides`).
-/
import OvsdbModels.Proofs.Go.Order
import OvsdbModels.Proofs.Json.Place
import OvsdbModels.Proofs.Schema.KeySpan
import OvsdbModels.Proofs.Schema.Validation

namespace OvsdbModels

open Json
open Text (IsIdentifier Span)

/-! ### Ways to faults -/

/-- Whether a step leads to a field of a record, which is written as an object or as an array. -/
def IsField (name : String) (position : Nat) (step : Step) : Prop :=
  step = .member name ∨ step = .item position

def Side.IsStep : Side → Step → Prop
  | key => IsField "key" 0
  | value => IsField "value" 1

/-- The ways to a column of a table. -/
inductive ColumnWay (table name : String) : List Step → Prop where
  | mk {tables columns : Step} (htables : IsField "tables" 3 tables)
      (hcolumns : IsField "columns" 0 columns) :
      ColumnWay table name [tables, .member table, columns, .member name]

/-- The ways to a member of a column's side. -/
inductive SideWay (table name : String) (side : Side) (field : String) : List Step → Prop where
  | mk {way : List Step} {type base : Step} (hcolumn : ColumnWay table name way)
      (htype : IsField "type" 0 type) (hbase : side.IsStep base) :
      SideWay table name side field (way ++ [type, base, .member field])

namespace Fault

/-- Whether a way leads to the key at which a fault of a column lies. -/
def IsWay (table name : String) : Fault → List Step → Prop
  | reservedName => ColumnWay table name
  | literal side _ _ _ => SideWay table name side "enum"
  | reference side _ => SideWay table name side "refTable"

/-- The keys that are looked for in front of the key of a fault. -/
def outerKeys (table name : String) : Fault → List String
  | reservedName => [table]
  | _ => [table, name]

/-- The key at which a fault lies. -/
def lastKey (name : String) : Fault → String
  | reservedName => name
  | literal _ _ _ _ => "enum"
  | reference _ _ => "refTable"

/-- The keys that are looked for to mark a fault. -/
def keys (table name : String) (fault : Fault) : List String :=
  fault.outerKeys table name ++ [fault.lastKey name]

end Fault

theorem span?_error (source table name : String) (fault : Fault) :
    ((Violation.column table name fault).error source).span? =
      keySpan? source (fault.keys table name) := by
  cases fault <;> rfl

theorem wayNames_append (way way' : List Step) :
    wayNames (way ++ way') = wayNames way ++ wayNames way' :=
  List.filterMap_append

theorem ColumnWay.exists_wayNames {table name : String} {way : List Step}
    (h : ColumnWay table name way) :
    ∃ outer, [table].Sublist outer ∧ wayNames way = outer ++ [name] := by
  cases h with
  | @mk tables columns =>
    refine ⟨wayNames [tables] ++ table :: wayNames [columns], ?_, ?_⟩
    · exact List.singleton_sublist.mpr (List.mem_append_right _ List.mem_cons_self)
    · have hway : [tables, .member table, columns, .member name] =
          [tables] ++ ([.member table] ++ ([columns] ++ [.member name])) := rfl
      rw [hway, wayNames_append, wayNames_append, wayNames_append, List.append_assoc]
      rfl

theorem SideWay.exists_wayNames {table name field : String} {side : Side} {way : List Step}
    (h : SideWay table name side field way) :
    ∃ outer, [table, name].Sublist outer ∧ wayNames way = outer ++ [field] := by
  cases h with
  | @mk way type base hcolumn =>
    obtain ⟨outer, hsublist, hnames⟩ := hcolumn.exists_wayNames
    refine ⟨outer ++ [name] ++ wayNames [type, base], ?_, ?_⟩
    · exact (hsublist.append (List.Sublist.refl [name])).trans (List.sublist_append_left _ _)
    · have hway : [type, base, .member field] = [type, base] ++ [.member field] := rfl
      rw [wayNames_append, hnames, hway, wayNames_append, ← List.append_assoc]
      rfl

/-- The keys that are looked for are some of the names on the way. -/
theorem Fault.IsWay.exists_wayNames {table name : String} {fault : Fault} {way : List Step}
    (h : fault.IsWay table name way) :
    ∃ outer, (fault.outerKeys table name).Sublist outer ∧
      wayNames way = outer ++ [fault.lastKey name] := by
  cases fault with
  | reservedName => exact ColumnWay.exists_wayNames h
  | literal => exact SideWay.exists_wayNames h
  | reference => exact SideWay.exists_wayNames h

/-! ### Keys as they are written -/

/-- A string without backslashes stands for its own characters. -/
theorem decode?_of_plain {s : List Symbol} (h : '\\' ∉ symbolsText s) :
    decode? s = some (symbolsText s) := by
  induction s with
  | nil => rfl
  | cons symbol s ih =>
    have htext : symbolsText (symbol :: s) = symbol.text ++ symbolsText s := rfl
    rw [htext, List.mem_append, not_or] at h
    cases symbol with
    | plain c hc =>
      rw [decode?, ih h.2]
      rfl
    | short letter value hletter => exact absurd List.mem_cons_self h.1
    | unit digits n hlength hn => exact absurd List.mem_cons_self h.1

theorem quotedText_of_plain {s : List Symbol} {name : String} (hname : name? s = some name)
    (h : '\\' ∉ symbolsText s) : quotedText s = quotedName name := by
  rw [name?, decode?_of_plain h] at hname
  obtain rfl := Option.some.inj hname
  rw [quotedName, String.toList_ofList]
  rfl

/-- An identifier that is written between quotes is all that stands between them. -/
theorem symbolsText_of_quoted {s : List Symbol} {name : String} (hname : IsIdentifier name)
    {after after' : List Char} (h : quotedText s ++ after = quotedName name ++ after') :
    symbolsText s = name.toList := by
  have hinside : symbolsText s ++ '"' :: after = name.toList ++ '"' :: after' := by
    have htail := (List.cons.inj h).2
    simp only [List.append_eq, List.append_assoc] at htail
    exact htail
  rcases List.append_eq_append_iff.mp hinside with ⟨between, hleft, hright⟩ | ⟨between, hleft, hright⟩
  · cases between with
    | nil => rw [hleft, List.append_nil]
    | cons c between =>
      obtain ⟨rfl, -⟩ := List.cons.inj hright
      have hmem : '"' ∈ name.toList := by
        rw [hleft]
        exact List.mem_append_right _ List.mem_cons_self
      exact absurd hmem (quote_notMem hname)
  · cases between with
    | nil => rw [hleft, List.append_nil]
    | cons c between =>
      obtain ⟨rfl, -⟩ := List.cons.inj hright
      have hlast := List.mem_of_getLast? (backslash_of_symbolsText hleft)
      exact absurd (hname.isWordChar _ hlast) (by decide)

/-- Where keys are written as they are, the names on a way are a chain that ends at its key. -/
theorem chain_of_keyPlace {tree : Tree} {way : List Step} {before after : List Char}
    {key : List Symbol} (h : KeyPlace tree way before key after)
    (hbefore : '\\' ∉ before) (hkey : '\\' ∉ symbolsText key) :
    Chain (wayNames way) (before ++ (quotedText key ++ after)) before := by
  induction h with
  | here hahead hname hblank =>
    rw [quotedText_of_plain hname.named hkey]
    exact .last ⟨rfl, beginsWithColon_of_isBlank hblank _⟩
  | @member _ _ name outer key _ _ ahead blank blank' before after rest _ hname hblank _ _ _ ih =>
    simp only [quotedText, List.mem_cons, List.mem_append, not_or] at hbefore
    obtain ⟨-, -, ⟨-, houter, -⟩, -, -, -, hinner⟩ := hbefore
    have hkeyAt : KeyAt name ('\x7b' :: ahead ++ (quotedName name ++ (blank ++ ':' :: (blank' ++
        (before ++ (quotedText key ++ (after ++ (rest ++ ['\x7d'])))))))) ('\x7b' :: ahead) _ :=
      ⟨rfl, beginsWithColon_of_isBlank hblank _⟩
    have hvalue := ((ih hinner hkey).append_right (rest ++ ['\x7d'])).shift (blank ++ ':' :: blank')
    simp only [List.append_assoc, List.cons_append] at hvalue
    have hchain := Chain.step hkeyAt hvalue
    rw [quotedText_of_plain hname.named houter]
    simp only [List.append_assoc, List.cons_append] at hchain ⊢
    exact hchain
  | @item _ _ _ key _ ahead before after rest _ _ _ ih =>
    simp only [List.mem_cons, List.mem_append, not_or] at hbefore
    have hvalue := ((ih hbefore.2.2 hkey).append_right (rest ++ [']'])).shift ('[' :: ahead)
    simp only [List.append_assoc, List.cons_append] at hvalue ⊢
    exact hvalue

theorem chain_of_documentKey {tree : Tree} {way : List Step} {before after : List Char}
    {key : List Symbol} (h : DocumentKey tree way before key after) (hbefore : '\\' ∉ before)
    (hkey : '\\' ∉ symbolsText key) :
    Chain (wayNames way) (before ++ (quotedText key ++ after)) before := by
  cases h with
  | @mk blank before after blank' _ _ hplace _ =>
    have hinner : '\\' ∉ before := fun hmem => hbefore (List.mem_append_right _ hmem)
    have hchain := ((chain_of_keyPlace hplace hinner hkey).append_right blank').shift blank
    simp only [List.append_assoc] at hchain ⊢
    exact hchain

/-! ### The marked key -/

/-- The stretch of a key that stands behind `before`, its quotes aside. -/
def keyStretch (before : List Char) (key : List Symbol) : Span :=
  ⟨byteCount before + 1, byteCount (symbolsText key)⟩

theorem Fault.isIdentifier_lastKey {name : String} (hname : IsIdentifier name) (fault : Fault) :
    IsIdentifier (fault.lastKey name) := by
  cases fault with
  | reservedName => exact hname
  | literal => exact (by decide : IsIdentifier "enum")
  | reference => exact (by decide : IsIdentifier "refTable")

theorem Fault.isIdentifier_outerKeys {table name : String} (htable : IsIdentifier table)
    (hname : IsIdentifier name) (fault : Fault) :
    ∀ key ∈ fault.outerKeys table name, IsIdentifier key := by
  cases fault <;> simp [outerKeys, htable, hname]

namespace Database

/-- The error of the least violation marks the key at which the first chain of its keys ends.  Where
the keys are written as they are, there is such a chain, and it ends at the key of the fault or
before. -/
theorem error_of_place {source : String} {db : Database} {table name : String} {fault : Fault}
    (hread : readAll Database.reader source = .ok db)
    (hviolates : db.Violates (.column table name fault))
    (hleast : ∀ other, db.Violates other →
      other = .column table name fault ∨ (Violation.column table name fault).Before other)
    (htable : IsIdentifier table) (hname : IsIdentifier name) {tree : Tree} {way : List Step}
    {before after : List Char} {key : List Symbol} (hway : fault.IsWay table name way)
    (hplace : DocumentKey tree way before key after)
    (htext : source.toList = before ++ (quotedText key ++ after)) :
    ∃ error, parse source = .error error ∧ error = (Violation.column table name fault).error source ∧
      (error.span? = some (keyStretch before key) ↔
        FirstChain (fault.keys table name) source.toList before) ∧
      ('\\' ∉ before → '\\' ∉ symbolsText key → ∃ before',
        before'.length ≤ before.length ∧ FirstChain (fault.keys table name) source.toList before' ∧
          error.span? = some ⟨byteCount before' + 1, (fault.lastKey name).utf8ByteSize⟩) := by
  have hhead := head?_violations_iff.mpr ⟨hviolates, hleast⟩
  have hfirst : db.firstError? source = some ((Violation.column table name fault).error source) := by
    rw [firstError?_eq, hhead]
    rfl
  have hloose : Loose source.toList := by
    rw [htext]
    exact loose_of_isDocument hplace.isDocument
  have houter := fault.isIdentifier_outerKeys htable hname
  have hlast := fault.isIdentifier_lastKey hname
  refine ⟨_, ?_, rfl, ?_, ?_⟩
  · rw [parse, hread]
    simp only [hfirst]
  · rw [span?_error, Fault.keys, keyStretch, keySpan?_eq_some_iff houter hlast hloose htext]
    constructor
    · exact fun h => h.2
    · intro hchain
      refine ⟨?_, hchain⟩
      obtain ⟨rest, hkeyAt⟩ := hchain.chain.exists_keyAt List.getLast?_concat
      have hquoted := List.append_cancel_left (htext.symm.trans hkeyAt.text)
      rw [symbolsText_of_quoted hlast hquoted, byteCount_toList]
  · intro hbefore hkey
    obtain ⟨outer, hsublist, hnames⟩ := hway.exists_wayNames
    have hchain := chain_of_documentKey hplace hbefore hkey
    rw [hnames, ← htext] at hchain
    have hkeys := hchain.sublist hsublist
    obtain ⟨before', hfirst', hspan⟩ := exists_keySpan? houter hlast hloose hkeys
    refine ⟨before', hfirst'.first _ hkeys, hfirst', ?_⟩
    rw [span?_error]
    exact hspan

/-! ### A map with two enumerations -/

/-- A schema with a map of which the keys' literals are right and the values' are not. -/
def sided : String :=
  "\x7b\"tables\":\x7b\"T\":\x7b\"columns\":\x7b\"c\":\x7b\"type\":\x7b" ++
    "\"key\":\x7b\"enum\":\"x\",\"type\":\"string\"\x7d," ++
    "\"value\":\x7b\"enum\":\"y\",\"type\":\"integer\"\x7d\x7d\x7d\x7d\x7d\x7d," ++
    "\"name\":\"s\",\"version\":\"1.0.0\"\x7d"

def sidedDatabase : Database where
  name := "s"
  version := "1.0.0"
  tables := .ofList [("T", .ofColumns [("c", { type := {
    key := (BaseType.plain .string).withAllowed [.string "x"]
    value := some ((BaseType.plain .integer).withAllowed [.string "y"]) } })])]

theorem readAll_sided : readAll reader sided = .ok sidedDatabase := by
  have hread : (readAll reader sided).toOption = some sidedDatabase := by decide +kernel
  exact Attempt.toOption_eq_some_iff.mp hread

def sidedFault : Fault := .literal .value 0 (.string "y") .integer

theorem head?_violations_sided :
    sidedDatabase.violations.head? = some (.column "T" "c" sidedFault) := by
  decide +kernel

def sideTree (literal type : String) : Tree :=
  Go.objectOf [("enum", .string (Go.literally literal)), ("type", .string (Go.literally type))]

def sidedTree : Tree :=
  Go.objectOf [
    ("tables", Go.objectOf [("T", Go.objectOf [("columns", Go.objectOf [("c", Go.objectOf [("type",
      Go.objectOf [("key", sideTree "x" "string"), ("value", sideTree "y" "integer")])])])])]),
    ("name", .string (Go.literally "s")), ("version", .string (Go.literally "1.0.0"))]

def sidedWay : List Step :=
  [.member "tables", .member "T", .member "columns", .member "c"] ++
    [.member "type", .member "value", .member "enum"]

theorem isWay_sided : sidedFault.IsWay "T" "c" sidedWay :=
  .mk (.mk (.inl rfl) (.inl rfl)) (.inl rfl) (.inl rfl)

theorem place_sided : ∃ before after,
    DocumentKey sidedTree sidedWay before (Go.literally "enum") after ∧
      sided.toList = before ++ (quotedText (Go.literally "enum") ++ after) ∧
      byteCount before = 84 ∧ '\\' ∉ before := by
  have hname (name : String) (later : List (List Symbol × Tree))
      (h : name? (Go.literally name) = some name ∧ ∀ m ∈ later, name? m.1 ≠ some name) :
      LastNamed name (Go.literally name) later := ⟨h.1, h.2⟩
  have henum := KeyPlace.here (.last (lead_compact true)) (hname "enum" _ (by decide +kernel))
    isBlank_nil isBlank_nil (spells_text (.string (Go.literally "y")))
    (listed_later [(Go.literally "type", .string (Go.literally "integer"))])
  have hvalue := KeyPlace.member (ahead_one (Go.literally "key", sideTree "x" "string"))
    (hname "value" _ (by decide +kernel)) isBlank_nil isBlank_nil henum (listed_later [])
  have htable := ((hvalue.first (hname "type" [] (by decide +kernel))).first
    (hname "c" [] (by decide +kernel))).first (hname "columns" [] (by decide +kernel))
  have htables := (htable.first (hname "T" [] (by decide +kernel))).first
    (hname "tables" [(Go.literally "name", .string (Go.literally "s")),
      (Go.literally "version", .string (Go.literally "1.0.0"))] (by decide +kernel))
  refine ⟨_, _, .mk isBlank_nil htables isBlank_nil, ?_, ?_, ?_⟩
  all_goals decide +kernel

/-- The error of the map marks the first chain of the column's keys. -/
theorem error_of_place_sided : ∃ before after before' error,
    DocumentKey sidedTree sidedWay before (Go.literally "enum") after ∧
      sided.toList = before ++ (quotedText (Go.literally "enum") ++ after) ∧
      parse sided = .error error ∧ before'.length ≤ before.length ∧
      FirstChain ["T", "c", "enum"] sided.toList before' ∧
      error.span? = some ⟨byteCount before' + 1, 4⟩ := by
  obtain ⟨before, after, hplace, htext, -, hbefore⟩ := place_sided
  obtain ⟨hviolates, hleast⟩ := head?_violations_iff.mp head?_violations_sided
  obtain ⟨error, hparse, -, -, hmarks⟩ := error_of_place readAll_sided hviolates hleast (by decide)
    (by decide) isWay_sided hplace htext
  obtain ⟨before', hle, hfirst, hspan⟩ := hmarks hbefore (by decide +kernel)
  exact ⟨before, after, before', error, hplace, htext, hparse, hle, hfirst, hspan⟩

/-- The value side is at fault, but the error marks the `enum` of the key side. -/
theorem error_of_sides : ∃ before after,
    sidedFault = .literal .value 0 (.string "y") .integer ∧ sidedFault.IsWay "T" "c" sidedWay ∧
      DocumentKey sidedTree sidedWay before (Go.literally "enum") after ∧
      sided.toList = before ++ (quotedText (Go.literally "enum") ++ after) ∧
      keyStretch before (Go.literally "enum") = ⟨85, 4⟩ ∧
      parse sided = .error (.literalMismatch "T" "c" (.string "y") .integer (some ⟨48, 4⟩)) := by
  obtain ⟨before, after, hplace, htext, hbytes, -⟩ := place_sided
  have hfirst : sidedDatabase.firstError? sided =
      some (.literalMismatch "T" "c" (.string "y") .integer (some ⟨48, 4⟩)) := by
    decide +kernel
  refine ⟨before, after, rfl, isWay_sided, hplace, htext, ?_, ?_⟩
  · have hsize : byteCount (symbolsText (Go.literally "enum")) = 4 := by decide +kernel
    rw [keyStretch, hbytes, hsize]
  · rw [parse, readAll_sided]
    simp only [hfirst]

end Database

end OvsdbModels
