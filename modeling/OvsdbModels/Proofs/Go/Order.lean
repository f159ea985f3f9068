/-
  OvsdbModels/Proofs/Go/Order.lean
  ================================
  **The generated files do not depend on the order of a document.**

  Documents that differ in the order of tables and columns give one schema or none, so a job that is
  made from either has the same files, or the same error (`Job.preview_of_sameButOrder`).
-/
import OvsdbModels.Go.Preview
import OvsdbModels.Proofs.Schema.Order

namespace OvsdbModels.Go

open Json

/-- Of two documents that differ in order alone both are read as schemas or none is, and a job has the
same preview, or fails with the same error, whichever of the two it is made from. -/
theorem Job.preview_of_sameButOrder {source source' : String} (h : SameButOrder source source') :
    ((∃ error, Database.parse source = .error error) ↔
        ∃ error, Database.parse source' = .error error) ∧
      ∀ db db', Database.parse source = .ok db → Database.parse source' = .ok db' →
        ∀ package selection template,
          (Job.mk db package selection template).preview =
            (Job.mk db' package selection template).preview := by
  have herror : ∀ {source}, (∃ error, Database.parse source = .error error) ↔
      ∀ db, Database.parse source ≠ .ok db := by
    intro source
    cases Database.parse source with
    | error error => exact ⟨fun _ => nofun, fun _ => ⟨error, rfl⟩⟩
    | ok db => exact ⟨nofun, fun hne => absurd rfl (hne db)⟩
  constructor
  · rw [herror, herror]
    exact forall_congr' fun db => not_congr (Database.parse_of_sameButOrder h)
  · intro db db' hdb hdb' package selection template
    obtain rfl := Except.ok.inj (((Database.parse_of_sameButOrder h).mp hdb).symm.trans hdb')
    rfl

/-! ### Two documents -/

def inOrder : String :=
  "\x7b\"name\":\"m\",\"version\":\"1.0.0\",\"tables\":\x7b" ++
    "\"A\":\x7b\"columns\":\x7b" ++
      "\"a\":\x7b\"type\":\"uuid\"\x7d,\"b\":\x7b\"type\":\"uuid\"\x7d\x7d\x7d," ++
    "\"B\":\x7b\"columns\":\x7b\x7d\x7d\x7d\x7d"

/-- The same schema with its tables and the columns of `A` exchanged. -/
def exchanged : String :=
  "\x7b\"name\":\"m\",\"version\":\"1.0.0\",\"tables\":\x7b" ++
    "\"B\":\x7b\"columns\":\x7b\x7d\x7d," ++
    "\"A\":\x7b\"columns\":\x7b" ++
      "\"b\":\x7b\"type\":\"uuid\"\x7d,\"a\":\x7b\"type\":\"uuid\"\x7d\x7d\x7d\x7d\x7d"

/-- A string of characters that stand for themselves. -/
def literally (s : String) : List Symbol :=
  s.toList.filterMap fun c =>
    if h : 0x20 ≤ c.toNat ∧ c ≠ '"' ∧ c ≠ '\\' then some (.plain c h) else none

def objectOf (members : List (String × Tree)) : Tree :=
  .object (members.map fun m => (literally m.1, m.2))

def columnsOf (names : List String) : Tree :=
  objectOf (names.map fun name => (name, objectOf [("type", .string (literally "uuid"))]))

def tableOf (names : List String) : Tree := objectOf [("columns", columnsOf names)]

def schemaOf (tables : List (String × Tree)) : Tree :=
  objectOf [("name", .string (literally "m")), ("version", .string (literally "1.0.0")),
    ("tables", objectOf tables)]

def treeInOrder : Tree := schemaOf [("A", tableOf ["a", "b"]), ("B", tableOf [])]

def treeExchanged : Tree := schemaOf [("B", tableOf []), ("A", tableOf ["b", "a"])]

theorem sameTable_exchanged : SameTable (tableOf ["a", "b"]) (tableOf ["b", "a"]) := by
  refine .object (.cons ⟨rfl, .inr ⟨rfl, ?_⟩⟩ .nil)
  exact .object (by decide) (.swap ..) (.cons ⟨rfl, rfl⟩ (.cons ⟨rfl, rfl⟩ .nil))

theorem sameSchema_exchanged : SameSchema treeInOrder treeExchanged := by
  refine .object (.cons ⟨rfl, .inl rfl⟩ (.cons ⟨rfl, .inl rfl⟩ (.cons ⟨rfl, .inr ⟨rfl, ?_⟩⟩ .nil)))
  refine .object (by decide) (.swap ..) (.cons ⟨rfl, .same _⟩ (.cons ⟨rfl, ?_⟩ .nil))
  exact sameTable_exchanged

theorem sameButOrder_exchanged : SameButOrder inOrder exchanged := by
  have hinOrder : inOrder.toList = treeInOrder.text := by decide +kernel
  have hexchanged : exchanged.toList = treeExchanged.text := by decide +kernel
  refine ⟨treeInOrder, treeExchanged, ?_, ?_, sameSchema_exchanged⟩
  · rw [hinOrder]
    exact isDocument_text _
  · rw [hexchanged]
    exact isDocument_text _

theorem Job.preview_of_exchanged : ∃ db db' files,
    inOrder ≠ exchanged ∧ SameButOrder inOrder exchanged ∧
      Database.parse inOrder = .ok db ∧ Database.parse exchanged = .ok db' ∧
      (Job.mk db "ovsmodel" none .stock).preview = .ok files ∧
      (Job.mk db' "ovsmodel" none .stock).preview = .ok files := by
  have hread : (Database.parse inOrder).toOption = some {
      name := "m", version := "1.0.0"
      tables := NameMap.ofList
        [("A", .ofColumns [("a", .plain .uuid), ("b", .plain .uuid)]), ("B", {})] } := by
    decide +kernel
  have hparse := Attempt.toOption_eq_some_iff.mp hread
  obtain ⟨hfails, hsame⟩ := preview_of_sameButOrder sameButOrder_exchanged
  cases hparse' : Database.parse exchanged with
  | error error =>
    obtain ⟨_, hfail⟩ := hfails.mpr ⟨error, hparse'⟩
    cases hfail.symm.trans hparse
  | ok db' =>
    refine ⟨_, db', _, by decide, sameButOrder_exchanged, hparse, rfl, rfl, ?_⟩
    exact (hsame _ db' hparse hparse' "ovsmodel" none .stock).symm

end OvsdbModels.Go
