/-
  OvsdbModels/Proofs/Schema/Order.lean
  ====================================
  **A schema does not depend on the order of its tables and columns.**

  Two documents that differ in the order of the members of the tables' object and of the columns'
  objects (`SameButOrder`) give the same schema, or both none (`parse_of_sameButOrder`): columns and
  tables are gathered in maps, and whether a schema is valid does not depend on the document.  Which
  error is reported, and where, may differ.
-/
import OvsdbModels.Proofs.Attempt
import OvsdbModels.Proofs.Json.Order
import OvsdbModels.Proofs.Schema.Reading
import OvsdbModels.Proofs.Schema.Validation

namespace OvsdbModels

open Json

/-! ### Trees that differ in order -/

/-- The same columns, perhaps in another order. -/
def SameColumns : Tree → Tree → Prop := Reordered Eq

/-- The same table, of which the columns may be in another order. -/
def SameTable : Tree → Tree → Prop := InField "columns" 0 SameColumns

/-- The same tables, perhaps in another order. -/
def SameTables : Tree → Tree → Prop := Reordered SameTable

/-- The same schema, of which the tables may be in another order, and the columns of each table. -/
def SameSchema : Tree → Tree → Prop := InField "tables" 3 SameTables

/-- Whether two documents differ in the order of the members of the object of tables and of the
objects of columns, in which no name is repeated, and otherwise in white space alone. -/
def SameButOrder (source source' : String) : Prop :=
  ∃ t t', IsDocument t source.toList ∧ IsDocument t' source'.toList ∧ SameSchema t t'

/-! ### What they mean -/

namespace Table

theorem outcome_columnsReader {t t' : Tree} (h : SameColumns t t') (depth : Nat) :
    outcome (columnsReader depth) t = outcome (columnsReader depth) t' := by
  refine outcome_nameMap_congr Column.settled_reader ?_ h depth
  rintro depth t _ rfl
  rfl

theorem outcome_reader {t t' : Tree} (h : SameTable t t') (depth : Nat) :
    outcome (reader depth) t = outcome (reader depth) t' := by
  refine outcome_record_congr readsMembers_byMembers takes_inOrder ?_ ?_ h _ depth
  · intro depth t t' hcolumns draft
    exact outcomeMember_once_congr (settled_columnsReader depth)
      (outcome_columnsReader hcolumns depth) _ _ _
  · intro depth before t t' after hposition hcolumns
    obtain rfl := List.length_eq_zero_iff.mp hposition
    rw [List.nil_append, List.nil_append, fields, fieldOutcome_bind_cons, fieldOutcome_bind_cons,
      outcome_columnsReader hcolumns]

end Table

namespace Database

theorem outcome_tablesReader {t t' : Tree} (h : SameTables t t') (depth : Nat) :
    outcome (nameMap Table.reader depth) t = outcome (nameMap Table.reader depth) t' :=
  outcome_nameMap_congr Table.settled_reader (fun depth _ _ h => Table.outcome_reader h depth) h
    depth

theorem outcome_reader {t t' : Tree} (h : SameSchema t t') (depth : Nat) :
    outcome (reader depth) t = outcome (reader depth) t' := by
  refine outcome_record_congr readsMembers_byMembers takes_inOrder ?_ ?_ h _ depth
  · intro depth t t' htables draft
    exact outcomeMember_once_congr (settled_tablesReader depth)
      (outcome_tablesReader htables depth) _ _ _
  · intro depth before t t' after hposition htables
    obtain ⟨name, version, checksum, rfl⟩ := List.length_eq_three.mp hposition
    simp only [fields, List.cons_append, List.nil_append, fieldOutcome_bind_cons,
      outcome_tablesReader htables]

/-- The two documents are read as the same schema, if they can be read as one. -/
theorem readAll_of_sameButOrder {source source' : String} (h : SameButOrder source source') :
    (readAll reader source).toOption = (readAll reader source').toOption := by
  obtain ⟨t, t', hsource, hsource', hsame⟩ := h
  rw [toOption_readAll (settled_reader maxDepth) hsource,
    toOption_readAll (settled_reader maxDepth) hsource', outcome_reader hsame]

theorem parse_of_sameButOrder {source source' : String} (h : SameButOrder source source')
    {db : Database} : parse source = .ok db ↔ parse source' = .ok db := by
  rw [parse_eq_ok_iff, parse_eq_ok_iff, ← Attempt.toOption_eq_some_iff,
    ← Attempt.toOption_eq_some_iff, readAll_of_sameButOrder h]

end Database

end OvsdbModels
