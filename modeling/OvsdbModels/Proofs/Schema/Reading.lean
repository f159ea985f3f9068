/-
  OvsdbModels/Proofs/Schema/Reading.lean
  ======================================
  **What a document means as a schema.**

  Columns, tables and databases mean one thing by every tree (`Column.settled_reader` and so on): what
  their drafts gather from the members, or what the items of an array give field by field.
-/
import OvsdbModels.Schema.Reader
import OvsdbModels.Proofs.Json.Content

namespace OvsdbModels

open Json

section Converted

variable {α : Type} (convert : Value → Except Failure α) (depth : Nat)

theorem means_converted (t : Tree) : Means (converted convert depth) t
    ((outcome (value depth) t).bind fun v => (convert v).toOption) := by
  refine ((settled_value depth).means t).bind fun v rest => ?_
  cases convert v with
  | ok a => exact Reads.pure a rest
  | error failure => exact (fails_failWhole _).reads _ _

theorem settled_converted : Settled (converted convert depth) :=
  fun t => ⟨_, means_converted convert depth t⟩

end Converted

/-- A tree is accepted if it is read as a value that is converted. -/
theorem accepts_converted_iff {α : Type} {convert : Value → Except Failure α} {t : Tree} {a : α} :
    Accepts (converted convert) t a ↔
      ∃ v, outcome (value maxDepth) t = some v ∧ convert v = .ok a := by
  rw [accepts_iff (settled_converted convert maxDepth),
    (means_converted convert maxDepth t).outcome_eq]
  simp only [Option.bind_eq_some_iff, Attempt.toOption_eq_some_iff]

theorem accepts_converted_iff_of_outcome {α : Type} {convert : Value → Except Failure α}
    {depth : Nat} (hdepth : depth ≤ maxDepth) {t : Tree} {v : Value}
    (h : outcome (value depth) t = some v) {a : α} :
    Accepts (converted convert) t a ↔ convert v = .ok a := by
  rw [accepts_converted_iff, outcome_value_mono hdepth h]
  simp only [Option.some.injEq, exists_eq_left']

/-! ### Columns -/

namespace Column

theorem Draft.settledMember (depth : Nat) (draft : Column.Draft) (name : String) :
    SettledMember (draft.member depth name) := by
  unfold Draft.member
  split
  · exact (settled_converted _ depth).once name _ _
  · split
    · exact settled_boolean.once name _ _
    · split
      · exact settled_boolean.once name _ _
      · exact settledMember_passMember draft

def Draft.column? (draft : Column.Draft) : Option Column := do
  let type ← draft.type
  pure { type, ephemeral := draft.ephemeral.getD false, mutable := draft.mutable.getD true }

theorem readsMembers_byMembers (depth : Nat) (ms : List (List Symbol × Tree)) :
    ReadsMembers (byMembers depth) ms
      ((membersOutcome (Draft.member depth) ms {}).bind Draft.column?) :=
  .of_steps (Draft.settledMember depth)
    (fun _ _ => reads_required_bind _ _ fun _ => Reads.pure _ _) {} ms

def fields (depth : Nat) : StateT (List Tree) Option Column := do
  let type ← fieldOutcome (ColumnType.reader depth) none
  let ephemeral ← fieldOutcome boolean (some false)
  let mutable ← fieldOutcome boolean (some true)
  pure { type, ephemeral, mutable }

theorem takes_inOrder (depth : Nat) : Takes true (inOrder depth) (fields depth) :=
  (takes_fieldAt (settled_converted _ depth) _ 0).bind fun _ =>
    (takes_fieldAtD settled_boolean 1 false).bind fun _ =>
      (takes_fieldAtD settled_boolean 2 true).bind fun _ => .pure _

theorem settled_reader (depth : Nat) : Settled (reader depth) :=
  settled_record readsMembers_byMembers takes_inOrder _ depth

end Column

/-! ### Tables -/

namespace Table

theorem settled_columnsReader (depth : Nat) : Settled (columnsReader depth) :=
  .nameMap Column.settled_reader depth

theorem settled_indexesReader (depth : Nat) : Settled (indexesReader depth) :=
  .list (.list fun _ => settled_stringAs _) depth

theorem Draft.settledMember (depth : Nat) (draft : Table.Draft) (name : String) :
    SettledMember (draft.member depth name) := by
  unfold Draft.member
  split
  · exact (settled_columnsReader depth).once name _ _
  · split
    · exact settled_natural.optional.once name _ _
    · split
      · exact settled_boolean.once name _ _
      · split
        · exact (settled_indexesReader depth).once name _ _
        · exact settledMember_passMember draft

def Draft.table? (draft : Table.Draft) : Option Table := do
  let columns ← draft.columns
  pure {
    columns
    maxRows := draft.maxRows.getD none
    isRoot := draft.isRoot.getD false
    indexes := draft.indexes.getD [] }

theorem readsMembers_byMembers (depth : Nat) (ms : List (List Symbol × Tree)) :
    ReadsMembers (byMembers depth) ms
      ((membersOutcome (Draft.member depth) ms {}).bind Draft.table?) :=
  .of_steps (Draft.settledMember depth)
    (fun _ _ => reads_required_bind _ _ fun _ => Reads.pure _ _) {} ms

def fields (depth : Nat) : StateT (List Tree) Option Table := do
  let columns ← fieldOutcome (columnsReader depth) none
  let maxRows ← fieldOutcome (optional natural) (some none)
  let isRoot ← fieldOutcome boolean (some false)
  let indexes ← fieldOutcome (indexesReader depth) (some [])
  pure { columns, maxRows, isRoot, indexes }

theorem takes_inOrder (depth : Nat) : Takes true (inOrder depth) (fields depth) :=
  (takes_fieldAt (settled_columnsReader depth) _ 0).bind fun _ =>
    (takes_fieldAtD settled_natural.optional 1 none).bind fun _ =>
      (takes_fieldAtD settled_boolean 2 false).bind fun _ =>
        (takes_fieldAtD (settled_indexesReader depth) 3 []).bind fun _ => .pure _

theorem settled_reader (depth : Nat) : Settled (reader depth) :=
  settled_record readsMembers_byMembers takes_inOrder _ depth

end Table

/-! ### Databases -/

namespace Database

theorem settled_tablesReader (depth : Nat) : Settled (nameMap Table.reader depth) :=
  .nameMap Table.settled_reader depth

theorem Draft.settledMember (depth : Nat) (draft : Database.Draft) (name : String) :
    SettledMember (draft.member depth name) := by
  unfold Draft.member
  split
  · exact (settled_stringAs _).once name _ _
  · split
    · exact (settled_stringAs _).once name _ _
    · split
      · exact (settled_stringAs _).optional.once name _ _
      · split
        · exact (settled_tablesReader depth).once name _ _
        · exact settledMember_passMember draft

def Draft.database? (draft : Database.Draft) : Option Database := do
  let name ← draft.name
  let version ← draft.version
  let tables ← draft.tables
  pure { name, version, checksum := draft.checksum.getD none, tables }

theorem readsMembers_byMembers (depth : Nat) (ms : List (List Symbol × Tree)) :
    ReadsMembers (byMembers depth) ms
      ((membersOutcome (Draft.member depth) ms {}).bind Draft.database?) :=
  .of_steps (Draft.settledMember depth)
    (fun _ _ => reads_required_bind _ _ fun _ => reads_required_bind _ _ fun _ =>
      reads_required_bind _ _ fun _ => Reads.pure _ _) {} ms

def fields (depth : Nat) : StateT (List Tree) Option Database := do
  let name ← fieldOutcome string none
  let version ← fieldOutcome string none
  let checksum ← fieldOutcome (optional string) (some none)
  let tables ← fieldOutcome (nameMap Table.reader depth) none
  pure { name, version, checksum, tables }

theorem takes_inOrder (depth : Nat) : Takes true (inOrder depth) (fields depth) :=
  (takes_fieldAt (settled_stringAs _) _ 0).bind fun _ =>
    (takes_fieldAt (settled_stringAs _) _ 1).bind fun _ =>
      (takes_fieldAtD (settled_stringAs _).optional 2 none).bind fun _ =>
        (takes_fieldAt (settled_tablesReader depth) _ 3).bind fun _ => .pure _

theorem settled_reader (depth : Nat) : Settled (reader depth) :=
  settled_record readsMembers_byMembers takes_inOrder _ depth

end Database

end OvsdbModels
