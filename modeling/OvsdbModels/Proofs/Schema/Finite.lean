/-
  OvsdbModels/Proofs/Schema/Finite.lean
  =====================================
  **Real literals of a schema are finite.**

  The literals of an enumeration are made of the numbers of the document, and those are finite.
-/
import OvsdbModels.Proofs.Attempt
import OvsdbModels.Proofs.Json.Finite
import OvsdbModels.Schema.Reader

namespace OvsdbModels

open Json (Ensures Failure Value)
open Attempt

/-! ### Literals -/

/-- A literal that is a finite double if it is a double. -/
def Atom.IsFinite : Atom → Prop
  | .real x => Decimal.IsFinite x
  | _ => True

def BaseType.IsFinite (base : BaseType) : Prop :=
  ∀ values ∈ base.allowed, ∀ value ∈ values, value.IsFinite

def ColumnType.IsFinite (type : ColumnType) : Prop := ∀ base ∈ type.bases, base.IsFinite

def Table.IsFinite (table : Table) : Prop :=
  ∀ entry ∈ table.columns.entries, entry.2.type.IsFinite

def Database.IsFinite (db : Database) : Prop := ∀ entry ∈ db.tables.entries, entry.2.IsFinite

theorem Atom.isFinite_of_ofValue? {type : AtomicType} {v : Value} {atom : Atom} (hv : v.IsFinite)
    (h : ofValue? type v = some atom) : atom.IsFinite := by
  unfold ofValue? at h
  split at h
  · obtain rfl := Option.some.inj h
    trivial
  · obtain rfl := Option.some.inj h
    trivial
  · cases hv with
    | number hn =>
      split at h
      · obtain rfl := Option.some.inj h
        exact Json.isFinite_toFloat hn
      · split at h
        · obtain rfl := Option.some.inj h
          trivial
        · obtain rfl := Option.some.inj h
          exact Json.isFinite_toFloat hn
  · exact nomatch h

theorem isFinite_of_enumItems? {v : Value} {items : List Value} (hv : v.IsFinite)
    (h : enumItems? v = some items) : ∀ item ∈ items, item.IsFinite := by
  unfold enumItems? at h
  split at h
  · split at h
    · obtain rfl := Option.some.inj h
      cases hv with
      | array hitems =>
        cases hitems _ (List.mem_cons_of_mem _ List.mem_cons_self) with
        | array h => exact h
    · exact nomatch h
  · exact nomatch h
  · obtain rfl := Option.some.inj h
    exact List.forall_mem_singleton.mpr hv

theorem isFinite_of_allowedOfValue {type : AtomicType} {v : Value} {values : List Atom}
    (hv : v.IsFinite) (h : allowedOfValue type v = .ok values) :
    ∀ value ∈ values, value.IsFinite := by
  unfold allowedOfValue at h
  split at h
  · exact nomatch h
  · rename_i items hitems
    intro value hvalue
    obtain ⟨item, hitem, hread⟩ := exists_of_forall₂_right (mapM_eq_ok_iff.mp h) hvalue
    split at hread
    · rename_i atom hatom
      obtain rfl := Except.ok.inj hread
      exact Atom.isFinite_of_ofValue? (isFinite_of_enumItems? hv hitems item hitem) hatom
    · exact nomatch hread

/-! ### Types -/

theorem exists_mem_of_single? {name : String} {members : List (String × Value)}
    {field : Option Value} (h : Json.single? name members = some field) :
    ∀ v ∈ field, ∃ m ∈ members, m.2 = v := by
  unfold Json.single? at h
  intro v hv
  split at h
  · simp_all
  · rename_i m hfilter
    have hmem : m ∈ members := List.mem_of_mem_filter (hfilter ▸ List.mem_singleton_self m)
    simp only [Option.some.injEq] at h
    subst h
    exact ⟨m, hmem, Option.some.inj hv⟩
  · exact nomatch h

/-- The fields of a finite value are finite. -/
theorem isFinite_of_fields? {names : List String} {v : Value} {fields : List (Option Value)}
    (hv : v.IsFinite) (h : v.fields? names = some fields) :
    ∀ field ∈ fields, ∀ w ∈ field, w.IsFinite := by
  intro field hfield w hw
  unfold Value.fields? at h
  split at h
  · rename_i members
    cases hv with
    | object hmembers =>
      obtain ⟨name, -, hsingle⟩ := exists_of_mapM_eq_some h hfield
      obtain ⟨m, hm, rfl⟩ := exists_mem_of_single? hsingle w hw
      exact hmembers m hm
  · cases hv with
    | array hitems =>
      split at h
      · simp only [Option.some.injEq] at h
        subst h
        rcases List.mem_map.mp hfield with ⟨item, hitem, rfl⟩
        obtain rfl := Option.some.inj hw
        exact hitems item hitem
      · exact nomatch h
  · exact nomatch h

theorem of_optionalField? {α : Type} {item : Value → Option α} {field : Option Value} {a : α}
    (h : Json.optionalField? item field = some (some a)) : ∃ v ∈ field, item v = some a := by
  unfold Json.optionalField? at h
  split at h
  · simp at h
  · simp at h
  · rename_i v _
    exact ⟨v, rfl, by simpa using h⟩

/-- The literals of a base type are in its second field, and nowhere else. -/
theorem BaseType.of_ofFields? {fields : List (Option Value)} {base : BaseType}
    {literals : Option Value} (h : ofFields? fields = some (base, literals)) :
    base.allowed = none ∧ ∀ v ∈ literals, some v ∈ fields := by
  unfold ofFields? at h
  split at h
  · simp only [Option.bind_eq_bind, Option.bind_eq_some_iff, Option.pure_def, Option.some.injEq,
      Prod.mk.injEq] at h
    obtain ⟨name, -, refTable, -, refType, -, minInteger, -, maxInteger, -, minReal, -, maxReal, -,
      minLength, -, maxLength, -, allowed, hallowed, rfl, rfl⟩ := h
    refine ⟨rfl, ?_⟩
    rintro v rfl
    obtain ⟨w, hw, heq⟩ := of_optionalField? hallowed
    simp_all
  · exact nomatch h

theorem BaseType.isFinite_of_ofValue {v : Value} {base : BaseType} (hv : v.IsFinite)
    (h : ofValue v = .ok base) : base.IsFinite := by
  unfold ofValue at h
  split at h
  · obtain rfl := Except.ok.inj h
    simp [IsFinite, plain]
  · split at h
    · exact nomatch h
    · rename_i base' hfields
      obtain rfl := Except.ok.inj h
      obtain ⟨fields, -, hof⟩ := Option.bind_eq_some_iff.mp hfields
      simp [IsFinite, (of_ofFields? hof).1]
    · rename_i base' literals hfields
      obtain ⟨fields, hread, hof⟩ := Option.bind_eq_some_iff.mp hfields
      have hliterals : literals.IsFinite :=
        isFinite_of_fields? hv hread _ ((of_ofFields? hof).2 literals rfl) literals rfl
      split at h
      · rename_i values hvalues
        obtain rfl := Except.ok.inj h
        intro values' hvalues'
        obtain rfl := Option.some.inj hvalues'
        exact isFinite_of_allowedOfValue hliterals hvalues
      · exact nomatch h

theorem ColumnType.isFinite_of_ofFields? {fields : List (Option Value)} {type : ColumnType}
    (hfields : ∀ field ∈ fields, ∀ w ∈ field, w.IsFinite) (h : ofFields? fields = some type) :
    type.IsFinite := by
  unfold ofFields? at h
  split at h
  · rename_i key value min max
    simp only [Option.bind_eq_bind, Option.bind_eq_some_iff, Option.pure_def,
      Option.some.injEq] at h
    obtain ⟨keyType, ⟨v, hv, hkey⟩, valueType, hvalue, min', -, max', -, rfl⟩ := h
    intro base hbase
    simp only [bases, List.mem_cons, Option.mem_toList] at hbase
    rcases hbase with rfl | rfl
    · have hfinite : v.IsFinite := hfields key (by simp) v hv
      exact BaseType.isFinite_of_ofValue hfinite (toOption_eq_some_iff.mp hkey)
    · obtain ⟨w, hw, hbase⟩ := of_optionalField? hvalue
      have hfinite : w.IsFinite := hfields value (by simp) w hw
      exact BaseType.isFinite_of_ofValue hfinite (toOption_eq_some_iff.mp hbase)
  · exact nomatch h

theorem ColumnType.isFinite_of_ofValue {v : Value} {type : ColumnType} (hv : v.IsFinite)
    (h : ofValue v = .ok type) : type.IsFinite := by
  unfold ofValue at h
  split at h
  · obtain rfl := Except.ok.inj h
    simp [IsFinite, bases, scalar, BaseType.IsFinite, BaseType.plain]
  · split at h
    · exact nomatch h
    · rename_i type' hfields
      obtain ⟨fields, hread, hof⟩ := Option.bind_eq_some_iff.mp hfields
      split at h
      · exact nomatch h
      · obtain rfl := Except.ok.inj h
        exact isFinite_of_ofFields? (isFinite_of_fields? hv hread) hof

/-! ### Records -/

theorem ensures_converted {α : Type} {convert : Value → Except Failure α} {p : α → Prop}
    (h : ∀ v a, v.IsFinite → convert v = .ok a → p a) (depth : Nat) :
    Ensures (converted convert depth) p := by
  refine (Json.ensures_value depth).bind ?_
  intro v hv
  split
  · rename_i a hconvert
    exact .pure (h v a hv hconvert)
  · exact (Json.fails_failWhole _).ensures p

theorem ColumnType.ensures_reader (depth : Nat) :
    Ensures (ColumnType.reader depth) ColumnType.IsFinite :=
  ensures_converted (fun _ _ => ColumnType.isFinite_of_ofValue) depth

namespace Column

/-- The type of a draft is finite if it is there. -/
def Draft.IsFinite (draft : Column.Draft) : Prop := ∀ type ∈ draft.type, type.IsFinite

theorem Draft.ensures_member (depth : Nat) (draft : Column.Draft) (name : String)
    (h : draft.IsFinite) : Ensures (Draft.member depth draft name) Draft.IsFinite := by
  unfold member
  split
  · exact .map (.once (ColumnType.ensures_reader depth) name draft.type) fun _ htype => htype
  · split
    · exact .after fun _ => .pure h
    · split
      · exact .after fun _ => .pure h
      · exact .after fun _ => .pure h

theorem ensures_byMembers (depth : Nat) :
    Ensures (byMembers depth) fun column => column.type.IsFinite := by
  refine .bind (.members (Draft.ensures_member depth) ?_) ?_
  · simp [Draft.IsFinite]
  · intro draft hdraft
    exact .map (.required hdraft "type") fun _ htype => htype

theorem ensures_inOrder (depth : Nat) :
    Ensures (inOrder depth) fun column => column.type.IsFinite := by
  refine .bind (.fieldAt (ColumnType.ensures_reader depth) _ 0) ?_
  intro type htype
  exact .after fun _ => .after fun _ => .pure htype

theorem ensures_reader (depth : Nat) :
    Ensures (Column.reader depth) fun column => column.type.IsFinite :=
  .record _ ensures_byMembers ensures_inOrder depth

end Column

namespace Table

theorem ensures_columnsReader (depth : Nat) : Ensures (columnsReader depth)
    fun columns => ∀ entry ∈ columns.entries, entry.2.type.IsFinite :=
  .nameMap Column.ensures_reader depth

/-- The columns of a draft are finite if they are there. -/
def Draft.IsFinite (draft : Table.Draft) : Prop :=
  ∀ columns ∈ draft.columns, ∀ entry ∈ columns.entries, entry.2.type.IsFinite

theorem Draft.ensures_member (depth : Nat) (draft : Table.Draft) (name : String)
    (h : draft.IsFinite) : Ensures (Draft.member depth draft name) Draft.IsFinite := by
  unfold member
  split
  · exact .map (.once (ensures_columnsReader depth) name draft.columns) fun _ hcolumns => hcolumns
  · split
    · exact .after fun _ => .pure h
    · split
      · exact .after fun _ => .pure h
      · split
        · exact .after fun _ => .pure h
        · exact .after fun _ => .pure h

theorem ensures_byMembers (depth : Nat) : Ensures (byMembers depth) Table.IsFinite := by
  refine .bind (.members (Draft.ensures_member depth) ?_) ?_
  · simp [Draft.IsFinite]
  · intro draft hdraft
    exact .map (.required hdraft "columns") fun _ hcolumns => hcolumns

theorem ensures_inOrder (depth : Nat) : Ensures (inOrder depth) Table.IsFinite := by
  refine .bind (.fieldAt (ensures_columnsReader depth) _ 0) ?_
  intro columns hcolumns
  exact .after fun _ => .after fun _ => .after fun _ => .pure hcolumns

theorem ensures_reader (depth : Nat) : Ensures (Table.reader depth) Table.IsFinite :=
  .record _ ensures_byMembers ensures_inOrder depth

end Table

namespace Database

/-- The tables of a draft are finite if they are there. -/
def Draft.IsFinite (draft : Database.Draft) : Prop :=
  ∀ tables ∈ draft.tables, ∀ entry ∈ tables.entries, entry.2.IsFinite

theorem Draft.ensures_member (depth : Nat) (draft : Database.Draft) (name : String)
    (h : draft.IsFinite) : Ensures (Draft.member depth draft name) Draft.IsFinite := by
  unfold member
  split
  · exact .after fun _ => .pure h
  · split
    · exact .after fun _ => .pure h
    · split
      · exact .after fun _ => .pure h
      · split
        · exact .map (.once (.nameMap Table.ensures_reader depth) name draft.tables)
            fun _ htables => htables
        · exact .after fun _ => .pure h

theorem ensures_byMembers (depth : Nat) : Ensures (byMembers depth) Database.IsFinite := by
  refine .bind (.members (Draft.ensures_member depth) ?_) ?_
  · simp [Draft.IsFinite]
  · intro draft hdraft
    refine .after fun _ => .after fun _ => ?_
    exact .map (.required hdraft "tables") fun _ htables => htables

theorem ensures_inOrder (depth : Nat) : Ensures (inOrder depth) Database.IsFinite := by
  refine .after fun _ => .after fun _ => .after fun _ => ?_
  exact .map (.fieldAt (.nameMap Table.ensures_reader depth) _ 3) fun _ htables => htables

theorem ensures_reader (depth : Nat) : Ensures (Database.reader depth) Database.IsFinite :=
  .record _ ensures_byMembers ensures_inOrder depth

end Database

end OvsdbModels
