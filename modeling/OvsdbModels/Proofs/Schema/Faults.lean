/-
  OvsdbModels/Proofs/Schema/Faults.lean
  =====================================
  **The faults of versions, names, base types and columns, listed.**

  The faults of a column are listed step by step, as its check meets them.  The list has all faults of
  the column and no other (`Column.mem_faults_iff`), and it ascends (`Column.faults_ascend`).
-/
import Mathlib.Data.List.Basic
import OvsdbModels.Proofs.Schema.Violation
import OvsdbModels.Proofs.Text.Split

namespace OvsdbModels

/-! ### Versions and reserved names -/

theorem isNumberText_iff {text : String} :
    (!text.toList.isEmpty && text.toList.all Char.isDigit) = true ↔ IsNumberText text := by
  have hdigit : ∀ c : Char, c.isDigit = true ↔ '0' ≤ c ∧ c ≤ '9' := by
    intro c
    rw [Char.isDigit, Bool.and_eq_true, decide_eq_true_iff, decide_eq_true_iff]
    exact Iff.rfl
  rw [Bool.and_eq_true, List.all_eq_true, Bool.not_eq_true', List.isEmpty_eq_false_iff]
  simp only [hdigit, ne_eq, String.toList_eq_nil_iff]
  exact Iff.rfl

/-- No number has a point in it. -/
theorem IsNumberText.splitAll {text : String} (h : IsNumberText text) :
    Text.splitAll (· = '.') text.toList = [text.toList] :=
  Text.splitAll_of_notMem fun hpoint => absurd (h.2 '.' hpoint).1 (by decide)

theorem splitAll_versionText {major minor patch : String} (hmajor : IsNumberText major)
    (hminor : IsNumberText minor) (hpatch : IsNumberText patch) :
    Text.splitAll (· = '.') (major ++ "." ++ minor ++ "." ++ patch).toList =
      [major.toList, minor.toList, patch.toList] := by
  have hcut : ∀ s t, Text.splitAll (· = '.') (s ++ '.' :: t) =
      Text.splitAll (· = '.') s ++ Text.splitAll (· = '.') t :=
    Text.splitAll_append_cons (decide_eq_true rfl)
  have hpoint : ".".toList = ['.'] := rfl
  simp only [String.toList_append, hpoint, List.append_assoc, List.cons_append,
    List.nil_append]
  rw [hcut, hcut, hmajor.splitAll, hminor.splitAll, hpatch.splitAll]
  rfl

theorem isVersion_iff {version : String} : isVersion version = true ↔ IsVersionText version := by
  unfold isVersion
  rw [Bool.and_eq_true, decide_eq_true_iff, List.all_eq_true]
  constructor
  · rintro ⟨hlength, hall⟩
    have hjoin := Text.intercalate_splitAll '.' version.toList
    obtain ⟨major, minor, patch, hparts⟩ := List.length_eq_three.mp hlength
    rw [hparts] at hjoin hall
    have hnumber : ∀ part ∈ [major, minor, patch], IsNumberText (String.ofList part) := by
      intro part hpart
      apply isNumberText_iff.mp
      rw [String.toList_ofList]
      exact hall part hpart
    refine ⟨String.ofList major, String.ofList minor, String.ofList patch,
      hnumber major (by simp), hnumber minor (by simp), hnumber patch (by simp), ?_⟩
    apply String.toList_inj.mp
    rw [← hjoin]
    simp [List.intercalate_cons_cons]
  · rintro ⟨major, minor, patch, hmajor, hminor, hpatch, rfl⟩
    rw [splitAll_versionText hmajor hminor hpatch]
    refine ⟨rfl, ?_⟩
    intro part hpart
    simp only [List.mem_cons, List.not_mem_nil, or_false] at hpart
    rcases hpart with rfl | rfl | rfl
    · exact isNumberText_iff.mpr hmajor
    · exact isNumberText_iff.mpr hminor
    · exact isNumberText_iff.mpr hpatch

theorem isReservedName_iff {name : String} :
    isReservedName name = true ↔ name.toList.head? = some '_' := by
  unfold isReservedName
  split
  · rename_i rest hname
    simp [hname]
  · rename_i hother
    cases hname : name.toList with
    | nil => simp
    | cons c rest =>
      have hc : c ≠ '_' := by
        rintro rfl
        exact hother rest hname
      simpa using hc

/-! ### The faults of a column -/

namespace BaseType

def literalFaults (side : Side) (base : BaseType) : List Fault :=
  if base.atomic.isSupported then
    ((base.allowed.getD []).zipIdx.filter fun entry => !entry.1.isOfType base.atomic).map
      fun entry => .literal side entry.2 entry.1 base.atomic
  else []

def referenceFaults (db : Database) (side : Side) (base : BaseType) : List Fault :=
  (base.refTable.toList.filter fun refTable => !db.tables.contains refTable).map (.reference side)

def faults (db : Database) (side : Side) (base : BaseType) : List Fault :=
  base.literalFaults side ++ base.referenceFaults db side

theorem mem_literalFaults_iff {side : Side} {base : BaseType} {fault : Fault} :
    fault ∈ base.literalFaults side ↔
      base.atomic.isSupported = true ∧ ∃ values position literal, base.allowed = some values ∧
        values[position]? = some literal ∧ literal.atomicType ≠ base.atomic ∧
          fault = .literal side position literal base.atomic := by
  unfold literalFaults
  by_cases hsupported : base.atomic.isSupported = true
  · rw [if_pos hsupported, List.mem_map]
    constructor
    · rintro ⟨⟨literal, position⟩, hmem, rfl⟩
      obtain ⟨hliteral, htype⟩ := List.mem_filter.mp hmem
      rw [List.mem_zipIdx_iff_getElem?] at hliteral
      cases hallowed : base.allowed with
      | none => rw [hallowed] at hliteral; exact nomatch hliteral
      | some values =>
        rw [hallowed] at hliteral
        exact ⟨hsupported, values, position, literal, rfl, hliteral,
          by simpa [Atom.isOfType] using htype, rfl⟩
    · rintro ⟨-, values, position, literal, hallowed, hliteral, htype, rfl⟩
      refine ⟨(literal, position), List.mem_filter.mpr ⟨?_, ?_⟩, rfl⟩
      · rw [List.mem_zipIdx_iff_getElem?, hallowed]
        exact hliteral
      · simpa [Atom.isOfType] using htype
  · rw [if_neg hsupported]
    exact ⟨fun hmem => absurd hmem List.not_mem_nil, fun h => absurd h.1 hsupported⟩

theorem mem_referenceFaults_iff {db : Database} {side : Side} {base : BaseType} {fault : Fault} :
    fault ∈ base.referenceFaults db side ↔
      ∃ refTable, base.refTable = some refTable ∧ refTable ∉ db.tables.names ∧
        fault = .reference side refTable := by
  simp only [referenceFaults, List.mem_map, List.mem_filter, Option.mem_toList,
    Bool.not_eq_true', ← NameMap.contains_iff, Bool.not_eq_true, and_assoc, eq_comm (a := fault)]

theorem literalFaults_ascend (side : Side) (base : BaseType) :
    (base.literalFaults side).Pairwise Fault.Before := by
  unfold literalFaults
  split
  · rw [List.pairwise_map]
    apply List.Pairwise.filter
    have hpositions : ((base.allowed.getD []).zipIdx.map (·.2)).Pairwise (· < ·) := by
      rw [List.zipIdx_map_snd]
      exact List.pairwise_lt_range'
    exact (List.pairwise_map.mp hpositions).imp fun hlt => .inr ⟨by cases side <;> rfl, hlt⟩
  · exact .nil

theorem referenceFaults_ascend (db : Database) (side : Side) (base : BaseType) :
    (base.referenceFaults db side).Pairwise Fault.Before := by
  unfold referenceFaults
  cases base.refTable with
  | none => exact .nil
  | some refTable => exact ((List.pairwise_singleton _ _).filter _).map _ fun _ _ h => h

theorem faults_ascend (db : Database) (side : Side) (base : BaseType) :
    (base.faults db side).Pairwise Fault.Before := by
  apply List.pairwise_append.mpr
  refine ⟨base.literalFaults_ascend side, base.referenceFaults_ascend db side, ?_⟩
  intro first hfirst second hsecond
  obtain ⟨-, values, position, literal, -, -, -, rfl⟩ := mem_literalFaults_iff.mp hfirst
  obtain ⟨refTable, -, -, rfl⟩ := mem_referenceFaults_iff.mp hsecond
  exact .inl (Nat.lt_succ_self side.step)

theorem step_of_mem_faults {db : Database} {side : Side} {base : BaseType} {fault : Fault}
    (h : fault ∈ base.faults db side) : fault.step = side.step ∨ fault.step = side.step + 1 := by
  rcases List.mem_append.mp h with hliteral | href
  · obtain ⟨-, values, position, literal, -, -, -, rfl⟩ := mem_literalFaults_iff.mp hliteral
    exact .inl rfl
  · obtain ⟨refTable, -, -, rfl⟩ := mem_referenceFaults_iff.mp href
    exact .inr rfl

end BaseType

namespace Column

/-- The faults of a column, in the order of its check. -/
def faults (db : Database) (name : String) (column : Column) : List Fault :=
  (if isReservedName name then [.reservedName] else []) ++
    (column.key.faults db .key ++ column.value.toList.flatMap (BaseType.faults db .value))

theorem mem_faults_iff {db : Database} {name : String} {column : Column} {fault : Fault} :
    fault ∈ column.faults db name ↔ column.HasFault db name fault := by
  have hside : ∀ (side : Side) (base : BaseType), column.base? side = some base →
      fault ∈ base.faults db side → column.HasFault db name fault := by
    intro side base hbase hmem
    rcases List.mem_append.mp hmem with hliteral | href
    · obtain ⟨hsupported, values, position, literal, hvalues, hget, htype, rfl⟩ :=
        BaseType.mem_literalFaults_iff.mp hliteral
      exact .literal hbase hvalues hsupported hget htype
    · obtain ⟨refTable, hrefTable, hmissing, rfl⟩ := BaseType.mem_referenceFaults_iff.mp href
      exact .reference hbase hrefTable hmissing
  have hmem : ∀ (side : Side) (base : BaseType), column.base? side = some base →
      fault ∈ base.faults db side → fault ∈ column.faults db name := by
    intro side base hbase hmem
    apply List.mem_append_right
    cases side with
    | key =>
      obtain rfl := Option.some.inj hbase
      exact List.mem_append_left _ hmem
    | value =>
      apply List.mem_append_right
      exact List.mem_flatMap.mpr ⟨base, Option.mem_toList.mpr hbase, hmem⟩
  constructor
  · intro h
    rcases List.mem_append.mp h with hreserved | hrest
    · split at hreserved
      · rename_i hname
        obtain rfl := List.mem_singleton.mp hreserved
        exact .reservedName (isReservedName_iff.mp hname)
      · exact absurd hreserved List.not_mem_nil
    · rcases List.mem_append.mp hrest with hkey | hvalue
      · exact hside .key column.key rfl hkey
      · obtain ⟨base, hbase, hfault⟩ := List.mem_flatMap.mp hvalue
        exact hside .value base (Option.mem_toList.mp hbase) hfault
  · intro h
    cases h with
    | reservedName hname =>
      apply List.mem_append_left
      rw [if_pos (isReservedName_iff.mpr hname)]
      exact List.mem_singleton_self _
    | literal hbase hvalues hsupported hget htype =>
      apply hmem _ _ hbase
      apply List.mem_append_left
      exact BaseType.mem_literalFaults_iff.mpr
        ⟨hsupported, _, _, _, hvalues, hget, htype, rfl⟩
    | reference hbase href hmissing =>
      apply hmem _ _ hbase
      apply List.mem_append_right
      exact BaseType.mem_referenceFaults_iff.mpr ⟨_, href, hmissing, rfl⟩

theorem faults_ascend (db : Database) (name : String) (column : Column) :
    (column.faults db name).Pairwise Fault.Before := by
  have hvalue : (column.value.toList.flatMap (BaseType.faults db .value)).Pairwise Fault.Before := by
    cases column.value with
    | none => exact .nil
    | some base =>
      rw [Option.toList_some, List.flatMap_singleton]
      exact base.faults_ascend db .value
  apply List.pairwise_append.mpr
  refine ⟨?_, List.pairwise_append.mpr ⟨column.key.faults_ascend db .key, hvalue, ?_⟩, ?_⟩
  · split
    · exact List.pairwise_singleton _ _
    · exact .nil
  · intro first hfirst second hsecond
    obtain ⟨base, -, hsecond⟩ := List.mem_flatMap.mp hsecond
    have hkey := BaseType.step_of_mem_faults hfirst
    have hvalue := BaseType.step_of_mem_faults hsecond
    left
    simp only [Side.step] at hkey hvalue
    omega
  · intro first hfirst second hsecond
    have hzero : first.step = 0 := by
      split at hfirst
      · obtain rfl := List.mem_singleton.mp hfirst
        rfl
      · exact absurd hfirst List.not_mem_nil
    have hpositive : ∀ side base, second ∈ BaseType.faults db side base → 0 < second.step := by
      intro side base hmem
      have hstep := BaseType.step_of_mem_faults hmem
      have hside := side.step_pos
      omega
    rw [← hzero] at hpositive
    left
    rcases List.mem_append.mp hsecond with hkey | hvalue
    · exact hpositive .key column.key hkey
    · obtain ⟨base, -, hmem⟩ := List.mem_flatMap.mp hvalue
      exact hpositive .value base hmem

end Column

end OvsdbModels
