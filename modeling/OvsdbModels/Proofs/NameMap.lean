/-
  OvsdbModels/Proofs/NameMap.lean
  ===============================
  **Names and selections of maps.**

  The names of a map ascend by their bytes (`names_ascend_bytes`).  Selecting names sorts them and drops
  repeated ones, which comes to the same as walking over the map and keeping the selected entries
  (`select_eq_filter`).  The order in which entries of different names are put into a map does not matter
  (`ofList_perm`).
-/
import Mathlib.Data.List.Nodup
import OvsdbModels.Proofs.Text.ByteOrder

namespace OvsdbModels.NameMap

variable {α : Type}

/-! ### Entries and names -/

theorem mem_names_iff {map : NameMap α} {name : String} :
    name ∈ map.names ↔ ∃ value, map.get? name = some value := by
  rw [names, List.mem_map]
  constructor
  · rintro ⟨⟨n, value⟩, hmem, rfl⟩
    exact ⟨value, get?_eq_some_iff.mpr hmem⟩
  · rintro ⟨value, hget⟩
    exact ⟨(name, value), get?_eq_some_iff.mp hget, rfl⟩

theorem contains_iff {map : NameMap α} {name : String} :
    map.contains name = true ↔ name ∈ map.names := by
  rw [contains, Option.isSome_iff_exists, mem_names_iff]

theorem names_ascend_bytes (map : NameMap α) : map.names.Pairwise Text.ByteLt :=
  map.names_ascend.imp Text.lt_iff_byteLt.mp

/-- A search by name finds the entry that the map has under the name. -/
theorem find?_entries (map : NameMap α) (name : String) :
    map.entries.find? (·.1 = name) = (map.get? name).map fun value => (name, value) := by
  unfold get?
  induction map.entries with
  | nil => rfl
  | cons entry rest ih =>
    rw [List.find?_cons, List.lookup_cons]
    by_cases heq : entry.1 = name
    · subst heq
      simp
    · have hne : (name == entry.1) = false := beq_eq_false_iff_ne.mpr (Ne.symm heq)
      simp [heq, hne, ih]

/-! ### Selections -/

theorem mem_dropRepeats {name : String} (names : List String) :
    name ∈ dropRepeats names ↔ name ∈ names := by
  fun_induction dropRepeats names with
  | case1 => rfl
  | case2 => rfl
  | case3 second rest ih =>
    rw [ih, List.mem_cons (l := second :: rest)]
    exact (or_iff_right_of_imp fun heq => heq ▸ List.mem_cons_self ..).symm
  | case4 first second rest hne ih =>
    rw [List.mem_cons, ih, ← List.mem_cons]

theorem dropRepeats_ascends {names : List String} (h : names.Pairwise (· ≤ ·)) :
    (dropRepeats names).Pairwise (· < ·) := by
  fun_induction dropRepeats names with
  | case1 => exact List.Pairwise.nil
  | case2 => exact List.pairwise_singleton ..
  | case3 second rest ih => exact ih (List.pairwise_cons.mp h).2
  | case4 first second rest hne ih =>
    obtain ⟨hfirst, hrest⟩ := List.pairwise_cons.mp h
    refine List.pairwise_cons.mpr ⟨fun name hname => ?_, ih hrest⟩
    have hsecond : first < second := by
      rcases Std.lt_trichotomy first second with hlt | heq | hgt
      · exact hlt
      · exact absurd heq hne
      · exact absurd hgt (hfirst second (List.mem_cons_self ..))
    rcases List.mem_cons.mp ((mem_dropRepeats _).mp hname) with rfl | hmem
    · exact hsecond
    · rcases Std.lt_trichotomy second name with hlt | rfl | hgt
      · exact String.lt_trans hsecond hlt
      · exact hsecond
      · exact absurd hgt ((List.pairwise_cons.mp hrest).1 name hmem)

theorem mem_select_iff {map : NameMap α} {names : List String} {entry : String × α} :
    entry ∈ map.select names ↔ entry ∈ map.entries ∧ entry.1 ∈ names := by
  obtain ⟨name, value⟩ := entry
  rw [select, pick, List.mem_filterMap, ← get?_eq_some_iff]
  simp only [mem_dropRepeats, List.mem_mergeSort, Option.map_eq_some_iff, Prod.mk.injEq]
  constructor
  · rintro ⟨n, hmem, v, hget, rfl, rfl⟩
    exact ⟨hget, hmem⟩
  · rintro ⟨hget, hmem⟩
    exact ⟨name, hmem, value, hget, rfl, rfl⟩

theorem select_ascends (map : NameMap α) (names : List String) :
    (map.select names).Pairwise fun a b => a.1 < b.1 := by
  have hsorted : (names.mergeSort (· ≤ ·)).Pairwise (· ≤ ·) := by
    have htrans : ∀ a b c : String, decide (a ≤ b) → decide (b ≤ c) → decide (a ≤ c) := by
      intro a b c hab hbc
      exact decide_eq_true (String.le_trans (of_decide_eq_true hab) (of_decide_eq_true hbc))
    have htotal : ∀ a b : String, decide (a ≤ b) || decide (b ≤ a) := by
      intro a b
      rw [Bool.or_eq_true, decide_eq_true_iff, decide_eq_true_iff]
      exact String.le_total a b
    exact (List.pairwise_mergeSort htrans htotal names).imp of_decide_eq_true
  rw [select, pick, List.pairwise_filterMap]
  refine (dropRepeats_ascends hsorted).imp fun hlt a ha b hb => ?_
  obtain ⟨-, -, rfl⟩ := Option.map_eq_some_iff.mp ha
  obtain ⟨-, -, rfl⟩ := Option.map_eq_some_iff.mp hb
  exact hlt

/-- Two lists of entries that ascend and have the same entries are the same list. -/
theorem eq_of_ascends {l l' : List (String × α)} (h : l.Pairwise fun a b => a.1 < b.1)
    (h' : l'.Pairwise fun a b => a.1 < b.1) (hmem : ∀ entry, entry ∈ l ↔ entry ∈ l') : l = l' := by
  have hnodup : l.Nodup := h.imp fun hlt heq => String.ne_of_lt hlt (congrArg Prod.fst heq)
  have hnodup' : l'.Nodup := h'.imp fun hlt heq => String.ne_of_lt hlt (congrArg Prod.fst heq)
  refine ((List.perm_ext_iff_of_nodup hnodup hnodup').mpr hmem).eq_of_pairwise ?_ h h'
  intro a b _ _ hab hba
  exact absurd hba (String.lt_asymm hab)

/-- A selection keeps of the map's entries those that are selected. -/
theorem select_eq_filter (map : NameMap α) (names : List String) :
    map.select names = map.entries.filter fun entry => names.contains entry.1 := by
  refine eq_of_ascends (map.select_ascends names) (map.ascending.filter _) fun entry => ?_
  rw [mem_select_iff, List.mem_filter, List.contains_iff_mem]

/-! ### The order of insertion -/

/-- Two maps with the same value under every name are the same map. -/
theorem ext_get? {map map' : NameMap α} (h : ∀ name, map.get? name = map'.get? name) :
    map = map' := by
  have hentries : map.entries = map'.entries := by
    refine eq_of_ascends map.ascending map'.ascending fun entry => ?_
    rw [← get?_eq_some_iff, ← get?_eq_some_iff, h]
  cases map
  cases map'
  cases hentries
  rfl

theorem insert_comm (map : NameMap α) {name name' : String} (h : name ≠ name') (value value' : α) :
    (map.insert name value).insert name' value' = (map.insert name' value').insert name value := by
  refine ext_get? fun n => ?_
  simp only [get?_insert]
  by_cases hn : n = name
  · subst hn
    rw [if_neg h, if_pos rfl, if_pos rfl]
  · rw [if_neg hn, if_neg hn]

/-- The map of a list of entries with different names does not depend on their order. -/
theorem ofList_perm {entries entries' : List (String × α)} (h : entries.Perm entries')
    (hnames : (entries.map Prod.fst).Nodup) : ofList entries = ofList entries' := by
  refine h.foldl_eq' (fun e he e' he' map => ?_) empty
  by_cases heq : e = e'
  · rw [heq]
  · have hne : e.1 ≠ e'.1 := fun hname => heq (List.inj_on_of_nodup_map hnames he he' hname)
    exact insert_comm map hne e.2 e'.2

end OvsdbModels.NameMap
