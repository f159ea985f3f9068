/-
  OvsdbModels/NameMap.lean
  ========================
  Finite maps from names, kept in ascending order of the names.

  The order is that of code points, which is also the order of the names' UTF-8 bytes.  Since the
  order is part of the type, two maps with the same entries are equal, however they were built.  A walk
  goes through a list of names and looks each one up; through all names it meets every entry once
  (`pick_names`).
-/

namespace OvsdbModels

/-- A map from names to values; each name occurs once and the names ascend. -/
structure NameMap (α : Type) where
  entries : List (String × α)
  ascending : entries.Pairwise fun a b => a.1 < b.1

namespace NameMap

variable {α : Type}

instance : Inhabited (NameMap α) := ⟨⟨[], List.Pairwise.nil⟩⟩

instance [DecidableEq α] : DecidableEq (NameMap α) := fun a b =>
  if h : a.entries = b.entries then
    isTrue (by cases a; cases b; simp_all)
  else
    isFalse fun e => h (by rw [e])

def empty : NameMap α := default

/-- Puts an entry into an ascending list in place of an entry of the same name. -/
def insertEntry (name : String) (value : α) : List (String × α) → List (String × α)
  | [] => [(name, value)]
  | (n, v) :: rest =>
    if name < n then (name, value) :: (n, v) :: rest
    else if name = n then (name, value) :: rest
    else (n, v) :: insertEntry name value rest

/-! ### Insertion keeps the order -/

theorem mem_insertEntry {name : String} {value : α} {entries : List (String × α)}
    {e : String × α} (h : e ∈ insertEntry name value entries) :
    e = (name, value) ∨ e ∈ entries := by
  induction entries with
  | nil => exact Or.inl (by simpa [insertEntry] using h)
  | cons first rest ih =>
    obtain ⟨n, v⟩ := first
    simp only [insertEntry] at h
    split at h
    · simpa using h
    · split at h
      · rcases List.mem_cons.mp h with h | h
        · exact Or.inl h
        · exact Or.inr (List.mem_cons_of_mem _ h)
      · rcases List.mem_cons.mp h with h | h
        · exact Or.inr (by simp [h])
        · rcases ih h with h | h
          · exact Or.inl h
          · exact Or.inr (List.mem_cons_of_mem _ h)

theorem ascending_insertEntry (name : String) (value : α) {entries : List (String × α)}
    (h : entries.Pairwise fun a b => a.1 < b.1) :
    (insertEntry name value entries).Pairwise fun a b => a.1 < b.1 := by
  induction entries with
  | nil => simp [insertEntry]
  | cons first rest ih =>
    obtain ⟨n, v⟩ := first
    obtain ⟨hfirst, hrest⟩ := List.pairwise_cons.mp h
    simp only [insertEntry]
    split
    · rename_i hlt
      refine List.pairwise_cons.mpr ⟨fun e he => ?_, h⟩
      rcases List.mem_cons.mp he with rfl | he
      · exact hlt
      · exact String.lt_trans hlt (hfirst e he)
    · split
      · rename_i heq
        subst heq
        exact List.pairwise_cons.mpr ⟨hfirst, hrest⟩
      · rename_i hnlt hne
        refine List.pairwise_cons.mpr ⟨fun e he => ?_, ih hrest⟩
        rcases mem_insertEntry he with rfl | he
        · rcases Std.lt_trichotomy n name with hlt | heq | hgt
          · exact hlt
          · exact absurd heq.symm hne
          · exact absurd hgt hnlt
        · exact hfirst e he

/-! ### Operations -/

/-- Adds an entry; a value that the name had before is replaced. -/
def insert (map : NameMap α) (name : String) (value : α) : NameMap α :=
  ⟨insertEntry name value map.entries, ascending_insertEntry name value map.ascending⟩

/-- The map of a list of entries; of entries with one name the last counts. -/
def ofList (entries : List (String × α)) : NameMap α :=
  entries.foldl (fun map e => map.insert e.1 e.2) empty

def get? (map : NameMap α) (name : String) : Option α := map.entries.lookup name

def contains (map : NameMap α) (name : String) : Bool := (map.get? name).isSome

def names (map : NameMap α) : List String := map.entries.map (·.1)

def size (map : NameMap α) : Nat := map.entries.length

def isEmpty (map : NameMap α) : Bool := map.entries.isEmpty

/-- A list of names without those that repeat the name directly before them. -/
def dropRepeats : List String → List String
  | [] => []
  | [name] => [name]
  | first :: second :: rest =>
    if first = second then dropRepeats (second :: rest)
    else first :: dropRepeats (second :: rest)

/-- The entries of the given names, in the order in which they are named. -/
def pick (map : NameMap α) (names : List String) : List (String × α) :=
  names.filterMap fun name => (map.get? name).map fun value => (name, value)

/-- The entries of the given names, ascending; each entry comes once, however often it is named. -/
def select (map : NameMap α) (names : List String) : List (String × α) :=
  map.pick (dropRepeats (names.mergeSort (· ≤ ·)))

/-! ### Looking up -/

@[simp] theorem get?_empty (name : String) : (empty : NameMap α).get? name = none := rfl

theorem lookup_cons_if (m : String) (v : α) (rest : List (String × α)) (n : String) :
    ((m, v) :: rest).lookup n = if n = m then some v else rest.lookup n := by
  by_cases h : n = m
  · simp [h]
  · simp [List.lookup_cons, h, beq_false_of_ne h]

theorem lookup_insertEntry (name : String) (value : α) (entries : List (String × α))
    (n : String) :
    (insertEntry name value entries).lookup n =
      if n = name then some value else entries.lookup n := by
  induction entries with
  | nil => simp [insertEntry, lookup_cons_if]
  | cons first rest ih =>
    obtain ⟨m, v⟩ := first
    simp only [insertEntry]
    split
    · simp [lookup_cons_if]
    · split
      · rename_i heq
        subst heq
        by_cases h : n = name <;> simp [lookup_cons_if, h]
      · rename_i hne
        by_cases h : n = m
        · subst h
          simp [Ne.symm hne]
        · simp [lookup_cons_if, h, ih]

/-- A name has the value that was put last. -/
theorem get?_insert (map : NameMap α) (name : String) (value : α) (n : String) :
    (map.insert name value).get? n = if n = name then some value else map.get? n :=
  lookup_insertEntry name value map.entries n

theorem get?_eq_some_iff {map : NameMap α} {name : String} {value : α} :
    map.get? name = some value ↔ (name, value) ∈ map.entries := by
  rw [get?, List.lookup_eq_some_iff]
  constructor
  · rintro ⟨before, after, heq, -⟩
    rw [heq]
    exact List.mem_append_right _ (List.mem_cons_self ..)
  · intro hmem
    obtain ⟨before, after, heq⟩ := List.append_of_mem hmem
    refine ⟨before, after, heq, fun entry hentry => ?_⟩
    have hascending := map.ascending
    rw [heq, List.pairwise_append] at hascending
    have hlt : entry.1 < name := hascending.2.2 entry hentry (name, value) (List.mem_cons_self ..)
    exact bne_iff_ne.mpr (Ne.symm (String.ne_of_lt hlt))

/-! ### Walking over all names -/

theorem names_ascend (map : NameMap α) : map.names.Pairwise (· < ·) :=
  List.pairwise_map.mpr map.ascending

theorem pick_map_fst {map : NameMap α} {entries : List (String × α)}
    (h : ∀ entry ∈ entries, entry ∈ map.entries) : map.pick (entries.map (·.1)) = entries := by
  induction entries with
  | nil => rfl
  | cons entry rest ih =>
    obtain ⟨hentry, hrest⟩ := List.forall_mem_cons.mp h
    have hget : map.get? entry.1 = some entry.2 := get?_eq_some_iff.mpr hentry
    have htail := ih hrest
    rw [pick] at htail
    rw [pick, List.map_cons, List.filterMap_cons, hget, htail]
    rfl

/-- Looking up every name in turn gives the entries as they are kept. -/
theorem pick_names (map : NameMap α) : map.pick map.names = map.entries :=
  pick_map_fst fun _ hentry => hentry

end NameMap

end OvsdbModels
