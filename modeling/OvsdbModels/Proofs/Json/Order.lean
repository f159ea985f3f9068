/-
  OvsdbModels/Proofs/Json/Order.lean
  ==================================
  **Trees that differ in the order of members.**

  The members of an object of which the names differ may be put in another order (`Reordered`); a map
  that is read from the object stays the same (`outcome_nameMap_congr`).  Where the object stands in a
  field of a record (`InField`), the record stays the same if its reader does not tell the two values
  of that field apart (`outcome_record_congr`).
-/
import Mathlib.Data.List.Perm.Basic
import OvsdbModels.Proofs.Json.Record
import OvsdbModels.Proofs.NameMap

namespace OvsdbModels.Json

variable {α σ : Type}

/-! ### Reordered objects -/

/-- The names of members, as far as they are texts. -/
def memberNames (ms : List (List Symbol × Tree)) : List String := ms.filterMap fun m => name? m.1

/-- Two trees that are the same but for the order of the members of an object, in which no name is
repeated, and for what `R` allows in their values. -/
inductive Reordered (R : Tree → Tree → Prop) : Tree → Tree → Prop where
  | same (t : Tree) : Reordered R t t
  | object {ms moved ms' : List (List Symbol × Tree)} (hnames : (memberNames ms).Nodup)
      (hperm : ms.Perm moved) (h : List.Forall₂ (fun m m' => m.1 = m'.1 ∧ R m.2 m'.2) moved ms') :
      Reordered R (.object ms) (.object ms')

/-- The entry that a member makes in a map. -/
def memberEntry (item : Reader α) (m : List Symbol × Tree) : Option (String × α) :=
  (name? m.1).bind fun name => (outcome item m.2).map fun a => (name, a)

theorem memberEntry_eq_some_iff {item : Reader α} {m : List Symbol × Tree} {entry : String × α} :
    memberEntry item m = some entry ↔
      name? m.1 = some entry.1 ∧ outcome item m.2 = some entry.2 := by
  simp only [memberEntry, Option.bind_eq_some_iff, Option.map_eq_some_iff]
  constructor
  · rintro ⟨name, hname, a, ha, rfl⟩
    exact ⟨hname, ha⟩
  · rintro ⟨hname, ha⟩
    exact ⟨entry.1, hname, entry.2, ha, rfl⟩

/-- Where each step puts an entry to what came before it, the members are read if every one of them
makes an entry. -/
theorem membersOutcome_eq_some_iff {item : Reader α} {step : σ → String → Reader σ}
    (put : σ → String × α → σ) (hstep : ∀ state name t,
      outcomeMember (step state name) t = (outcome item t).map fun a => put state (name, a))
    {ms : List (List Symbol × Tree)} {state state' : σ} :
    membersOutcome step ms state = some state' ↔
      ∃ entries, List.Forall₂ (fun m e => memberEntry item m = some e) ms entries ∧
        entries.foldl put state = state' := by
  induction ms generalizing state with
  | nil =>
    constructor
    · intro hread
      exact ⟨[], .nil, Option.some.inj hread⟩
    · rintro ⟨entries, hentries, rfl⟩
      obtain rfl := List.forall₂_nil_left_iff.mp hentries
      rfl
  | cons m ms ih =>
    obtain ⟨s, t⟩ := m
    simp only [membersOutcome, hstep, Option.bind_eq_some_iff, Option.map_eq_some_iff, ih]
    constructor
    · rintro ⟨name, hname, _, ⟨a, ha, rfl⟩, entries, hentries, rfl⟩
      exact ⟨(name, a) :: entries, .cons (memberEntry_eq_some_iff.mpr ⟨hname, ha⟩) hentries, rfl⟩
    · rintro ⟨_, hall, rfl⟩
      obtain ⟨⟨name, a⟩, entries, hentry, hentries, rfl⟩ := List.forall₂_cons_left_iff.mp hall
      obtain ⟨hname, ha⟩ := memberEntry_eq_some_iff.mp hentry
      exact ⟨name, hname, _, ⟨a, ha, rfl⟩, entries, hentries, rfl⟩

/-- A map is read if every member makes an entry. -/
theorem membersOutcome_insertMember {item : Reader α} (h : Settled item)
    {ms : List (List Symbol × Tree)} {map map' : NameMap α} :
    membersOutcome (insertMember item) ms map = some map' ↔
      ∃ entries, List.Forall₂ (fun m e => memberEntry item m = some e) ms entries ∧
        entries.foldl (fun map e => map.insert e.1 e.2) map = map' :=
  membersOutcome_eq_some_iff (fun map e => map.insert e.1 e.2) fun map name t =>
    ((h.means t).insertMember map name).outcome_eq

theorem memberNames_of_entries {item : Reader α} {ms : List (List Symbol × Tree)}
    {entries : List (String × α)}
    (h : List.Forall₂ (fun m e => memberEntry item m = some e) ms entries) :
    memberNames ms = entries.map Prod.fst := by
  unfold memberNames
  induction h with
  | nil => rfl
  | @cons m entry ms entries hentry _ ih =>
    rw [List.filterMap_cons, (memberEntry_eq_some_iff.mp hentry).1, ih, List.map_cons]

theorem membersOutcome_of_perm {item : Reader α} (h : Settled item)
    {ms ms' : List (List Symbol × Tree)} (hperm : ms'.Perm ms) (hnames : (memberNames ms).Nodup)
    {map : NameMap α} (hread : membersOutcome (insertMember item) ms .empty = some map) :
    membersOutcome (insertMember item) ms' .empty = some map := by
  obtain ⟨entries, hentries, rfl⟩ := (membersOutcome_insertMember h).mp hread
  obtain ⟨entries', hentries', hperm'⟩ := List.perm_comp_forall₂ hperm hentries
  refine (membersOutcome_insertMember h).mpr ⟨entries', hentries', ?_⟩
  rw [memberNames_of_entries hentries] at hnames
  exact (NameMap.ofList_perm hperm'.symm hnames).symm

theorem membersOutcome_perm {item : Reader α} (h : Settled item)
    {ms ms' : List (List Symbol × Tree)} (hperm : ms.Perm ms') (hnames : (memberNames ms).Nodup) :
    membersOutcome (insertMember item) ms .empty =
      membersOutcome (insertMember item) ms' .empty := by
  have hnames' : (memberNames ms').Nodup := (hperm.filterMap _).nodup hnames
  refine Option.ext fun map => ?_
  exact ⟨membersOutcome_of_perm h hperm.symm hnames, membersOutcome_of_perm h hperm hnames'⟩

theorem outcome_nameMap_congr {item : Nat → Reader α} {R : Tree → Tree → Prop}
    (hitem : ∀ depth, Settled (item depth))
    (hR : ∀ depth t t', R t t' → outcome (item depth) t = outcome (item depth) t') {t t' : Tree}
    (h : Reordered R t t') (depth : Nat) :
    outcome (nameMap item depth) t = outcome (nameMap item depth) t' := by
  cases h with
  | same => rfl
  | @object ms moved ms' hnames hperm hmoved =>
    rw [(means_nameMap_object hitem depth ms).outcome_eq,
      (means_nameMap_object hitem depth ms').outcome_eq]
    refine congrArg (atDepth depth) (funext fun depth => ?_)
    rw [membersOutcome_perm (hitem depth) hperm hnames]
    refine membersOutcome_congr (hmoved.imp fun m m' hm => ⟨hm.1, fun name _ map => ?_⟩) _
    rw [(((hitem depth).means m.2).insertMember map name).outcome_eq,
      (((hitem depth).means m'.2).insertMember map name).outcome_eq, hR depth _ _ hm.2]

/-! ### Fields of records -/

/-- Two trees that are the same but for one field of a record, of which the values are related: the
members of a name in an object, or the item at a position of an array. -/
inductive InField (name : String) (position : Nat) (R : Tree → Tree → Prop) :
    Tree → Tree → Prop where
  | same (t : Tree) : InField name position R t t
  | object {ms ms' : List (List Symbol × Tree)}
      (h : List.Forall₂
        (fun m m' => m.1 = m'.1 ∧ (m.2 = m'.2 ∨ name? m.1 = some name ∧ R m.2 m'.2)) ms ms') :
      InField name position R (.object ms) (.object ms')
  | array {before after : List Tree} {t t' : Tree} (hposition : before.length = position)
      (h : R t t') :
      InField name position R (.array (before ++ t :: after)) (.array (before ++ t' :: after))

theorem outcomeMember_once_congr {item : Reader α} (h : Settled item) {t t' : Tree}
    (heq : outcome item t = outcome item t') (name : String) (before : Option α) (f : Option α → σ) :
    outcomeMember (do pure (f (← once name before item))) t =
      outcomeMember (do pure (f (← once name before item))) t' := by
  rw [(((h.means t).once name before).map f).outcome_eq,
    (((h.means t').once name before).map f).outcome_eq, heq]

theorem fieldOutcome_bind_cons (item : Reader α) (missing : Option α)
    (more : α → StateT (List Tree) Option σ) (t : Tree) (items : List Tree) :
    (fieldOutcome item missing >>= more) (t :: items) =
      (outcome item t).bind fun a => more a items := by
  show ((outcome item t).map _).bind _ = _
  rw [Option.bind_map]
  rfl

/-- A record stays the same if neither the step for the field's members nor the fields in order tell
two values of the field apart. -/
theorem outcome_record_congr {byMembers inOrder : Nat → Reader α}
    {step : Nat → σ → String → Reader σ} {initial : σ} {finish : σ → Option α}
    {fields : Nat → StateT (List Tree) Option α} {name : String} {position : Nat}
    {R : Tree → Tree → Prop}
    (hmembers : ∀ depth ms, ReadsMembers (byMembers depth) ms
      ((membersOutcome (step depth) ms initial).bind finish))
    (hitems : ∀ depth, Takes true (inOrder depth) (fields depth))
    (hmember : ∀ depth t t', R t t' → ∀ state,
      outcomeMember (step depth state name) t = outcomeMember (step depth state name) t')
    (hfield : ∀ depth before t t' after, before.length = position → R t t' →
      fields depth (before ++ t :: after) = fields depth (before ++ t' :: after))
    {t t' : Tree} (h : InField name position R t t') (shape : String) (depth : Nat) :
    outcome (record shape byMembers inOrder depth) t =
      outcome (record shape byMembers inOrder depth) t' := by
  cases h with
  | same => rfl
  | @object ms ms' hsame =>
    rw [(means_record_object (fun depth => hmembers depth ms) shape depth).outcome_eq,
      (means_record_object (fun depth => hmembers depth ms') shape depth).outcome_eq]
    refine congrArg (atDepth depth) (funext fun depth => ?_)
    rw [membersOutcome_congr (hsame.imp fun m m' hm => ⟨hm.1, fun n hn state => ?_⟩) initial]
    rcases hm.2 with heq | ⟨hname, hR⟩
    · rw [heq]
    · obtain rfl := Option.some.inj (hname.symm.trans hn)
      exact hmember depth _ _ hR state
  | @array before after t t' hposition hR =>
    rw [(means_record_array hitems shape depth _).outcome_eq,
      (means_record_array hitems shape depth _).outcome_eq]
    refine congrArg (atDepth depth) (funext fun depth => ?_)
    rw [allFields, allFields, hfield depth before t t' after hposition hR]

end OvsdbModels.Json
