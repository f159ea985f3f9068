/-
  OvsdbModels/Proofs/Json/Content.lean
  ====================================
  **What the values of a document hold.**

  A tree is read as a value exactly if its numbers and strings can be represented and its containers
  are not too deep (`exists_outcome_value_iff`); items and members are read one by one.  What the
  members of a name say, and what a field that may be left out says, can then be told from the tree.
-/
import OvsdbModels.Proofs.Attempt
import OvsdbModels.Proofs.Json.Literal
import OvsdbModels.Proofs.Json.Order

namespace OvsdbModels.Json

variable {α : Type} {depth : Nat}

/-! ### Scalars -/

theorem means_value_number (depth : Nat) (n : Numeral) :
    Means (value depth) (.number n) (n.number?.map .number) := by
  intro blank text rest hblank htext hrest
  have hread := (n.reads_number? hrest).map Value.number
  obtain ⟨c, s, hn, hc⟩ := n.exists_cons
  cases htext
  rw [hn] at hread ⊢
  unfold value
  refine Reads.piece_bind hblank (isSpace_of_numeral hc) ?_
  -- the last branch is that of numbers: they begin with none of the characters before it
  split
  case h_8 =>
    rename_i heq
    obtain rfl := Option.some.inj heq
    rw [if_pos hc]
    exact hread
  case h_1 =>
    rename_i heq
    exact nomatch heq
  all_goals
    rename_i heq
    exact absurd (Option.some.inj heq ▸ hc) (by decide)

@[simp] theorem outcome_value_null (depth : Nat) : outcome (value depth) .null = some .null :=
  (means_value_null depth).outcome_eq

@[simp] theorem outcome_value_boolean (depth : Nat) (b : Bool) :
    outcome (value depth) (.boolean b) = some (.boolean b) :=
  (means_value_boolean depth b).outcome_eq

@[simp] theorem outcome_value_number (depth : Nat) (n : Numeral) :
    outcome (value depth) (.number n) = n.number?.map .number :=
  (means_value_number depth n).outcome_eq

@[simp] theorem outcome_value_string (depth : Nat) (s : List Symbol) :
    outcome (value depth) (.string s) = (name? s).map .string :=
  (means_value_string depth s).outcome_eq

/-! ### Containers -/

/-- Whether values are what trees are read as, one by one. -/
def HoldsItems (depth : Nat) : List Tree → List Value → Prop :=
  List.Forall₂ fun t v => outcome (value depth) t = some v

/-- Whether named values are what the members of an object are read as, one by one. -/
def HoldsMembers (depth : Nat) : List (List Symbol × Tree) → List (String × Value) → Prop :=
  List.Forall₂ fun m entry => memberEntry (value depth) m = some entry

theorem itemsOutcome_eq_some_iff {item : Reader α} {items : List Tree} {done as : List α} :
    itemsOutcome item items done = some as ↔
      ∃ more, List.Forall₂ (fun t a => outcome item t = some a) items more ∧
        done.reverse ++ more = as := by
  induction items generalizing done with
  | nil =>
    constructor
    · intro h
      exact ⟨[], .nil, by rw [List.append_nil]; exact Option.some.inj h⟩
    · rintro ⟨more, hmore, rfl⟩
      obtain rfl := List.forall₂_nil_left_iff.mp hmore
      rw [List.append_nil]
      rfl
  | cons t items ih =>
    simp only [itemsOutcome, Option.bind_eq_some_iff, ih, List.reverse_cons, List.append_assoc,
      List.singleton_append]
    constructor
    · rintro ⟨a, ha, more, hmore, rfl⟩
      exact ⟨a :: more, .cons ha hmore, rfl⟩
    · rintro ⟨_, hall, rfl⟩
      obtain ⟨a, more, ha, hmore, rfl⟩ := List.forall₂_cons_left_iff.mp hall
      exact ⟨a, ha, more, hmore, rfl⟩

theorem outcome_value_array_iff {items : List Tree} {v : Value} :
    outcome (value (depth + 1)) (.array items) = some v ↔
      ∃ vs, HoldsItems depth items vs ∧ v = .array vs := by
  rw [(means_value_array fun t _ => (settled_value depth).means t).outcome_eq]
  simp only [Option.map_eq_some_iff, itemsOutcome_eq_some_iff, List.reverse_nil, List.nil_append]
  constructor
  · rintro ⟨_, ⟨vs, hvs, rfl⟩, rfl⟩
    exact ⟨vs, hvs, rfl⟩
  · rintro ⟨vs, hvs, rfl⟩
    exact ⟨vs, ⟨vs, hvs, rfl⟩, rfl⟩

theorem outcome_value_object_iff {ms : List (List Symbol × Tree)} {v : Value} :
    outcome (value (depth + 1)) (.object ms) = some v ↔
      ∃ entries, HoldsMembers depth ms entries ∧ v = .object entries := by
  have hstep : ∀ done name t, outcomeMember (consMember (value depth) done name) t =
      (outcome (value depth) t).map fun v => (name, v) :: done :=
    fun done name t => (((settled_value depth).means t).consMember done name).outcome_eq
  rw [(means_value_object fun m _ => (settled_value depth).means m.2).outcome_eq]
  simp only [Option.map_eq_some_iff,
    membersOutcome_eq_some_iff (fun done entry => entry :: done) hstep,
    List.foldl_flip_cons_eq_append', List.append_nil]
  constructor
  · rintro ⟨_, ⟨_, ⟨entries, hentries, rfl⟩, rfl⟩, rfl⟩
    exact ⟨entries, hentries, by rw [List.reverse_reverse]⟩
  · rintro ⟨entries, hentries, rfl⟩
    exact ⟨entries, ⟨_, ⟨entries, hentries, rfl⟩, List.reverse_reverse _⟩, rfl⟩

theorem outcome_value_zero_array (items : List Tree) :
    outcome (value 0) (.array items) = none := by
  refine Means.outcome_eq fun _ _ _ hblank htext _ => ?_
  cases htext
  unfold value
  exact Reads.piece_bind hblank rfl ((fails_failNext _).reads _ _)

theorem outcome_value_zero_object (ms : List (List Symbol × Tree)) :
    outcome (value 0) (.object ms) = none := by
  refine Means.outcome_eq fun _ _ _ hblank htext _ => ?_
  cases htext
  unfold value
  exact Reads.piece_bind hblank rfl ((fails_failNext _).reads _ _)

/-- What a tree is read as, for each kind of tree. -/
inductive Holds : Nat → Tree → Value → Prop where
  | null (depth : Nat) : Holds depth .null .null
  | boolean (depth : Nat) (b : Bool) : Holds depth (.boolean b) (.boolean b)
  | number {depth : Nat} {n : Numeral} {number : Number} (h : n.number? = some number) :
      Holds depth (.number n) (.number number)
  | string {depth : Nat} {s : List Symbol} {text : String} (h : name? s = some text) :
      Holds depth (.string s) (.string text)
  | array {depth : Nat} {items : List Tree} {vs : List Value} (h : HoldsItems depth items vs) :
      Holds (depth + 1) (.array items) (.array vs)
  | object {depth : Nat} {ms : List (List Symbol × Tree)} {entries : List (String × Value)}
      (h : HoldsMembers depth ms entries) : Holds (depth + 1) (.object ms) (.object entries)

theorem outcome_value_iff {t : Tree} {v : Value} :
    outcome (value depth) t = some v ↔ Holds depth t v := by
  constructor
  · intro h
    cases t with
    | null =>
      obtain rfl := Option.some.inj ((outcome_value_null depth).symm.trans h)
      exact .null depth
    | boolean b =>
      obtain rfl := Option.some.inj ((outcome_value_boolean depth b).symm.trans h)
      exact .boolean depth b
    | number n =>
      rw [outcome_value_number, Option.map_eq_some_iff] at h
      obtain ⟨number, hnumber, rfl⟩ := h
      exact .number hnumber
    | string s =>
      rw [outcome_value_string, Option.map_eq_some_iff] at h
      obtain ⟨text, htext, rfl⟩ := h
      exact .string htext
    | array items =>
      cases depth with
      | zero => exact absurd ((outcome_value_zero_array items).symm.trans h) nofun
      | succ depth =>
        obtain ⟨vs, hvs, rfl⟩ := outcome_value_array_iff.mp h
        exact .array hvs
    | object ms =>
      cases depth with
      | zero => exact absurd ((outcome_value_zero_object ms).symm.trans h) nofun
      | succ depth =>
        obtain ⟨entries, hentries, rfl⟩ := outcome_value_object_iff.mp h
        exact .object hentries
  · intro h
    cases h with
    | null => exact outcome_value_null depth
    | boolean _ b => exact outcome_value_boolean depth b
    | number h => rw [outcome_value_number, h]; rfl
    | string h => rw [outcome_value_string, h]; rfl
    | array h => exact outcome_value_array_iff.mpr ⟨_, h, rfl⟩
    | object h => exact outcome_value_object_iff.mpr ⟨_, h, rfl⟩

/-! ### Limits -/

/-- Whether the numbers of a tree are in range, its strings and names are texts, and its containers
are at most `depth` inside one another. -/
def Tree.Within : Nat → Tree → Prop
  | _, .null => True
  | _, .boolean _ => True
  | _, .number n => n.number? ≠ none
  | _, .string s => name? s ≠ none
  | 0, .array _ => False
  | 0, .object _ => False
  | depth + 1, .array items => ∀ t ∈ items, Within depth t
  | depth + 1, .object ms => ∀ m ∈ ms, name? m.1 ≠ none ∧ Within depth m.2

theorem exists_forall₂_iff {β : Type} {R : α → β → Prop} {items : List α} :
    (∃ results, List.Forall₂ R items results) ↔ ∀ item ∈ items, ∃ result, R item result := by
  induction items with
  | nil => exact ⟨fun _ _ h => absurd h List.not_mem_nil, fun _ => ⟨[], .nil⟩⟩
  | cons item items ih =>
    rw [List.forall_mem_cons, ← ih]
    constructor
    · rintro ⟨_, hall⟩
      obtain ⟨result, results, hitem, hitems, -⟩ := List.forall₂_cons_left_iff.mp hall
      exact ⟨⟨result, hitem⟩, results, hitems⟩
    · rintro ⟨⟨result, hitem⟩, results, hitems⟩
      exact ⟨result :: results, .cons hitem hitems⟩

/-- The trees within the limits are those that are read. -/
theorem exists_outcome_value_iff {t : Tree} :
    (∃ v, outcome (value depth) t = some v) ↔ t.Within depth := by
  induction t using Tree.induct generalizing depth with
  | null => simp [Tree.Within]
  | boolean b => simp [Tree.Within]
  | number n => simp [Tree.Within, Option.ne_none_iff_exists']
  | string s => simp [Tree.Within, Option.ne_none_iff_exists']
  | array items ih =>
    cases depth with
    | zero => simp [Tree.Within, outcome_value_zero_array]
    | succ depth =>
      have hitems : (∃ vs, HoldsItems depth items vs) ↔ ∀ t ∈ items, t.Within depth :=
        exists_forall₂_iff.trans (forall₂_congr fun t ht => ih t ht)
      simp only [outcome_value_array_iff, Tree.Within]
      rw [← hitems]
      constructor
      · rintro ⟨_, vs, hvs, rfl⟩
        exact ⟨vs, hvs⟩
      · rintro ⟨vs, hvs⟩
        exact ⟨_, vs, hvs, rfl⟩
  | object ms ih =>
    cases depth with
    | zero => simp [Tree.Within, outcome_value_zero_object]
    | succ depth =>
      have hentry : ∀ m ∈ ms, (∃ entry, memberEntry (value depth) m = some entry) ↔
          name? m.1 ≠ none ∧ m.2.Within depth := by
        intro m hm
        simp only [← ih m hm, Option.ne_none_iff_exists', memberEntry_eq_some_iff]
        constructor
        · rintro ⟨⟨name, v⟩, hname, hv⟩
          exact ⟨⟨name, hname⟩, v, hv⟩
        · rintro ⟨⟨name, hname⟩, v, hv⟩
          exact ⟨⟨name, v⟩, hname, hv⟩
      have hmembers : (∃ entries, HoldsMembers depth ms entries) ↔
          ∀ m ∈ ms, name? m.1 ≠ none ∧ m.2.Within depth :=
        exists_forall₂_iff.trans (forall₂_congr hentry)
      simp only [outcome_value_object_iff, Tree.Within]
      rw [← hmembers]
      constructor
      · rintro ⟨_, entries, hentries, rfl⟩
        exact ⟨entries, hentries⟩
      · rintro ⟨entries, hentries⟩
        exact ⟨_, entries, hentries, rfl⟩

/-- What is read at one depth is read as the same where more depth is left. -/
theorem outcome_value_mono {t : Tree} {v : Value} {depth' : Nat} (hle : depth ≤ depth')
    (h : outcome (value depth) t = some v) : outcome (value depth') t = some v := by
  obtain ⟨extra, rfl⟩ := Nat.exists_eq_add_of_le' hle
  clear hle
  rw [outcome_value_iff] at h ⊢
  induction depth generalizing t v with
  | zero =>
    cases h with
    | null => exact .null _
    | boolean _ b => exact .boolean _ b
    | number h => exact .number h
    | string h => exact .string h
  | succ depth ih =>
    have hvalue : ∀ t v, outcome (value depth) t = some v →
        outcome (value (extra + depth)) t = some v :=
      fun t v hv => outcome_value_iff.mpr (ih (outcome_value_iff.mp hv))
    cases h with
    | null => exact .null _
    | boolean _ b => exact .boolean _ b
    | number h => exact .number h
    | string h => exact .string h
    | array h => exact .array (h.imp hvalue)
    | object h =>
      refine .object (h.imp fun m entry hentry => ?_)
      obtain ⟨hname, hv⟩ := memberEntry_eq_some_iff.mp hentry
      exact memberEntry_eq_some_iff.mpr ⟨hname, hvalue _ _ hv⟩

/-! ### Members by name -/

/-- The values of the members of a name. -/
def valuesOf (name : String) (ms : List (List Symbol × Tree)) : List Tree :=
  (ms.filter fun m => name? m.1 = some name).map Prod.snd

/-- The members but those of a name. -/
def others (name : String) (ms : List (List Symbol × Tree)) : List (List Symbol × Tree) :=
  ms.filter fun m => name? m.1 ≠ some name

/-- What a field is read as, if it is there. -/
def HoldsField (depth : Nat) : Option Tree → Option Value → Prop :=
  Option.Rel fun t v => outcome (value depth) t = some v

section Members

variable {ms : List (List Symbol × Tree)} {entries : List (String × Value)}
  (h : HoldsMembers depth ms entries)
include h

theorem HoldsMembers.named (name : String) :
    HoldsItems depth (valuesOf name ms) ((entries.filter (·.1 = name)).map Prod.snd) := by
  have hnamed := List.rel_filter (p := fun m => name? m.1 = some name) (q := fun e => e.1 = name)
    (fun m entry hentry => by simp [(memberEntry_eq_some_iff.mp hentry).1]) h
  rw [HoldsItems, valuesOf, List.forall₂_map_left_iff, List.forall₂_map_right_iff]
  exact hnamed.imp fun m entry hentry => (memberEntry_eq_some_iff.mp hentry).2

theorem HoldsMembers.others (name : String) :
    HoldsMembers depth (others name ms) (entries.filter (·.1 ≠ name)) :=
  List.rel_filter (fun m entry hentry => by simp [(memberEntry_eq_some_iff.mp hentry).1]) h

theorem HoldsMembers.single?_iff {name : String} {field : Option Value} :
    single? name entries = some field ↔
      ∃ t? : Option Tree, valuesOf name ms = t?.toList ∧ HoldsField depth t? field := by
  have hnamed := h.named name
  unfold single?
  generalize valuesOf name ms = ts at hnamed ⊢
  generalize entries.filter (·.1 = name) = named at hnamed ⊢
  cases named with
  | nil =>
    obtain rfl := List.forall₂_nil_right_iff.mp hnamed
    constructor
    · intro heq
      exact ⟨none, rfl, Option.some.inj heq ▸ .none⟩
    · rintro ⟨t?, ht, hfield⟩
      cases hfield with
      | none => rfl
      | some _ => exact nomatch ht
  | cons entry rest =>
    obtain ⟨t, ts, ht, hts, rfl⟩ := List.forall₂_cons_right_iff.mp hnamed
    cases rest with
    | nil =>
      obtain rfl := List.forall₂_nil_right_iff.mp hts
      constructor
      · intro heq
        exact ⟨some t, rfl, Option.some.inj heq ▸ .some ht⟩
      · rintro ⟨t?, heq, hfield⟩
        cases hfield with
        | none => exact nomatch heq
        | some hv =>
          obtain rfl := List.singleton_inj.mp heq
          exact congrArg some (ht.symm.trans hv)
    | cons entry' rest =>
      obtain ⟨t', ts, -, -, rfl⟩ := List.forall₂_cons_right_iff.mp hts
      constructor
      · exact nofun
      · rintro ⟨t?, heq, -⟩
        cases t? with
        | none => exact nomatch heq
        | some t => exact nomatch heq

end Members

/-- Members are within the limits if those of a name and the others are. -/
theorem within_of_others {name : String} {ms : List (List Symbol × Tree)}
    (hothers : (Tree.object (others name ms)).Within (depth + 1))
    (hvalues : ∀ t ∈ valuesOf name ms, t.Within depth) : (Tree.object ms).Within (depth + 1) := by
  intro m hm
  by_cases hname : name? m.1 = some name
  · refine ⟨hname ▸ Option.some_ne_none _, hvalues m.2 ?_⟩
    exact List.mem_map_of_mem (List.mem_filter.mpr ⟨hm, decide_eq_true hname⟩)
  · exact hothers m (List.mem_filter.mpr ⟨hm, decide_eq_true hname⟩)

/-! ### Fields that may be left out -/

/-- What a field that may be left out or `null` says, from the values of its members. -/
inductive OptionalForm (Form : Tree → α → Prop) : List Tree → Option α → Prop where
  | absent : OptionalForm Form [] none
  | null : OptionalForm Form [.null] none
  | given {t : Tree} {a : α} (h : Form t a) : OptionalForm Form [t] (some a)

theorem optionalForm_and_iff {Form : Tree → α → Prop} {p : α → Prop} {ts : List Tree}
    {o : Option α} :
    OptionalForm (fun t a => Form t a ∧ p a) ts o ↔ OptionalForm Form ts o ∧ ∀ a ∈ o, p a := by
  constructor
  · intro h
    cases h with
    | absent => exact ⟨.absent, nofun⟩
    | null => exact ⟨.null, nofun⟩
    | given h => exact ⟨.given h.1, fun _ ha => Option.some.inj ha ▸ h.2⟩
  · rintro ⟨h, hp⟩
    cases h with
    | absent => exact .absent
    | null => exact .null
    | given h => exact .given ⟨h, hp _ rfl⟩

/-- A field that is left out says what its default says. -/
theorem getD_iff {p : α → Prop} {default : α} (hdefault : p default) {o : Option α} :
    p (o.getD default) ↔ ∀ a ∈ o, p a := by
  cases o with
  | none => exact iff_of_true hdefault nofun
  | some a => exact ⟨fun h _ ha => Option.some.inj ha ▸ h, fun h => h a rfl⟩

theorem outcome_value_eq_null_iff {t : Tree} :
    outcome (value depth) t = some .null ↔ t = .null := by
  rw [outcome_value_iff]
  constructor
  · intro h
    cases h
    rfl
  · rintro rfl
    exact .null depth

/-- A field that may be left out says nothing, or has a value other than `null`. -/
theorem HoldsField.empty_or_given {t? : Option Tree} {field : Option Value}
    (h : HoldsField depth t? field) :
    ((t? = none ∨ t? = some .null) ∧
      ∀ {α : Type} (item : Value → Option α), optionalField? item field = some none) ∨
    ∃ t v, t? = some t ∧ t ≠ .null ∧ outcome (value depth) t = some v ∧
      ∀ {α : Type} (item : Value → Option α), optionalField? item field = (item v).map some := by
  cases h with
  | none => exact .inl ⟨.inl rfl, fun _ => rfl⟩
  | @some t v hv =>
    by_cases ht : t = .null
    · subst ht
      obtain rfl := Option.some.inj ((outcome_value_null depth).symm.trans hv)
      exact .inl ⟨.inr rfl, fun _ => rfl⟩
    · have hv' : v ≠ .null := fun heq => ht (outcome_value_eq_null_iff.mp (heq ▸ hv))
      refine .inr ⟨t, v, rfl, ht, hv, fun item => ?_⟩
      cases v with
      | null => exact absurd rfl hv'
      | _ => rfl

theorem optionalField?_iff {item : Value → Option α} {Form : Tree → α → Prop}
    (hform : ∀ t v a, outcome (value depth) t = some v → (item v = some a ↔ Form t a))
    (hnull : item .null = none) {t? : Option Tree} {field : Option Value}
    (hfield : HoldsField depth t? field) {result : Option α} :
    optionalField? item field = some result ↔ OptionalForm Form t?.toList result := by
  rcases hfield.empty_or_given with ⟨hempty, hitem⟩ | ⟨t, v, rfl, ht, hv, hitem⟩
  · rw [hitem, Option.some.injEq]
    rcases hempty with rfl | rfl
    · constructor
      · rintro rfl
        exact .absent
      · intro hresult
        cases hresult
        rfl
    · constructor
      · rintro rfl
        exact .null
      · intro hresult
        cases hresult with
        | null => rfl
        | given h =>
          have hitem := (hform _ _ _ (outcome_value_null depth)).mpr h
          exact nomatch hnull.symm.trans hitem
  · rw [hitem, Option.map_eq_some_iff]
    constructor
    · rintro ⟨a, ha, rfl⟩
      exact .given ((hform t v a hv).mp ha)
    · intro hresult
      cases hresult with
      | null => exact absurd rfl ht
      | given h => exact ⟨_, (hform t v _ hv).mpr h, rfl⟩

section Fields

variable {ms : List (List Symbol × Tree)} {entries : List (String × Value)}
  (h : HoldsMembers depth ms entries) (name : String) {item : Value → Option α}
  {Form : Tree → α → Prop}
  (hform : ∀ t v a, outcome (value depth) t = some v → (item v = some a ↔ Form t a))
include h

theorem HoldsMembers.exists_field {t? : Option Tree} (ht : valuesOf name ms = t?.toList) :
    ∃ field, HoldsField depth t? field := by
  have hnamed := h.named name
  rw [ht] at hnamed
  cases t? with
  | none => exact ⟨none, .none⟩
  | some t =>
    obtain ⟨v, _, hv, -, -⟩ := List.forall₂_cons_left_iff.mp hnamed
    exact ⟨some v, .some hv⟩

include hform

/-- A field that must be there. -/
theorem HoldsMembers.required_iff {a : α} :
    (∃ v, single? name entries = some (some v) ∧ item v = some a) ↔
      ∃ t, valuesOf name ms = [t] ∧ Form t a := by
  simp only [h.single?_iff]
  constructor
  · rintro ⟨v, ⟨t?, ht, hfield⟩, ha⟩
    cases hfield with
    | some hv => exact ⟨_, ht, (hform _ _ _ hv).mp ha⟩
  · rintro ⟨t, ht, ha⟩
    have ht : valuesOf name ms = (some t).toList := ht
    obtain ⟨field, hfield⟩ := h.exists_field name ht
    cases hfield with
    | some hv => exact ⟨_, ⟨some t, ht, .some hv⟩, (hform _ _ _ hv).mpr ha⟩

/-- A field that may be left out or `null`. -/
theorem HoldsMembers.optional_iff (hnull : item .null = none) {result : Option α} :
    (∃ field, single? name entries = some field ∧ optionalField? item field = some result) ↔
      OptionalForm Form (valuesOf name ms) result := by
  simp only [h.single?_iff]
  constructor
  · rintro ⟨field, ⟨t?, ht, hfield⟩, hresult⟩
    rw [ht]
    exact (optionalField?_iff hform hnull hfield).mp hresult
  · intro hresult
    obtain ⟨t?, ht⟩ : ∃ t? : Option Tree, valuesOf name ms = t?.toList := by
      generalize valuesOf name ms = ts at hresult
      cases hresult with
      | absent => exact ⟨none, rfl⟩
      | null => exact ⟨some .null, rfl⟩
      | given _ => exact ⟨some _, rfl⟩
    obtain ⟨field, hfield⟩ := h.exists_field name ht
    rw [ht] at hresult
    exact ⟨field, ⟨t?, ht, hfield⟩, (optionalField?_iff hform hnull hfield).mpr hresult⟩

end Fields

/-! ### Natural numbers -/

/-- Whether a tree is an integer literal without a minus that stands for a 64-bit number. -/
def IsNatural (t : Tree) (m : UInt64) : Prop :=
  ∃ n : Numeral, t = .number n ∧ n.negative = false ∧ n.integer? = some (m.toNat : Int)

theorem natural?_eq_some_iff {v : Value} {m : UInt64} :
    v.natural? = some m ↔ v = .number (.whole m.toNat) := by
  unfold Value.natural?
  split
  · rename_i k
    have hm := m.toNat_lt
    simp only [Value.number.injEq, Number.whole.injEq]
    split
    · rename_i hk
      have hfits : k.toNat < UInt64.size := by
        rw [UInt64.size]
        omega
      rw [Option.some.injEq, ← UInt64.toNat_inj, UInt64.toNat_ofNat_of_lt' hfits]
      omega
    · exact ⟨nofun, fun heq => by omega⟩
  · rename_i hother
    exact ⟨nofun, fun heq => absurd heq (hother m.toNat)⟩

theorem natural?_iff {t : Tree} {v : Value} (h : outcome (value depth) t = some v) {m : UInt64} :
    v.natural? = some m ↔ IsNatural t m := by
  rw [natural?_eq_some_iff]
  constructor
  · rintro rfl
    cases outcome_value_iff.mp h with
    | number hnumber => exact ⟨_, rfl, Numeral.number?_eq_natural_iff.mp hnumber⟩
  · rintro ⟨n, rfl, hnatural⟩
    rw [outcome_value_number, Numeral.number?_eq_natural_iff.mpr hnatural] at h
    exact (Option.some.inj h).symm

/-! ### Documents -/

/-- Whether every document of a tree is read as a value. -/
def Accepts (r : Nat → Reader α) (t : Tree) (a : α) : Prop :=
  ∀ ⦃source : String⦄, IsDocument t source.toList → readAll r source = .ok a

theorem accepts_iff {r : Nat → Reader α} (h : Settled (r maxDepth)) {t : Tree} {a : α} :
    Accepts r t a ↔ outcome (r maxDepth) t = some a := by
  constructor
  · intro haccepts
    have hsource : IsDocument t (String.ofList t.text).toList := by
      rw [String.toList_ofList]
      exact isDocument_text t
    rw [← toOption_readAll h hsource, haccepts hsource]
    rfl
  · intro houtcome source hsource
    have hread := toOption_readAll h hsource
    rw [houtcome] at hread
    exact Attempt.toOption_eq_some_iff.mp hread

end OvsdbModels.Json
