/-
  OvsdbModels/Proofs/Schema/ColumnForm.lean
  =========================================
  **The written forms of column types.**

  A string or an object is a column type exactly if it has one of the written forms
  (`ColumnType.Written`): the name of an atomic type, or a key type, perhaps a value type, and bounds
  of which the lower one is zero or one.  So the bounds never cross, and a column that is neither a
  map nor a single value is a set because it may be empty or hold more than one.
-/
import OvsdbModels.Proofs.Go.Order
import OvsdbModels.Proofs.Schema.EnumForm

namespace OvsdbModels

open Json

/-! ### Bounds -/

/-- Whether an upper bound allows a number of values. -/
def UpperBound.Allows (n : UInt64) : UpperBound → Prop
  | .bounded m => n ≤ m
  | .unlimited => True

theorem UpperBound.Allows.mono {n n' : UInt64} {bound : UpperBound} (h : bound.Allows n)
    (hle : n' ≤ n) : bound.Allows n' := by
  cases bound with
  | bounded m => exact UInt64.le_trans hle h
  | unlimited => trivial

/-- The written forms of upper bounds. -/
inductive UpperBound.Written : Tree → UpperBound → Prop where
  | bounded {t : Tree} {m : UInt64} (h : IsNatural t m) : Written t (.bounded m)
  | unlimited {s : List Symbol} (h : name? s = some "unlimited") : Written (.string s) .unlimited

theorem UpperBound.ofValue_eq_ok_iff {v : Value} {bound : UpperBound} :
    ofValue v = .ok bound ↔
      (∃ m, v.natural? = some m ∧ bound = .bounded m) ∨
        v = .string "unlimited" ∧ bound = .unlimited := by
  unfold ofValue
  split
  · rename_i m hm
    constructor
    · intro h
      exact .inl ⟨m, hm, (Except.ok.inj h).symm⟩
    · rintro (⟨m', hm', rfl⟩ | ⟨rfl, -⟩)
      · rw [Option.some.inj (hm.symm.trans hm')]
      · exact nomatch hm
  · rename_i hnone
    split
    · rename_i text
      split
      · rename_i htext
        subst htext
        simp [hnone, eq_comm]
      · rename_i htext
        simp [hnone, htext]
    · rename_i hother
      refine ⟨nofun, ?_⟩
      rintro (⟨m, hm, -⟩ | ⟨rfl, -⟩)
      · exact nomatch hnone.symm.trans hm
      · exact absurd rfl (hother _)

theorem UpperBound.ofValue_iff {depth : Nat} {t : Tree} {v : Value}
    (h : outcome (value depth) t = some v) (bound : UpperBound) :
    (ofValue v).toOption = some bound ↔ Written t bound := by
  rw [Attempt.toOption_eq_some_iff, ofValue_eq_ok_iff]
  constructor
  · rintro (⟨m, hm, rfl⟩ | ⟨rfl, rfl⟩)
    · exact .bounded ((natural?_iff h).mp hm)
    · cases outcome_value_iff.mp h with
      | string htext => exact .unlimited htext
  · intro hwritten
    cases hwritten with
    | bounded hm => exact .inl ⟨_, (natural?_iff h).mpr hm, rfl⟩
    | unlimited htext =>
      rw [outcome_value_string, htext] at h
      exact .inr ⟨(Option.some.inj h).symm, rfl⟩

namespace ColumnType

/-- What holds of the bounds of a column: at most one value is required, at least one is allowed,
and no more are required than are allowed. -/
structure InBounds (type : ColumnType) : Prop where
  min_le_one : type.min ≤ 1
  allows_one : type.max.Allows 1
  allows_min : type.max.Allows type.min

theorem boundsRefusal?_eq_none_iff (type : ColumnType) :
    type.boundsRefusal? = none ↔ type.min ≤ 1 ∧ type.max.Allows 1 := by
  unfold boundsRefusal?
  cases type.max with
  | bounded max =>
    simp only [UpperBound.Allows]
    split_ifs with hzero hcross habove
    · simp only [false_iff, hzero]
      rintro ⟨-, hone⟩
      exact absurd hone (by decide)
    · simp only [false_iff]
      rintro ⟨hmin, hone⟩
      exact absurd hcross (UInt64.not_lt.mpr (UInt64.le_trans hmin hone))
    · simp only [false_iff]
      rintro ⟨hmin, -⟩
      exact absurd habove (UInt64.not_lt.mpr hmin)
    · refine iff_of_true rfl ⟨UInt64.not_lt.mp habove, ?_⟩
      rw [← UInt64.toNat_inj, UInt64.toNat_zero] at hzero
      rw [UInt64.le_iff_toNat_le, UInt64.toNat_one]
      omega
  | unlimited =>
    simp only [UpperBound.Allows, and_true]
    split_ifs with habove
    · simp only [false_iff]
      exact fun hmin => absurd habove (UInt64.not_lt.mpr hmin)
    · exact iff_of_true rfl (UInt64.not_lt.mp habove)

/-! ### Forms -/

theorem getD_le_one_iff {min : Option UInt64} : min.getD 1 ≤ 1 ↔ ∀ m ∈ min, m ≤ 1 :=
  getD_iff (p := (· ≤ 1)) (UInt64.le_refl 1)

theorem getD_allows_one_iff {max : Option UpperBound} :
    (max.getD (.bounded 1)).Allows 1 ↔ ∀ bound ∈ max, bound.Allows 1 := by
  have hone : (UpperBound.bounded 1).Allows 1 := UInt64.le_refl 1
  exact getD_iff (p := UpperBound.Allows 1) hone

/-- The written forms of column types: a name, or a record of a key type, perhaps a value type, and
bounds, of which the lower one is at most one and the upper one at least one. -/
inductive Written : Tree → ColumnType → Prop where
  | name {s : List Symbol} {name : String} (h : name? s = some name) :
      Written (.string s) (.scalar (.plain (.ofName name)))
  | record {ms : List (List Symbol × Tree)} {t : Tree} {key : BaseType} {value : Option BaseType}
      {min : Option UInt64} {max : Option UpperBound} (hkey : valuesOf "key" ms = [t])
      (hbase : Accepts BaseType.reader t key)
      (hvalue : OptionalForm (Accepts BaseType.reader) (valuesOf "value" ms) value)
      (hmin : OptionalForm (fun t m => IsNatural t m ∧ m ≤ 1) (valuesOf "min" ms) min)
      (hmax : OptionalForm (fun t bound => UpperBound.Written t bound ∧ bound.Allows 1)
        (valuesOf "max" ms) max) :
      Written (.object ms) { key, value, min := min.getD 1, max := max.getD (.bounded 1) }

theorem ofValue_object_eq_ok_iff {entries : List (String × Value)} {type : ColumnType} :
    ofValue (.object entries) = .ok type ↔
      ((Value.object entries).fields? fieldNames).bind ofFields? = some type ∧
        type.boundsRefusal? = none := by
  dsimp only [ofValue]
  cases ((Value.object entries).fields? fieldNames).bind ofFields? with
  | none => exact ⟨nofun, fun h => nomatch h.1⟩
  | some type' =>
    dsimp only
    cases hrefusal : type'.boundsRefusal? with
    | some refusal =>
      refine ⟨nofun, ?_⟩
      rintro ⟨h, hnone⟩
      obtain rfl := Option.some.inj h
      exact nomatch hrefusal.symm.trans hnone
    | none =>
      constructor
      · intro h
        obtain rfl := Except.ok.inj h
        exact ⟨rfl, hrefusal⟩
      · rintro ⟨h, -⟩
        exact congrArg Except.ok (Option.some.inj h)

/-- The record of a column type, field by field. -/
theorem bind_ofFields?_iff {entries : List (String × Value)} {type : ColumnType} :
    ((Value.object entries).fields? fieldNames).bind ofFields? = some type ↔
      ∃ key value min max,
        (∃ v, single? "key" entries = some (some v) ∧ (BaseType.ofValue v).toOption = some key) ∧
        (∃ field, single? "value" entries = some field ∧
          optionalField? (fun v => (BaseType.ofValue v).toOption) field = some value) ∧
        (∃ field, single? "min" entries = some field ∧
          optionalField? Value.natural? field = some min) ∧
        (∃ field, single? "max" entries = some field ∧
          optionalField? (fun v => (UpperBound.ofValue v).toOption) field = some max) ∧
        type = { key, value, min := min.getD 1, max := max.getD (.bounded 1) } := by
  simp only [Value.fields?, fieldNames, List.mapM_cons, List.mapM_nil, Option.bind_eq_bind,
    Option.bind_eq_some_iff, Option.pure_def, Option.some.injEq]
  constructor
  · rintro ⟨_, ⟨key, hkey, _, ⟨value, hvalue, _, ⟨min, hmin, _, ⟨max, hmax, _, rfl, rfl⟩, rfl⟩,
      rfl⟩, rfl⟩, hof⟩
    simp only [ofFields?, Option.bind_eq_bind, Option.bind_eq_some_iff, Option.pure_def,
      Option.some.injEq] at hof
    obtain ⟨keyType, ⟨v, rfl, hkeyType⟩, valueType, hvalueType, minValue, hminValue, maxValue,
      hmaxValue, rfl⟩ := hof
    exact ⟨keyType, valueType, minValue, maxValue, ⟨v, hkey, hkeyType⟩,
      ⟨value, hvalue, hvalueType⟩, ⟨min, hmin, hminValue⟩, ⟨max, hmax, hmaxValue⟩, rfl⟩
  · rintro ⟨keyType, valueType, minValue, maxValue, ⟨v, hkey, hkeyType⟩,
      ⟨value, hvalue, hvalueType⟩, ⟨min, hmin, hminValue⟩, ⟨max, hmax, hmaxValue⟩, rfl⟩
    refine ⟨_, ⟨some v, hkey, _, ⟨value, hvalue, _, ⟨min, hmin, _, ⟨max, hmax, _, rfl, rfl⟩,
      rfl⟩, rfl⟩, rfl⟩, ?_⟩
    simp only [ofFields?, hkeyType, hvalueType, hminValue, hmaxValue, Option.bind_eq_bind,
      Option.bind_some, Option.pure_def]

/-- An object that is read is a column type exactly if it is the record of one. -/
theorem ofValue_object_iff_written {depth : Nat} (hdepth : depth ≤ maxDepth)
    {ms : List (List Symbol × Tree)} {entries : List (String × Value)}
    (h : HoldsMembers depth ms entries) {type : ColumnType} :
    ofValue (.object entries) = .ok type ↔ Written (.object ms) type := by
  have hbase : ∀ t v base, outcome (Json.value depth) t = some v →
      ((BaseType.ofValue v).toOption = some base ↔ Accepts BaseType.reader t base) := by
    intro t v base hv
    rw [Attempt.toOption_eq_some_iff]
    exact (accepts_converted_iff_of_outcome hdepth hv).symm
  have hbound : ∀ t v bound, outcome (Json.value depth) t = some v →
      ((UpperBound.ofValue v).toOption = some bound ↔ UpperBound.Written t bound) :=
    fun t v bound hv => UpperBound.ofValue_iff hv bound
  have hnatural : ∀ t v m, outcome (Json.value depth) t = some v →
      (v.natural? = some m ↔ IsNatural t m) := fun t v m hv => natural?_iff hv
  simp only [ofValue_object_eq_ok_iff, bind_ofFields?_iff, h.required_iff "key" hbase,
    h.optional_iff "value" hbase rfl, h.optional_iff "min" hnatural rfl,
    h.optional_iff "max" hbound rfl, boundsRefusal?_eq_none_iff]
  constructor
  · rintro ⟨⟨key, value, min, max, ⟨t, hkey, hkeyType⟩, hvalue, hmin, hmax, rfl⟩, hle, hallows⟩
    exact .record hkey hkeyType hvalue (optionalForm_and_iff.mpr ⟨hmin, getD_le_one_iff.mp hle⟩)
      (optionalForm_and_iff.mpr ⟨hmax, getD_allows_one_iff.mp hallows⟩)
  · intro hwritten
    cases hwritten with
    | @record _ t key value min max hkey hkeyType hvalue hmin hmax =>
      obtain ⟨hmin, hle⟩ := optionalForm_and_iff.mp hmin
      obtain ⟨hmax, hallows⟩ := optionalForm_and_iff.mp hmax
      exact ⟨⟨key, value, min, max, ⟨t, hkey, hkeyType⟩, hvalue, hmin, hmax, rfl⟩,
        getD_le_one_iff.mpr hle, getD_allows_one_iff.mpr hallows⟩

/-- Whether a tree is a string or an object. -/
def IsNameOrRecord : Tree → Prop
  | .string _ => True
  | .object _ => True
  | _ => False

theorem accepts_reader_iff {t : Tree} (ht : IsNameOrRecord t) {type : ColumnType} :
    Accepts reader t type ↔ t.Within maxDepth ∧ Written t type := by
  rw [reader, accepts_converted_iff]
  cases t with
  | string s =>
    simp only [outcome_value_string, Option.map_eq_some_iff]
    constructor
    · rintro ⟨_, ⟨name, hname, rfl⟩, htype⟩
      obtain rfl := Except.ok.inj htype
      exact ⟨fun hnone => absurd (hnone.symm.trans hname) nofun, .name hname⟩
    · rintro ⟨-, hwritten⟩
      cases hwritten with
      | name hname => exact ⟨_, ⟨_, hname, rfl⟩, rfl⟩
  | object ms =>
    constructor
    · rintro ⟨v, hv, htype⟩
      refine ⟨exists_outcome_value_iff.mp ⟨v, hv⟩, ?_⟩
      obtain ⟨entries, hentries, rfl⟩ := outcome_value_object_iff.mp hv
      exact (ofValue_object_iff_written (by decide) hentries).mp htype
    · rintro ⟨hwithin, hwritten⟩
      obtain ⟨v, hv⟩ := exists_outcome_value_iff.mpr hwithin
      refine ⟨v, hv, ?_⟩
      obtain ⟨entries, hentries, rfl⟩ := outcome_value_object_iff.mp hv
      exact (ofValue_object_iff_written (by decide) hentries).mpr hwritten
  | _ => exact ht.elim

theorem within_of_accepts {t : Tree} (ht : IsNameOrRecord t) {type : ColumnType}
    (h : Accepts reader t type) : t.Within maxDepth :=
  ((accepts_reader_iff ht).mp h).1

theorem Written.inBounds {t : Tree} {type : ColumnType} (h : Written t type) : type.InBounds := by
  cases h with
  | name => exact ⟨UInt64.le_refl 1, UInt64.le_refl 1, UInt64.le_refl 1⟩
  | record _ _ _ hmin hmax =>
    have hle := getD_le_one_iff.mpr (optionalForm_and_iff.mp hmin).2
    have hallows := getD_allows_one_iff.mpr (optionalForm_and_iff.mp hmax).2
    exact ⟨hle, hallows, hallows.mono hle⟩

/-- The kind of a column by the rules of the schema language: a column that may be empty, or hold
another number of values than one, is a set. -/
def ruledKind (type : ColumnType) : ColumnKind :=
  if type.value.isSome then .map
  else if type.max ≠ .bounded 1 ∨ type.min = 0 then .set
  else if type.key.allowed.isSome then .enum
  else .atomic

/-- A lower bound within bounds that is not one is zero. -/
theorem InBounds.kind_eq {type : ColumnType} (h : type.InBounds) : type.kind = type.ruledKind := by
  have hmin : type.min = 1 ↔ ¬ type.min = 0 := by
    have hle := h.min_le_one
    rw [UInt64.le_iff_toNat_le, UInt64.toNat_one] at hle
    rw [← UInt64.toNat_inj, ← UInt64.toNat_inj, UInt64.toNat_one, UInt64.toNat_zero]
    omega
  have hsingle : (!type.isSingle) = true ↔ type.max ≠ .bounded 1 ∨ type.min = 0 := by
    simp only [isSingle, Bool.not_and, Bool.or_eq_true, Bool.not_eq_true', decide_eq_false_iff_not,
      hmin, not_not, or_comm, ne_eq]
  simp only [kind, ruledKind, hsingle, BaseType.isEnum]
  congr

/-- A type name, an object with that name as its key type, and an object with the object of that
name as its key type are read as the same. -/
theorem accepts_reader_name_iff {s key inner : List Symbol} (hkey : name? key = some "key")
    (hinner : name? inner = some "type") {type : ColumnType} :
    (Accepts reader (.object [(key, .string s)]) type ↔ Accepts reader (.string s) type) ∧
      (Accepts reader (.object [(key, .object [(inner, .string s)])]) type ↔
        Accepts reader (.string s) type) := by
  cases hs : name? s with
  | none =>
    have hstring : ¬ Accepts reader (.string s) type := fun h =>
      within_of_accepts (t := .string s) trivial h hs
    have hobject : ¬ Accepts reader (.object [(key, .string s)]) type := fun h =>
      (within_of_accepts (t := .object _) trivial h _ List.mem_cons_self).2 hs
    have hrecord : ¬ Accepts reader (.object [(key, .object [(inner, .string s)])]) type := fun h =>
      ((within_of_accepts (t := .object _) trivial h _ List.mem_cons_self).2 _
        List.mem_cons_self).2 hs
    exact ⟨iff_of_false hobject hstring, iff_of_false hrecord hstring⟩
  | some text =>
    have hstring (depth : Nat) : outcome (Json.value depth) (.string s) = some (.string text) :=
      outcome_value_iff.mpr (.string hs)
    have hobject {k : List Symbol} {label : String} (hk : name? k = some label) {depth : Nat}
        {t : Tree} {v : Value} (ht : outcome (Json.value depth) t = some v) :
        outcome (Json.value (depth + 1)) (.object [(k, t)]) = some (.object [(label, v)]) :=
      outcome_value_object_iff.mpr ⟨_, .cons (memberEntry_eq_some_iff.mpr ⟨hk, ht⟩) .nil, rfl⟩
    have hrecord := hobject hkey (hobject hinner (hstring 125))
    constructor
    · rw [reader, accepts_converted_iff_of_outcome (Nat.le_refl _) (hobject hkey (hstring 126)),
        accepts_converted_iff_of_outcome (Nat.le_refl _) (hstring maxDepth)]
      rfl
    · rw [reader, accepts_converted_iff_of_outcome (Nat.le_refl _) hrecord,
        accepts_converted_iff_of_outcome (Nat.le_refl _) (hstring maxDepth)]
      rfl

/-- What is accepted as a column type, what holds of it then, and which forms are read as the same. -/
theorem forms_accepted {t : Tree} (ht : IsNameOrRecord t) :
    (∀ type, Accepts reader t type ↔ t.Within maxDepth ∧ Written t type) ∧
      (∀ type, Accepts reader t type → type.InBounds ∧ type.kind = type.ruledKind) ∧
      ∀ s key inner : List Symbol, t = .string s → name? key = some "key" →
        name? inner = some "type" → ∀ type,
          (Accepts reader (.object [(key, t)]) type ↔ Accepts reader t type) ∧
          (Accepts reader (.object [(key, .object [(inner, t)])]) type ↔ Accepts reader t type) := by
  refine ⟨fun type => accepts_reader_iff ht, fun type htype => ?_, ?_⟩
  · have hbounds := ((accepts_reader_iff ht).mp htype).2.inBounds
    exact ⟨hbounds, hbounds.kind_eq⟩
  · rintro s key inner rfl hkey hinner type
    exact accepts_reader_name_iff hkey hinner

/-- Any number of integers. -/
def integersTree : Tree :=
  Go.objectOf [("key", .string (Go.literally "integer")), ("min", .number (zeroLiteral false)),
    ("max", .string (Go.literally "unlimited"))]

theorem forms_of_integers : IsNameOrRecord integersTree ∧
    Accepts reader integersTree (.set (.plain .integer)) ∧
    (ColumnType.set (.plain .integer)).kind = .set := by
  obtain ⟨hforms, hbounds, -⟩ := forms_accepted (t := integersTree) trivial
  have hname : name? (Go.literally "integer") = some "integer" := by decide +kernel
  have hbase : Accepts BaseType.reader (.string (Go.literally "integer")) (.plain .integer) :=
    accepts_converted_iff.mpr ⟨_, outcome_value_iff.mpr (.string hname), rfl⟩
  have hwritten : Written integersTree (.set (.plain .integer)) :=
    @Written.record _ _ _ none (some 0) (some .unlimited) rfl hbase .absent
      (.given ⟨⟨zeroLiteral false, rfl, rfl, by decide⟩, by decide⟩)
      (.given ⟨.unlimited (by decide +kernel), trivial⟩)
  have hwithin : integersTree.Within maxDepth := by
    have hnames : ∀ label ∈ ["key", "min", "max", "integer", "unlimited"],
        name? (Go.literally label) ≠ none := by decide +kernel
    have hzero : (zeroLiteral false).number? ≠ none := by decide +kernel
    refine List.forall_mem_cons.mpr ⟨⟨hnames _ (by decide), hnames _ (by decide)⟩, ?_⟩
    refine List.forall_mem_cons.mpr ⟨⟨hnames _ (by decide), hzero⟩, ?_⟩
    exact List.forall_mem_singleton.mpr ⟨hnames _ (by decide), hnames _ (by decide)⟩
  have haccepts := (hforms _).mpr ⟨hwithin, hwritten⟩
  exact ⟨trivial, haccepts, (hbounds _ haccepts).2⟩

end ColumnType

end OvsdbModels
