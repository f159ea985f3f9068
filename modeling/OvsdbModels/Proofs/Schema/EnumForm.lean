/-
  OvsdbModels/Proofs/Schema/EnumForm.lean
  =======================================
  **The written forms of enumerations.**

  The literals of a base type are one scalar, or an array of the word `set` and an array of scalars
  (`EnumForm`).  Each makes one literal (`LiteralForm`), and the literals are all of their type
  exactly if each scalar fits it (`Fits`): an integer has to be written as one, so a number that is
  too large, or has a point or an exponent, never becomes an integer.
-/
import OvsdbModels.Proofs.Go.Order
import OvsdbModels.Proofs.Schema.Finite
import OvsdbModels.Schema.Validation

namespace OvsdbModels

open Json

variable {depth : Nat}

/-! ### Literals -/

/-- Whether a tree is a boolean, a number or a string that can be represented. -/
inductive IsScalar : Tree → Prop where
  | boolean (b : Bool) : IsScalar (.boolean b)
  | number {n : Numeral} (h : n.number? ≠ none) : IsScalar (.number n)
  | string {s : List Symbol} (h : name? s ≠ none) : IsScalar (.string s)

/-- What a scalar says as a literal of a type.  All numbers of an enumeration of reals are reals;
otherwise a number is an integer if it is written as one and fits. -/
inductive LiteralForm (type : AtomicType) : Tree → Atom → Prop where
  | boolean (b : Bool) : LiteralForm type (.boolean b) (.boolean b)
  | string {s : List Symbol} {text : String} (h : name? s = some text) :
      LiteralForm type (.string s) (.string text)
  | widened {n : Numeral} {number : Number} (htype : type = .real) (h : n.number? = some number) :
      LiteralForm type (.number n) (.real number.toFloat)
  | integer {n : Numeral} {i : Int64} (htype : type ≠ .real) (h : n.IsInt64 i) :
      LiteralForm type (.number n) (.integer i)
  | real {n : Numeral} {number : Number} (htype : type ≠ .real) (h : n.number? = some number)
      (hother : ∀ i, ¬ n.IsInt64 i) : LiteralForm type (.number n) (.real number.toFloat)

theorem integer?_eq_some_iff {number : Number} {i : Int64} :
    (Value.number number).integer? = some i ↔ number = .whole i.toInt := by
  have hlow := i.le_toInt
  have hhigh := i.toInt_lt
  unfold Value.integer?
  split
  · rename_i k heq
    obtain rfl := Value.number.inj heq
    rw [Number.whole.injEq]
    split
    · rename_i hk
      rw [Option.some.injEq, ← Int64.toInt_inj, Int64.toInt_ofInt_of_le (by omega) (by omega)]
    · exact ⟨nofun, fun heq => by omega⟩
  · rename_i hother
    exact ⟨nofun, fun heq => absurd (congrArg Value.number heq) (hother _)⟩

/-- How a number is read as a literal. -/
theorem ofValue?_number_iff {n : Numeral} {number : Number} (hn : n.number? = some number)
    {type : AtomicType} {atom : Atom} :
    Atom.ofValue? type (.number number) = some atom ↔ LiteralForm type (.number n) atom := by
  have hint64 : ∀ i, (Value.number number).integer? = some i ↔ n.IsInt64 i := by
    intro i
    rw [integer?_eq_some_iff, ← Numeral.number?_eq_int64_iff, hn, Option.some.injEq]
  constructor
  · intro hatom
    simp only [Atom.ofValue?] at hatom
    split at hatom
    · rename_i htype
      exact Option.some.inj hatom ▸ .widened htype hn
    · rename_i htype
      split at hatom
      · rename_i i hi
        exact Option.some.inj hatom ▸ .integer htype ((hint64 i).mp hi)
      · rename_i hnone
        have hother : ∀ i, ¬ n.IsInt64 i :=
          fun i hi => nomatch hnone.symm.trans ((hint64 i).mpr hi)
        exact Option.some.inj hatom ▸ .real htype hn hother
  · intro hform
    cases hform with
    | widened htype hn' =>
      obtain rfl := Option.some.inj (hn.symm.trans hn')
      simp [Atom.ofValue?, htype]
    | integer htype hi => simp [Atom.ofValue?, htype, (hint64 _).mpr hi]
    | real htype hn' hother =>
      obtain rfl := Option.some.inj (hn.symm.trans hn')
      have hnone : (Value.number number).integer? = none :=
        Option.eq_none_iff_forall_ne_some.mpr fun i hi => hother i ((hint64 i).mp hi)
      simp [Atom.ofValue?, htype, hnone]

theorem ofValue?_iff {t : Tree} {v : Value} (h : outcome (value depth) t = some v)
    {type : AtomicType} {atom : Atom} :
    Atom.ofValue? type v = some atom ↔ LiteralForm type t atom := by
  cases outcome_value_iff.mp h with
  | null => exact ⟨nofun, nofun⟩
  | boolean _ b =>
    constructor
    · intro hatom
      exact Option.some.inj hatom ▸ .boolean b
    · intro hform
      cases hform
      rfl
  | number hn => exact ofValue?_number_iff hn
  | string hs =>
    constructor
    · intro hatom
      exact Option.some.inj hatom ▸ .string hs
    · intro hform
      cases hform with
      | string hs' => rw [Option.some.inj (hs.symm.trans hs')]; rfl
  | array _ => exact ⟨nofun, nofun⟩
  | object _ => exact ⟨nofun, nofun⟩

theorem LiteralForm.isScalar {type : AtomicType} {t : Tree} {atom : Atom}
    (h : LiteralForm type t atom) : IsScalar t := by
  cases h with
  | boolean b => exact .boolean b
  | string h => exact .string (h ▸ Option.some_ne_none _)
  | widened _ h => exact .number (h ▸ Option.some_ne_none _)
  | integer _ h =>
    rw [← Numeral.number?_eq_int64_iff] at h
    exact .number (h ▸ Option.some_ne_none _)
  | real _ h _ => exact .number (h ▸ Option.some_ne_none _)

theorem IsScalar.exists_literalForm {t : Tree} (h : IsScalar t) (type : AtomicType) :
    ∃ atom, LiteralForm type t atom := by
  cases h with
  | boolean b => exact ⟨_, .boolean b⟩
  | string h =>
    obtain ⟨text, htext⟩ := Option.ne_none_iff_exists'.mp h
    exact ⟨_, .string htext⟩
  | @number n h =>
    obtain ⟨number, hnumber⟩ := Option.ne_none_iff_exists'.mp h
    by_cases htype : type = .real
    · exact ⟨_, .widened htype hnumber⟩
    · by_cases hint : ∃ i, n.IsInt64 i
      · obtain ⟨i, hi⟩ := hint
        exact ⟨_, .integer htype hi⟩
      · exact ⟨_, .real htype hnumber (not_exists.mp hint)⟩

/-! ### Lists of literals -/

/-- The written forms of enumerations, with the scalars that they list; without a value, or with
`null`, there is no enumeration. -/
inductive EnumForm : Option Tree → Option (List Tree) → Prop where
  | missing : EnumForm none none
  | null : EnumForm (some .null) none
  | single {t : Tree} (h : IsScalar t) : EnumForm (some t) (some [t])
  | set {tag : List Symbol} {items : List Tree} (htag : name? tag = some "set")
      (h : ∀ t ∈ items, IsScalar t) :
      EnumForm (some (.array [.string tag, .array items])) (some items)

theorem EnumForm.eq_none_iff {enum : Option Tree} (hempty : enum = none ∨ enum = some .null)
    {elements : Option (List Tree)} : EnumForm enum elements ↔ elements = none := by
  rcases hempty with rfl | rfl
  · constructor
    · intro hform
      cases hform
      rfl
    · rintro rfl
      exact .missing
  · constructor
    · intro hform
      cases hform with
      | null => rfl
      | single hscalar => exact nomatch hscalar
    · rintro rfl
      exact .null

theorem IsScalar.within {t : Tree} (h : IsScalar t) (depth : Nat) : t.Within depth := by
  cases h with
  | boolean b => simp only [Tree.Within]
  | number h => simpa only [Tree.Within] using h
  | string h => simpa only [Tree.Within] using h

/-- The form of an enumeration nests two containers at most. -/
theorem EnumForm.within {enum : Option Tree} {elements : Option (List Tree)}
    (h : EnumForm enum elements) : ∀ t ∈ enum, t.Within (depth + 2) := by
  rintro t rfl
  cases h with
  | null => trivial
  | single h => exact h.within _
  | set htag h =>
    have hword : IsScalar (.string _) := .string (htag ▸ Option.some_ne_none _)
    refine List.forall_mem_cons.mpr ⟨hword.within _, List.forall_mem_singleton.mpr fun t ht => ?_⟩
    exact (h t ht).within _

/-- Whether a scalar is a value of a type. -/
def Fits : AtomicType → Tree → Prop
  | .integer, .number n => ∃ i, n.IsInt64 i
  | .real, .number _ => True
  | .boolean, .boolean _ => True
  | .string, .string _ => True
  | _, _ => False

theorem LiteralForm.isOfType_iff {type : AtomicType} {t : Tree} {atom : Atom}
    (h : LiteralForm type t atom) : atom.isOfType type = true ↔ Fits type t := by
  cases h with
  | boolean b => cases type <;> simp [Atom.isOfType_eq_true_iff, Fits]
  | string h => cases type <;> simp [Atom.isOfType_eq_true_iff, Fits]
  | widened htype h => simp [htype, Atom.isOfType_eq_true_iff, Fits]
  | integer htype h =>
    cases type with
    | integer => simpa [Atom.isOfType_eq_true_iff, Fits] using ⟨_, h⟩
    | real => exact absurd rfl htype
    | _ => simp [Atom.isOfType_eq_true_iff, Fits]
  | real htype h hother =>
    cases type with
    | integer => simpa [Atom.isOfType_eq_true_iff, Fits] using hother
    | real => exact absurd rfl htype
    | _ => simp [Atom.isOfType_eq_true_iff, Fits]

theorem enumItems?_eq_some_iff {v : Value} {items : List Value} :
    enumItems? v = some items ↔
      v = .array [.string "set", .array items] ∨ (∀ vs, v ≠ .array vs) ∧ items = [v] := by
  unfold enumItems?
  split
  · rename_i tag items'
    split
    · rename_i htag
      simp [htag, eq_comm]
    · rename_i htag
      simp [htag]
  · rename_i vs hother
    simp only [reduceCtorEq, Value.array.injEq, false_iff]
    rintro (rfl | ⟨hscalar, -⟩)
    · exact hother _ _ rfl
    · exact hscalar vs rfl
  · rename_i hpair harray
    constructor
    · intro heq
      exact .inr ⟨harray, (Option.some.inj heq).symm⟩
    · rintro (rfl | ⟨-, rfl⟩)
      · exact absurd rfl (harray _)
      · rfl

theorem allowedOfValue_eq_ok_iff {type : AtomicType} {v : Value} {values : List Atom} :
    allowedOfValue type v = .ok values ↔ ∃ items, enumItems? v = some items ∧
      List.Forall₂ (fun item atom => Atom.ofValue? type item = some atom) items values := by
  unfold allowedOfValue
  split
  · rename_i hnone
    simp [hnone]
  · rename_i items hitems
    rw [Attempt.mapM_eq_ok_iff]
    constructor
    · intro h
      refine ⟨items, hitems, h.imp fun item atom hread => ?_⟩
      split at hread
      · rename_i atom' hatom
        rw [hatom, Except.ok.inj hread]
      · exact nomatch hread
    · rintro ⟨items', hitems', h⟩
      obtain rfl := Option.some.inj (hitems.symm.trans hitems')
      refine h.imp fun item atom hatom => ?_
      rw [hatom]

theorem forall₂_literalForm_iff {elements : List Tree} {items : List Value}
    (h : HoldsItems depth elements items) {type : AtomicType} {values : List Atom} :
    List.Forall₂ (fun item atom => Atom.ofValue? type item = some atom) items values ↔
      List.Forall₂ (LiteralForm type) elements values := by
  induction h generalizing values with
  | nil => simp only [List.forall₂_nil_left_iff]
  | cons ht _ ih => simp only [List.forall₂_cons_left_iff, ofValue?_iff ht, ih]

section Elements

variable {t : Tree} {v : Value} (h : outcome (value depth) t = some v)
include h

theorem exists_elements {items : List Value} (hitems : enumItems? v = some items) :
    ∃ elements depth', HoldsItems depth' elements items ∧
      ((∀ t ∈ elements, IsScalar t) → EnumForm (some t) (some elements)) := by
  rcases enumItems?_eq_some_iff.mp hitems with rfl | ⟨-, rfl⟩
  · cases outcome_value_iff.mp h with
    | array hpair =>
      obtain ⟨_, _, hword, hrest, rfl⟩ := List.forall₂_cons_right_iff.mp hpair
      obtain ⟨_, _, hset, hnil, rfl⟩ := List.forall₂_cons_right_iff.mp hrest
      obtain rfl := List.forall₂_nil_right_iff.mp hnil
      cases outcome_value_iff.mp hword with
      | string htag =>
        cases outcome_value_iff.mp hset with
        | array helements => exact ⟨_, _, helements, .set htag⟩
  · refine ⟨[t], depth, .cons h .nil, fun hscalar => .single (hscalar t List.mem_cons_self)⟩

theorem exists_enumItems? {elements : List Tree} (hform : EnumForm (some t) (some elements)) :
    ∃ items depth', HoldsItems depth' elements items ∧ enumItems? v = some items := by
  cases hform with
  | single hscalar =>
    refine ⟨[v], depth, .cons h .nil, enumItems?_eq_some_iff.mpr (.inr ⟨?_, rfl⟩)⟩
    rintro vs rfl
    cases outcome_value_iff.mp h
    exact nomatch hscalar
  | set htag hscalars =>
    cases outcome_value_iff.mp h with
    | array hpair =>
      obtain ⟨_, _, hword, hrest, rfl⟩ := List.forall₂_cons_left_iff.mp hpair
      obtain ⟨_, _, hset, hnil, rfl⟩ := List.forall₂_cons_left_iff.mp hrest
      obtain rfl := List.forall₂_nil_left_iff.mp hnil
      cases outcome_value_iff.mp hword with
      | string htext =>
        obtain rfl := Option.some.inj (htag.symm.trans htext)
        cases outcome_value_iff.mp hset with
        | array helements =>
          exact ⟨_, _, helements, enumItems?_eq_some_iff.mpr (.inl rfl)⟩

/-- A value that is read lists literals exactly if it has the form of an enumeration. -/
theorem allowedOfValue_iff {type : AtomicType} {values : List Atom} :
    allowedOfValue type v = .ok values ↔ ∃ elements, EnumForm (some t) (some elements) ∧
      List.Forall₂ (LiteralForm type) elements values := by
  rw [allowedOfValue_eq_ok_iff]
  constructor
  · rintro ⟨items, hitems, hvalues⟩
    obtain ⟨elements, depth', helements, hform⟩ := exists_elements h hitems
    have hliterals := (forall₂_literalForm_iff helements).mp hvalues
    refine ⟨elements, hform fun t ht => ?_, hliterals⟩
    obtain ⟨_, -, hliteral⟩ := Attempt.exists_of_forall₂_left hliterals ht
    exact hliteral.isScalar
  · rintro ⟨elements, hform, hvalues⟩
    obtain ⟨items, depth', helements, hitems⟩ := exists_enumItems? h hform
    exact ⟨items, hitems, (forall₂_literalForm_iff helements).mpr hvalues⟩

end Elements

/-- What a field that may be left out says as an enumeration. -/
theorem optional_allowedOfValue_iff {enum : Option Tree} {field : Option Value}
    (h : HoldsField depth enum field) {type : AtomicType} {values : Option (List Atom)} :
    (∃ allowed, optionalField? some field = some allowed ∧
      Option.Rel (fun v values => allowedOfValue type v = .ok values) allowed values) ↔
        ∃ elements, EnumForm enum elements ∧
          Option.Rel (List.Forall₂ (LiteralForm type)) elements values := by
  rcases h.empty_or_given with ⟨hempty, hgiven⟩ | ⟨t, v, rfl, hnull, hv, hgiven⟩
  · simp only [hgiven, Option.some.injEq, exists_eq_left', EnumForm.eq_none_iff hempty,
      exists_eq_left]
    constructor
    · intro hvalues
      cases hvalues
      exact .none
    · intro hvalues
      cases hvalues
      exact .none
  · simp only [hgiven, Option.map_some, Option.some.injEq, exists_eq_left']
    constructor
    · intro hvalues
      cases hvalues with
      | some hvalues =>
        obtain ⟨elements, hform, hliterals⟩ := (allowedOfValue_iff hv).mp hvalues
        exact ⟨some elements, hform, .some hliterals⟩
    · rintro ⟨elements, hform, hvalues⟩
      cases hvalues with
      | some hliterals => exact .some ((allowedOfValue_iff hv).mpr ⟨_, hform, hliterals⟩)
      | none =>
        cases hform
        exact absurd rfl hnull

/-! ### Base types -/

theorem single?_filter_ne {name other : String} (hne : name ≠ other)
    (entries : List (String × Value)) :
    single? name (entries.filter (·.1 ≠ other)) = single? name entries := by
  have hfilter : (entries.filter (·.1 ≠ other)).filter (·.1 = name) =
      entries.filter (·.1 = name) := by
    rw [List.filter_filter]
    refine List.filter_congr fun entry _ => ?_
    by_cases hname : entry.1 = name
    · simp [hname, hne]
    · simp [hname]
  rw [single?, single?, hfilter]

theorem single?_filter_ne_self (name : String) (entries : List (String × Value)) :
    single? name (entries.filter (·.1 ≠ name)) = some none := by
  have hfilter : (entries.filter (·.1 ≠ name)).filter (·.1 = name) = [] := by
    rw [List.filter_filter]
    simp
  rw [single?, hfilter]

namespace BaseType

/-- The literals are told by the second field alone. -/
theorem ofFields?_eq_some_iff {type literals : Option Value} {rest : List (Option Value)}
    {base : BaseType} {allowed : Option Value} :
    ofFields? (type :: literals :: rest) = some (base, allowed) ↔
      ofFields? (type :: none :: rest) = some (base, none) ∧
        optionalField? some literals = some allowed := by
  by_cases hrest : ∃ refTable refType minInteger maxInteger minReal maxReal minLength maxLength,
      rest = [refTable, refType, minInteger, maxInteger, minReal, maxReal, minLength, maxLength]
  · obtain ⟨refTable, refType, minInteger, maxInteger, minReal, maxReal, minLength, maxLength,
      rfl⟩ := hrest
    simp only [ofFields?, Option.bind_eq_bind, Option.bind_eq_some_iff, Option.pure_def,
      Option.some.injEq, Prod.mk.injEq]
    constructor
    · rintro ⟨name, hname, a, ha, b, hb, c, hc, d, hd, e, he, f, hf, g, hg, i, hi, l, hl, rfl, rfl⟩
      exact ⟨⟨name, hname, a, ha, b, hb, c, hc, d, hd, e, he, f, hf, g, hg, i, hi, none, rfl, rfl,
        rfl⟩, hl⟩
    · rintro ⟨⟨name, hname, a, ha, b, hb, c, hc, d, hd, e, he, f, hf, g, hg, i, hi, -, -, rfl, -⟩,
        hl⟩
      exact ⟨name, hname, a, ha, b, hb, c, hc, d, hd, e, he, f, hf, g, hg, i, hi, _, hl, rfl, rfl⟩
  · have hnone : ∀ second, ofFields? (type :: second :: rest) = none := by
      intro second
      unfold ofFields?
      split
      · rename_i heq
        cases heq
        exact absurd ⟨_, _, _, _, _, _, _, _, rfl⟩ hrest
      · rfl
    simp only [hnone, reduceCtorEq, false_and]

theorem fields?_object_eq_some_iff {entries : List (String × Value)}
    {fields : List (Option Value)} :
    (Value.object entries).fields? fieldNames = some fields ↔ ∃ type literals rest,
      single? "type" entries = some type ∧ single? "enum" entries = some literals ∧
      (fieldNames.drop 2).mapM (single? · entries) = some rest ∧
      type :: literals :: rest = fields := by
  have hnames : fieldNames = "type" :: "enum" :: fieldNames.drop 2 := rfl
  rw [Value.fields?, hnames, List.mapM_cons, List.mapM_cons]
  simp only [Option.bind_eq_bind, Option.bind_eq_some_iff, Option.pure_def, Option.some.injEq,
    List.drop_succ_cons, List.drop_zero]
  constructor
  · rintro ⟨type, htype, _, ⟨literals, hliterals, rest, hrest, rfl⟩, rfl⟩
    exact ⟨type, literals, rest, htype, hliterals, hrest, rfl⟩
  · rintro ⟨type, literals, rest, htype, hliterals, hrest, rfl⟩
    exact ⟨type, htype, _, ⟨literals, hliterals, rest, hrest, rfl⟩, rfl⟩

/-- The fields of a base type are those of the object without the literals, and the literals. -/
theorem bind_ofFields?_eq_some_iff {entries : List (String × Value)} {base : BaseType}
    {allowed : Option Value} :
    ((Value.object entries).fields? fieldNames).bind ofFields? = some (base, allowed) ↔
      ((Value.object (entries.filter (·.1 ≠ "enum"))).fields? fieldNames).bind ofFields? =
        some (base, none) ∧
      ∃ field, single? "enum" entries = some field ∧ optionalField? some field = some allowed := by
  have hrest : (fieldNames.drop 2).mapM (single? · (entries.filter (·.1 ≠ "enum"))) =
      (fieldNames.drop 2).mapM (single? · entries) := by
    simp (disch := decide) only [fieldNames, List.drop_succ_cons, List.drop_zero, List.mapM_cons,
      single?_filter_ne]
    rfl
  simp only [Option.bind_eq_some_iff, fields?_object_eq_some_iff, hrest, single?_filter_ne_self,
    single?_filter_ne (show "type" ≠ "enum" by decide)]
  constructor
  · rintro ⟨_, ⟨type, literals, rest, htype, hliterals, hrest, rfl⟩, hof⟩
    obtain ⟨hbase, hallowed⟩ := ofFields?_eq_some_iff.mp hof
    exact ⟨⟨_, ⟨type, none, rest, htype, rfl, hrest, rfl⟩, hbase⟩, literals, hliterals, hallowed⟩
  · rintro ⟨⟨_, ⟨type, _, rest, htype, hnone, hrest, rfl⟩, hbase⟩, literals, hliterals, hallowed⟩
    obtain rfl := Option.some.inj hnone
    exact ⟨_, ⟨type, literals, rest, htype, hliterals, hrest, rfl⟩,
      ofFields?_eq_some_iff.mpr ⟨hbase, hallowed⟩⟩

theorem eq_of_bind_ofFields? {v : Value} {base : BaseType} {allowed : Option Value}
    (h : (v.fields? fieldNames).bind ofFields? = some (base, allowed)) :
    { base with allowed := none } = base := by
  obtain ⟨fields, -, hof⟩ := Option.bind_eq_some_iff.mp h
  rw [← (of_ofFields? hof).1]

theorem ofValue_object_eq_ok_iff {entries : List (String × Value)} {base : BaseType} :
    ofValue (.object entries) = .ok base ↔ ∃ plain allowed,
      ((Value.object entries).fields? fieldNames).bind ofFields? = some (plain, allowed) ∧
      ∃ values,
        Option.Rel (fun v values => allowedOfValue plain.atomic v = .ok values) allowed values ∧
        base = { plain with allowed := values } := by
  dsimp only [ofValue]
  cases hfields : ((Value.object entries).fields? fieldNames).bind ofFields? with
  | none => exact ⟨nofun, fun ⟨_, _, h, _⟩ => nomatch h⟩
  | some fields =>
    obtain ⟨plain, allowed⟩ := fields
    have hplain := eq_of_bind_ofFields? hfields
    simp only [Option.some.injEq, Prod.mk.injEq]
    cases allowed with
    | none =>
      constructor
      · intro hbase
        exact ⟨plain, none, ⟨rfl, rfl⟩, none, .none, (Except.ok.inj hbase).symm.trans hplain.symm⟩
      · rintro ⟨_, _, ⟨rfl, rfl⟩, values, hvalues, rfl⟩
        cases hvalues
        exact congrArg Except.ok hplain.symm
    | some literals =>
      dsimp only
      constructor
      · intro hbase
        split at hbase
        · rename_i values hvalues
          exact ⟨plain, some literals, ⟨rfl, rfl⟩, some values, .some hvalues,
            (Except.ok.inj hbase).symm⟩
        · exact nomatch hbase
      · rintro ⟨_, _, ⟨rfl, rfl⟩, values, hvalues, rfl⟩
        cases hvalues with
        | some hvalues =>
          rw [hvalues]
          rfl

/-- An object that is read is a base type exactly if its literals have the form of an enumeration,
its other members being those of a base type. -/
theorem ofValue_object_iff_enumForm {ms : List (List Symbol × Tree)}
    {entries : List (String × Value)} (hdepth : depth + 1 ≤ maxDepth)
    (h : HoldsMembers depth ms entries) {enum : Option Tree}
    (henum : valuesOf "enum" ms = enum.toList) {base : BaseType}
    (hothers : Accepts reader (.object (others "enum" ms)) base) {base' : BaseType} :
    ofValue (.object entries) = .ok base' ↔ ∃ elements allowed, EnumForm enum elements ∧
      Option.Rel (List.Forall₂ (LiteralForm base.atomic)) elements allowed ∧
      base' = { base with allowed } := by
  obtain ⟨field, hfield⟩ := h.exists_field "enum" henum
  have hsingle : single? "enum" entries = some field := h.single?_iff.mpr ⟨enum, henum, hfield⟩
  have hplain : ((Value.object (entries.filter (·.1 ≠ "enum"))).fields? fieldNames).bind ofFields? =
      some (base, none) := by
    have hbase := (accepts_converted_iff_of_outcome hdepth
      (outcome_value_object_iff.mpr ⟨_, h.others "enum", rfl⟩)).mp hothers
    obtain ⟨plain, allowed, hbind, values, hvalues, rfl⟩ := ofValue_object_eq_ok_iff.mp hbase
    obtain ⟨-, field, hnone, hallowed⟩ := bind_ofFields?_eq_some_iff.mp hbind
    obtain rfl := Option.some.inj ((single?_filter_ne_self _ _).symm.trans hnone)
    obtain rfl := Option.some.inj hallowed
    cases hvalues
    rw [hbind, eq_of_bind_ofFields? hbind]
  simp only [ofValue_object_eq_ok_iff, bind_ofFields?_eq_some_iff, hplain, hsingle,
    Option.some.injEq, Prod.mk.injEq, and_true, exists_eq_left']
  constructor
  · rintro ⟨_, allowed, ⟨rfl, hallowed⟩, values, hvalues, rfl⟩
    obtain ⟨elements, hform, hliterals⟩ :=
      (optional_allowedOfValue_iff hfield).mp ⟨allowed, hallowed, hvalues⟩
    exact ⟨elements, values, hform, hliterals, rfl⟩
  · rintro ⟨elements, values, hform, hliterals, rfl⟩
    obtain ⟨allowed, hallowed, hvalues⟩ :=
      (optional_allowedOfValue_iff hfield).mpr ⟨elements, hform, hliterals⟩
    exact ⟨base, allowed, ⟨rfl, hallowed⟩, values, hvalues, rfl⟩

/-- A base type that is written with an enumeration: its literals and the other members. -/
theorem accepts_reader_iff_enumForm {ms : List (List Symbol × Tree)} {enum : Option Tree}
    (henum : valuesOf "enum" ms = enum.toList) {base : BaseType}
    (hothers : Accepts reader (.object (others "enum" ms)) base) {base' : BaseType} :
    Accepts reader (.object ms) base' ↔ ∃ elements allowed, EnumForm enum elements ∧
      Option.Rel (List.Forall₂ (LiteralForm base.atomic)) elements allowed ∧
      base' = { base with allowed } := by
  constructor
  · intro haccepts
    obtain ⟨v, hv, hbase⟩ := accepts_converted_iff.mp haccepts
    obtain ⟨entries, hentries, rfl⟩ := outcome_value_object_iff.mp hv
    exact (ofValue_object_iff_enumForm (Nat.le_refl _) hentries henum hothers).mp hbase
  · intro hform
    have hwithin : (Tree.object ms).Within maxDepth := by
      obtain ⟨elements, -, helements, -⟩ := hform
      obtain ⟨v, hv, -⟩ := accepts_converted_iff.mp hothers
      refine within_of_others (exists_outcome_value_iff.mp ⟨v, hv⟩) fun t ht => ?_
      rw [henum, Option.mem_toList] at ht
      have hscalars : t.Within (124 + 2) := helements.within t ht
      exact hscalars
    obtain ⟨v, hv⟩ := exists_outcome_value_iff.mpr hwithin
    obtain ⟨entries, hentries, rfl⟩ := outcome_value_object_iff.mp hv
    exact accepts_converted_iff.mpr
      ⟨_, hv, (ofValue_object_iff_enumForm (Nat.le_refl _) hentries henum hothers).mpr hform⟩

/-- Every form of an enumeration gives literals. -/
theorem exists_literalForms {enum : Option Tree} {elements : Option (List Tree)}
    (h : EnumForm enum elements) (type : AtomicType) :
    ∃ allowed, Option.Rel (List.Forall₂ (LiteralForm type)) elements allowed := by
  cases h with
  | missing => exact ⟨none, .none⟩
  | null => exact ⟨none, .none⟩
  | single h =>
    obtain ⟨atom, hatom⟩ := h.exists_literalForm type
    exact ⟨some [atom], .some (.cons hatom .nil)⟩
  | set _ h =>
    obtain ⟨atoms, hatoms⟩ := exists_forall₂_iff.mpr fun t ht => (h t ht).exists_literalForm type
    exact ⟨some atoms, .some hatoms⟩

/-- No literal of a type that the schema language knows is reported if all are of that type. -/
theorem baseError?_ne_literalMismatch_iff {base : BaseType} (h : base.atomic.isSupported = true)
    (db : Database) (source table column : String) :
    (∀ literal span, db.baseError? source table column base ≠
      some (.literalMismatch table column literal base.atomic span)) ↔
        ∀ literal ∈ base.allowed.getD [], literal.isOfType base.atomic = true := by
  unfold Database.baseError?
  rw [if_pos h]
  cases hstray : (base.allowed.getD []).find? fun literal => !literal.isOfType base.atomic with
  | some literal =>
    have hother := List.find?_some hstray
    refine iff_of_false (fun hnone => hnone literal _ rfl) fun hall => ?_
    rw [hall literal (List.mem_of_find?_eq_some hstray)] at hother
    exact absurd hother (by decide)
  | none =>
    have hall : ∀ literal ∈ base.allowed.getD [], literal.isOfType base.atomic = true := by
      simpa using hstray
    refine iff_of_true (fun literal span => ?_) hall
    dsimp only
    split
    · split
      · simp
      · simp
    · simp

theorem forall_isOfType_iff {type : AtomicType} {elements : Option (List Tree)}
    {allowed : Option (List Atom)}
    (h : Option.Rel (List.Forall₂ (LiteralForm type)) elements allowed) :
    (∀ literal ∈ allowed.getD [], literal.isOfType type = true) ↔
      ∀ scalars ∈ elements, ∀ t ∈ scalars, Fits type t := by
  cases h with
  | none => exact iff_of_true nofun nofun
  | @some scalars literals h =>
    have hall : (∀ literal ∈ literals, literal.isOfType type = true) ↔
        ∀ t ∈ scalars, Fits type t := by
      induction h with
      | nil => exact iff_of_true nofun nofun
      | cons hliteral _ ih =>
        rw [List.forall_mem_cons, List.forall_mem_cons, hliteral.isOfType_iff, ih]
    rw [Option.getD_some, hall]
    exact ⟨fun h _ heq => Option.some.inj heq ▸ h, fun h => h scalars rfl⟩

/-- Which values are accepted as an enumeration of a base type, what literals they give, and when the
literals of a type that the schema language knows pass validation. -/
theorem enumeration_accepted {ms : List (List Symbol × Tree)} {enum : Option Tree}
    (henum : valuesOf "enum" ms = enum.toList) {base : BaseType}
    (hothers : Accepts reader (.object (others "enum" ms)) base) :
    ((∃ base', Accepts reader (.object ms) base') ↔ ∃ elements, EnumForm enum elements) ∧
      ∀ elements, EnumForm enum elements → ∃ allowed,
        Accepts reader (.object ms) { base with allowed } ∧
        Option.Rel (List.Forall₂ (LiteralForm base.atomic)) elements allowed ∧
        (base.atomic.isSupported = true → ∀ (db : Database) (source table column : String),
          (∀ literal span, db.baseError? source table column { base with allowed } ≠
            some (.literalMismatch table column literal base.atomic span)) ↔
              ∀ scalars ∈ elements, ∀ t ∈ scalars, Fits base.atomic t) := by
  refine ⟨?_, fun elements hform => ?_⟩
  · constructor
    · rintro ⟨base', haccepts⟩
      obtain ⟨elements, _, hform, -⟩ := (accepts_reader_iff_enumForm henum hothers).mp haccepts
      exact ⟨elements, hform⟩
    · rintro ⟨elements, hform⟩
      obtain ⟨allowed, hliterals⟩ := exists_literalForms hform base.atomic
      exact ⟨_, (accepts_reader_iff_enumForm henum hothers).mpr
        ⟨elements, allowed, hform, hliterals, rfl⟩⟩
  · obtain ⟨allowed, hliterals⟩ := exists_literalForms hform base.atomic
    refine ⟨allowed, ?_, hliterals, fun hsupported db source table column => ?_⟩
    · exact (accepts_reader_iff_enumForm henum hothers).mpr
        ⟨elements, allowed, hform, hliterals, rfl⟩
    · rw [← forall_isOfType_iff hliterals]
      have hknown : ({ base with allowed } : BaseType).atomic.isSupported = true := hsupported
      exact baseError?_ne_literalMismatch_iff hknown db source table column

/-! ### The least integer and a negative zero -/

/-- The least integer of 64 bits. -/
def leastLiteral : Numeral where
  negative := true
  whole := ⟨"9223372036854775808".toList, by decide +kernel,
    List.all_eq_true.mp (by decide +kernel)⟩
  zero := by decide +kernel
  fraction := none
  exponent := none

def literalsTree : Tree :=
  .array [.string (Go.literally "set"), .array [.number leastLiteral, .number (zeroLiteral true)]]

def integerMembers : List (List Symbol × Tree) :=
  [(Go.literally "type", .string (Go.literally "integer")), (Go.literally "enum", literalsTree)]

/-- The enumeration is read, but the zero is no integer. -/
theorem enumeration_of_negativeZero :
    Accepts reader (.object (others "enum" integerMembers)) (.plain .integer) ∧
      Fits .integer (.number leastLiteral) ∧ ¬ Fits .integer (.number (zeroLiteral true)) ∧
      ∃ allowed, Accepts reader (.object integerMembers) { BaseType.plain .integer with allowed } ∧
        ∀ (db : Database) (source table column : String), ∃ literal span,
          db.baseError? source table column { BaseType.plain .integer with allowed } =
            some (.literalMismatch table column literal .integer span) := by
  have hothers : Accepts reader (.object (others "enum" integerMembers)) (.plain .integer) := by
    refine accepts_converted_iff.mpr ⟨.object [("type", .string "integer")], ?_, by rfl⟩
    refine outcome_value_object_iff.mpr ⟨_, .cons (memberEntry_eq_some_iff.mpr ⟨?_, ?_⟩) .nil, rfl⟩
    · decide +kernel
    · exact outcome_value_iff.mpr (.string (by decide +kernel))
  have hleast : Fits .integer (.number leastLiteral) :=
    ⟨Int64.minValue, by decide +kernel, fun hzero => absurd hzero.2 (by decide +kernel)⟩
  have hzero : ¬ Fits .integer (.number (zeroLiteral true)) := fun ⟨_, hi⟩ => hi.2 ⟨rfl, rfl⟩
  have hform : EnumForm (some literalsTree)
      (some [.number leastLiteral, .number (zeroLiteral true)]) := by
    refine .set (by decide +kernel) ?_
    refine List.forall_mem_cons.mpr ⟨.number ?_, List.forall_mem_singleton.mpr (.number ?_)⟩
    · decide +kernel
    · decide +kernel
  have henum : valuesOf "enum" integerMembers = (some literalsTree).toList := rfl
  obtain ⟨allowed, haccepts, -, hvalid⟩ := (enumeration_accepted henum hothers).2 _ hform
  refine ⟨hothers, hleast, hzero, allowed, haccepts, fun db source table column => ?_⟩
  have hmismatch := (not_congr (hvalid rfl db source table column)).mpr fun hfits =>
    hzero (hfits _ rfl _ (List.mem_cons_of_mem _ (List.mem_singleton_self _)))
  simp only [not_forall, not_not] at hmismatch
  exact hmismatch

end BaseType

end OvsdbModels
