/-
  OvsdbModels/Proofs/Go/Placeholders.lean
  =======================================
  **Placeholders are replaced as if all at once.**

  The placeholders of a snippet are replaced one after another, each over a text that already holds
  the values of those before it.  A placeholder is an opening brace, letters and a closing brace, and a
  value has no opening brace, so a value can neither begin an occurrence nor, behind an opening brace,
  take part in one: the only braces that letters alone connect are those of the snippet (`IsSparse`).
  The pieces of a snippet, told by its braces, are therefore kept or replaced by themselves
  (`fill_append`, `fill_placeholder`, `fill_brace`).
-/
import Mathlib.Data.List.Nodup
import OvsdbModels.Go.Template
import OvsdbModels.Text.Replace

namespace OvsdbModels.Go

open Text

/-! ### Placeholders and their values -/

/-- A name in braces. -/
def placeholder (name : String) : List Char := '\x7b' :: (name.toList ++ ['\x7d'])

def modelValues (model : Model) : List (String × String) :=
  [("TableName", model.table), ("PackageName", model.package), ("StructName", model.structName)]

def fieldValues (field : Field) : List (String × String) :=
  [("Column", field.column), ("Name", field.name), ("Type", field.type)]

/-- Whether a text is another one with every placeholder replaced: what stands for a value is never
looked at, and a character is copied where no placeholder begins. -/
inductive Substitutes (values : List (String × String)) : List Char → List Char → Prop where
  | nil : Substitutes values [] []
  | value {name value : String} {rest out : List Char} (h : (name, value) ∈ values)
      (hrest : Substitutes values rest out) :
      Substitutes values (placeholder name ++ rest) (value.toList ++ out)
  | copy {c : Char} {rest out : List Char} (h : ∀ e ∈ values, ¬ placeholder e.1 <+: c :: rest)
      (hrest : Substitutes values rest out) : Substitutes values (c :: rest) (c :: out)

/-- Whether no opening brace is followed, through letters only, by another one. -/
def IsSparse (s : List Char) : Prop :=
  ∀ rest, '\x7b' :: rest <:+ s → (rest.dropWhile Char.isAlpha).head? ≠ some '\x7b'

/-- Names of letters, each with one value, and values without opening braces. -/
structure IsTable (values : List (String × String)) : Prop where
  letters : ∀ e ∈ values, ∀ c ∈ e.1.toList, c.isAlpha = true
  single : ∀ e ∈ values, ∀ e' ∈ values, e.1 = e'.1 → e = e'
  unbraced : ∀ e ∈ values, '\x7b' ∉ e.2.toList

/-- The placeholders of a table, replaced one after another. -/
def fill (values : List (String × String)) (s : List Char) : List Char :=
  values.foldl (fun s e => replaceFrom (placeholder e.1) e.2.toList 0 s) s

/-- A text with the placeholders of a table replaced. -/
def filled (values : List (String × String)) (text : String) : String :=
  String.ofList (fill values text.toList)

variable {values : List (String × String)} {s t : List Char}

theorem isSparse_cons_iff {c : Char} :
    IsSparse (c :: s) ↔
      (c = '\x7b' → (s.dropWhile Char.isAlpha).head? ≠ some '\x7b') ∧ IsSparse s := by
  constructor
  · intro h
    refine ⟨?_, fun rest hrest => h rest (hrest.trans (List.suffix_cons c s))⟩
    rintro rfl
    exact h s (List.suffix_refl _)
  · intro ⟨hhead, hrest⟩ rest hsuffix
    rcases List.suffix_cons_iff.mp hsuffix with heq | hsuffix
    · obtain ⟨rfl, rfl⟩ := List.cons.inj heq
      exact hhead rfl
    · exact hrest rest hsuffix

instance decidableIsSparse : (s : List Char) → Decidable (IsSparse s)
  | [] => isTrue fun _ h => absurd (List.suffix_nil.mp h) (List.cons_ne_nil _ _)
  | _ :: s =>
    have := decidableIsSparse s
    decidable_of_iff _ isSparse_cons_iff.symm

theorem IsSparse.of_append (h : IsSparse (s ++ t)) : IsSparse t :=
  fun rest hrest => h rest (hrest.trans (List.suffix_append s t))

/-! ### Where a placeholder begins -/

theorem brace_notMem {letters : List Char} (h : ∀ c ∈ letters, c.isAlpha = true) :
    '\x7b' ∉ letters := by
  intro hmem
  exact absurd (h _ hmem) (by decide)

/-- Behind an opening brace, only the letters up to the next other character can be a name. -/
theorem placeholder_prefix_iff {name : String} {letters tail : List Char}
    (hname : ∀ c ∈ name.toList, c.isAlpha = true) (hletters : ∀ c ∈ letters, c.isAlpha = true)
    (htail : ∀ c, tail.head? = some c → c.isAlpha = false) :
    placeholder name <+: '\x7b' :: (letters ++ tail) ↔
      name.toList = letters ∧ tail.head? = some '\x7d' := by
  rw [placeholder, List.cons_prefix_cons]
  constructor
  · rintro ⟨-, rest, hrest⟩
    have hstop : tail.takeWhile Char.isAlpha = [] := by
      cases tail with
      | nil => rfl
      | cons c tail => simp [htail c rfl]
    have hsame := congrArg (List.takeWhile Char.isAlpha) hrest
    rw [List.append_assoc, List.takeWhile_append_of_pos hname, List.takeWhile_append_of_pos hletters,
      hstop] at hsame
    have hletters : name.toList = letters := by simpa using hsame
    subst hletters
    rw [List.append_assoc] at hrest
    rw [← List.append_cancel_left hrest]
    exact ⟨rfl, rfl⟩
  · rintro ⟨rfl, hhead⟩
    obtain ⟨rest, rfl⟩ := List.head?_eq_some_iff.mp hhead
    exact ⟨rfl, rest, by simp⟩

theorem placeholder_ne_nil (name : String) : placeholder name ≠ [] := List.cons_ne_nil _ _

theorem not_placeholder_prefix {c : Char} (h : c ≠ '\x7b') (name : String) :
    ¬ placeholder name <+: c :: s :=
  not_prefix_of_ne h

theorem IsTable.name_of_prefix (h : IsTable values) {e e' : String × String} (he : e ∈ values)
    (he' : e' ∈ values) (hbegins : placeholder e.1 <+: placeholder e'.1 ++ t) : e.1 = e'.1 := by
  have hstop : ∀ c, ('\x7d' :: t).head? = some c → c.isAlpha = false := by
    rintro c hc
    obtain rfl := Option.some.inj hc
    rfl
  have htext : placeholder e'.1 ++ t = '\x7b' :: (e'.1.toList ++ '\x7d' :: t) := by simp [placeholder]
  rw [htext, placeholder_prefix_iff (h.letters e he) (h.letters e' he') hstop] at hbegins
  exact String.toList_injective hbegins.1

theorem IsTable.tail {e : String × String} (h : IsTable (e :: values)) : IsTable values where
  letters e' he' := h.letters e' (List.mem_cons_of_mem _ he')
  single e he e' he' := h.single e (List.mem_cons_of_mem _ he) e' (List.mem_cons_of_mem _ he')
  unbraced e' he' := h.unbraced e' (List.mem_cons_of_mem _ he')

/-! ### Pieces of a snippet -/

theorem fill_nil (values : List (String × String)) : fill values [] = [] := by
  induction values with
  | nil => rfl
  | cons e values ih => exact ih

theorem fill_append (values : List (String × String)) (h : '\x7b' ∉ s) (t : List Char) :
    fill values (s ++ t) = s ++ fill values t := by
  induction values generalizing t with
  | nil => rfl
  | cons e values ih =>
    simp only [fill, List.foldl_cons]
    rw [placeholder, replaceFrom_append h]
    exact ih _

theorem fill_placeholder (h : IsTable values) {name value : String} (hmem : (name, value) ∈ values)
    (t : List Char) : fill values (placeholder name ++ t) = value.toList ++ fill values t := by
  induction values generalizing t with
  | nil => exact absurd hmem List.not_mem_nil
  | cons e values ih =>
    simp only [fill, List.foldl_cons]
    by_cases hname : e.1 = name
    · obtain rfl := h.single e List.mem_cons_self _ hmem hname
      rw [replaceFrom_word_append (placeholder_ne_nil name)]
      exact fill_append values (h.unbraced _ hmem) _
    · have hlater : (name, value) ∈ values := by
        rcases List.mem_cons.mp hmem with rfl | hlater
        · exact absurd rfl hname
        · exact hlater
      have hother : ¬ placeholder e.1 <+: placeholder name ++ t := fun hbegins =>
        hname (h.name_of_prefix List.mem_cons_self hmem hbegins)
      have hinside : '\x7b' ∉ name.toList ++ ['\x7d'] := by
        simpa using brace_notMem (h.letters _ hmem)
      have hkept : replaceFrom (placeholder e.1) e.2.toList 0 (placeholder name ++ t) =
          placeholder name ++ replaceFrom (placeholder e.1) e.2.toList 0 t := by
        have htext : placeholder name ++ t = '\x7b' :: (name.toList ++ ['\x7d'] ++ t) := rfl
        rw [htext] at hother ⊢
        rw [replaceFrom_cons hother, placeholder, replaceFrom_append hinside]
        rfl
      rw [hkept]
      exact ih h.tail hlater _

/-- Letters behind an opening brace that are no placeholder stay, whatever becomes of the text behind
them: its first character does not change. -/
theorem fill_brace (h : IsTable values) {letters : List Char}
    (hletters : ∀ c ∈ letters, c.isAlpha = true)
    (htail : ∀ c, t.head? = some c → c.isAlpha = false) (hbrace : t.head? ≠ some '\x7b')
    (hunknown : ∀ e ∈ values, ¬ (e.1.toList = letters ∧ t.head? = some '\x7d')) :
    fill values ('\x7b' :: (letters ++ t)) = '\x7b' :: (letters ++ fill values t) := by
  induction values generalizing t with
  | nil => rfl
  | cons e values ih =>
    have hname := h.letters e List.mem_cons_self
    have hother := mt (placeholder_prefix_iff hname hletters htail).mp (hunknown e List.mem_cons_self)
    have hhead := head?_replaceFrom hbrace (e.1.toList ++ ['\x7d']) e.2.toList
    simp only [fill, List.foldl_cons]
    rw [replaceFrom_cons hother, placeholder, replaceFrom_append (brace_notMem hletters)]
    refine ih h.tail ?_ ?_ ?_
    · rwa [hhead]
    · rwa [hhead]
    · rw [hhead]
      exact fun e' he' => hunknown e' (List.mem_cons_of_mem _ he')

/-! ### One substitution -/

theorem Substitutes.append {out : List Char} (h : '\x7b' ∉ s) (ht : Substitutes values t out) :
    Substitutes values (s ++ t) (s ++ out) := by
  induction s with
  | nil => exact ht
  | cons c s ih =>
    obtain ⟨hc, hs⟩ := not_or.mp (mt List.mem_cons.mpr h)
    exact .copy (fun e _ => not_placeholder_prefix (Ne.symm hc) e.1) (ih hs)

/-- The letters that a text begins with, and what stands behind them. -/
theorem exists_letters (s : List Char) : ∃ letters, s = letters ++ s.dropWhile Char.isAlpha ∧
    (∀ c ∈ letters, c.isAlpha = true) ∧
    ∀ c, (s.dropWhile Char.isAlpha).head? = some c → c.isAlpha = false := by
  refine ⟨_, List.takeWhile_append_dropWhile.symm, List.all_eq_true.mp List.all_takeWhile, ?_⟩
  intro c hc
  have hfirst := List.head?_dropWhile_not Char.isAlpha s
  rw [hc] at hfirst
  simpa using hfirst

theorem substitutes_fill (h : IsTable values) (hs : IsSparse s) :
    Substitutes values s (fill values s) := by
  induction hn : s.length using Nat.strongRecOn generalizing s with
  | _ n ih =>
    cases s with
    | nil =>
      rw [fill_nil]
      exact .nil
    | cons c s =>
      rw [List.length_cons] at hn
      obtain ⟨hhead, hrest⟩ := isSparse_cons_iff.mp hs
      by_cases hc : c = '\x7b'
      · subst hc
        obtain ⟨letters, hsplit, halpha, hstop⟩ := exists_letters s
        generalize s.dropWhile Char.isAlpha = tail at hhead hsplit hstop
        subst hsplit
        rw [List.length_append] at hn
        by_cases hknown : ∃ e ∈ values, e.1.toList = letters ∧ tail.head? = some '\x7d'
        · obtain ⟨e, he, rfl, hclosing⟩ := hknown
          obtain ⟨rest, rfl⟩ := List.head?_eq_some_iff.mp hclosing
          have htext : '\x7b' :: (e.1.toList ++ '\x7d' :: rest) = placeholder e.1 ++ rest := by
            simp [placeholder]
          have hafter : IsSparse rest := (isSparse_cons_iff.mp hrest.of_append).2
          rw [htext, fill_placeholder h he]
          rw [List.length_cons] at hn
          exact .value he (ih rest.length (by omega) hafter rfl)
        · have hunknown : ∀ e ∈ values, ¬ (e.1.toList = letters ∧ tail.head? = some '\x7d') :=
            fun e he heq => hknown ⟨e, he, heq⟩
          rw [fill_brace h halpha hstop (hhead rfl) hunknown]
          have htail := ih tail.length (by omega) hrest.of_append rfl
          refine .copy ?_ (.append (brace_notMem halpha) htail)
          intro e he
          exact mt (placeholder_prefix_iff (h.letters e he) halpha hstop).mp (hunknown e he)
      · have hkept : fill values (c :: s) = c :: fill values s :=
          fill_append values (s := [c]) (by simpa using Ne.symm hc) s
        rw [hkept]
        exact .copy (fun e _ => not_placeholder_prefix hc e.1) (ih s.length (by omega) hrest rfl)

/-- A text has at most one substitution. -/
theorem Substitutes.unique (h : IsTable values) {out out' : List Char}
    (hout : Substitutes values s out) (hout' : Substitutes values s out') : out = out' := by
  induction hout generalizing out' with
  | nil =>
    generalize hs : ([] : List Char) = s at hout'
    cases hout' with
    | nil => rfl
    | value hmem hrest => exact nomatch hs
    | copy hno hrest => exact nomatch hs
  | @value name value rest out hmem hrest ih =>
    generalize hs : placeholder name ++ rest = s at hout'
    cases hout' with
    | nil => exact nomatch hs
    | @value name' value' rest' out' hmem' hrest' =>
      have hname : name = name' := h.name_of_prefix hmem hmem' (hs ▸ List.prefix_append _ _)
      obtain ⟨rfl, rfl⟩ := Prod.mk.inj (h.single _ hmem _ hmem' hname)
      obtain rfl := List.append_cancel_left hs
      rw [ih hrest']
    | copy hno hrest' => exact absurd (hs ▸ List.prefix_append _ _) (hno _ hmem)
  | @copy c rest out hno hrest ih =>
    generalize hs : c :: rest = s at hout'
    cases hout' with
    | nil => exact nomatch hs
    | value hmem' hrest' => exact absurd (hs ▸ List.prefix_append _ _) (hno _ hmem')
    | copy hno' hrest' =>
      obtain ⟨rfl, rfl⟩ := List.cons.inj hs
      rw [ih hrest']

/-! ### Snippets -/

theorem fillModel_eq (text : String) (model : Model) :
    fillModel text model = filled (modelValues model) text := by
  apply String.toList_injective
  simp [fillModel, filled, fill, modelValues, replaceAll, placeholder]

theorem fillField_eq (text : String) (model : Model) (field : Field) :
    fillField text model field = filled (modelValues model ++ fieldValues field) text := by
  apply String.toList_injective
  simp [fillField, fillModel_eq, filled, fill, modelValues, fieldValues, replaceAll, placeholder]

theorem IsTable.of_names (hletters : ∀ name ∈ values.map (·.1), ∀ c ∈ name.toList, c.isAlpha = true)
    (hnames : (values.map (·.1)).Nodup) (h : ∀ e ∈ values, '\x7b' ∉ e.2.toList) :
    IsTable values where
  letters e he := hletters e.1 (List.mem_map_of_mem he)
  single _ he _ he' heq := List.inj_on_of_nodup_map hnames he he' heq
  unbraced := h

theorem isTable_modelValues {model : Model} (h : ∀ e ∈ modelValues model, '\x7b' ∉ e.2.toList) :
    IsTable (modelValues model) := by
  apply IsTable.of_names _ _ h
  · simp [modelValues]
  · simp [modelValues]

theorem isTable_allValues {model : Model} {field : Field}
    (hmodel : ∀ e ∈ modelValues model, '\x7b' ∉ e.2.toList)
    (hfield : ∀ e ∈ fieldValues field, '\x7b' ∉ e.2.toList) :
    IsTable (modelValues model ++ fieldValues field) := by
  apply IsTable.of_names
  · simp [modelValues, fieldValues]
  · simp [modelValues, fieldValues]
  · intro e he
    rcases List.mem_append.mp he with he | he
    · exact hmodel e he
    · exact hfield e he

theorem substitutes_iff (h : IsTable values) {text : String} (htext : IsSparse text.toList)
    (out : String) :
    Substitutes values text.toList out.toList ↔ out = filled values text := by
  constructor
  · intro hout
    rw [filled, ← hout.unique h (substitutes_fill h htext), String.ofList_toList]
  · rintro rfl
    rw [filled, String.toList_ofList]
    exact substitutes_fill h htext

/-- In a snippet whose opening braces are kept apart, and for values without one, the replacements
that are made one after another are one substitution of all placeholders, and there is no other. -/
theorem fill_is_substitution {text : String} {model : Model} (htext : IsSparse text.toList)
    (hmodel : ∀ e ∈ modelValues model, '\x7b' ∉ e.2.toList) :
    (∀ out : String,
      Substitutes (modelValues model) text.toList out.toList ↔ out = fillModel text model) ∧
    ∀ field : Field, (∀ e ∈ fieldValues field, '\x7b' ∉ e.2.toList) → ∀ out : String,
      Substitutes (modelValues model ++ fieldValues field) text.toList out.toList ↔
        out = fillField text model field := by
  constructor
  · intro out
    rw [substitutes_iff (isTable_modelValues hmodel) htext, fillModel_eq]
  · intro field hfield out
    rw [substitutes_iff (isTable_allValues hmodel hfield) htext, fillField_eq]

/-- A snippet with braces of its own and an unknown name, for a table whose name closes a brace. -/
theorem substitution_of_method :
    IsSparse "f() \x7b \x7bUnknown\x7d \x7bColumn\x7d, \x7bTableName\x7d\x7d".toList ∧
      (∀ e ∈ modelValues ⟨"Qo\x7dS", "p", "QoS", [], []⟩, '\x7b' ∉ e.2.toList) ∧
      (∀ e ∈ fieldValues ⟨"type", "Type", "string"⟩, '\x7b' ∉ e.2.toList) ∧
      Substitutes (modelValues ⟨"Qo\x7dS", "p", "QoS", [], []⟩)
        "f() \x7b \x7bUnknown\x7d \x7bColumn\x7d, \x7bTableName\x7d\x7d".toList
        "f() \x7b \x7bUnknown\x7d \x7bColumn\x7d, Qo\x7dS\x7d".toList ∧
      Substitutes (modelValues ⟨"Qo\x7dS", "p", "QoS", [], []⟩ ++ fieldValues ⟨"type", "Type", "string"⟩)
        "f() \x7b \x7bUnknown\x7d \x7bColumn\x7d, \x7bTableName\x7d\x7d".toList
        "f() \x7b \x7bUnknown\x7d type, Qo\x7dS\x7d".toList := by
  have htext : IsSparse
      "f() \x7b \x7bUnknown\x7d \x7bColumn\x7d, \x7bTableName\x7d\x7d".toList := by decide
  have hmodel : ∀ e ∈ modelValues ⟨"Qo\x7dS", "p", "QoS", [], []⟩, '\x7b' ∉ e.2.toList := by decide
  have hfield : ∀ e ∈ fieldValues ⟨"type", "Type", "string"⟩, '\x7b' ∉ e.2.toList := by decide
  obtain ⟨hblock, htag⟩ := fill_is_substitution htext hmodel
  exact ⟨htext, hmodel, hfield, (hblock _).mpr (by decide), (htag _ hfield _).mpr (by decide)⟩

end OvsdbModels.Go
