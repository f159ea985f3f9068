/-
  OvsdbModels/Proofs/Naming.lean
  ==============================
  **Characters of names.**

  The words of a name are written in letters of the identifier, with their case changed, and now and then
  a small `s`.  So a class of ASCII characters that is closed under changes of case and has the `s` holds
  the characters of a name if it holds those of the identifier (`forall_mem_normalize`).
-/
import OvsdbModels.Naming
import OvsdbModels.Proofs.Text.Form

namespace OvsdbModels

open Text

/-! ### Words -/

namespace Text

/-- The parts of a text, one after another, are the text without its separators. -/
theorem flatten_splitAll (isSeparator : Char → Bool) (s : List Char) :
    (splitAll isSeparator s).flatten = s.filter fun c => !isSeparator c := by
  induction s with
  | nil => rfl
  | cons c rest ih =>
    obtain ⟨part, parts, hparts⟩ := List.exists_cons_of_ne_nil (splitAll_ne_nil isSeparator rest)
    cases hc : isSeparator c with
    | true => simp [splitAll, hc, ih]
    | false =>
      rw [hparts] at ih
      simp [splitAll, hc, hparts, ← ih]

theorem mem_splitAll {isSeparator : Char → Bool} {s part : List Char}
    (hpart : part ∈ splitAll isSeparator s) :
    ∀ c ∈ part, c ∈ s ∧ isSeparator c = false := by
  intro c hc
  have hmem : c ∈ (splitAll isSeparator s).flatten := List.mem_flatten_of_mem hpart hc
  rw [flatten_splitAll, List.mem_filter, Bool.not_eq_true'] at hmem
  exact hmem

theorem mem_words {isSeparator : Char → Bool} {s word : List Char}
    (hword : word ∈ words isSeparator s) : ∀ c ∈ word, c ∈ s ∧ isSeparator c = false :=
  mem_splitAll (List.mem_filter.mp hword).1

/-- A text that does not begin with a separator begins with its first word. -/
theorem words_cons {isSeparator : Char → Bool} {c : Char} (h : isSeparator c = false)
    (s : List Char) :
    ∃ word rest, words isSeparator (c :: s) = (c :: word) :: rest := by
  obtain ⟨first, parts, hs⟩ := List.exists_cons_of_ne_nil (splitAll_ne_nil isSeparator s)
  refine ⟨first, parts.filter (!·.isEmpty), ?_⟩
  rw [words, splitAll, if_neg (by rw [h]; exact Bool.false_ne_true), hs]
  rfl

/-! ### Classes closed under case -/

/-- A class of ASCII characters that has the upper and the lower case of its characters. -/
structure CaseClosed (p : Char → Prop) : Prop where
  ascii {c : Char} (h : p c) : c.toNat < 128
  upper {c : Char} (h : p c) : p c.toUpper
  lower {c : Char} (h : p c) : p c.toLower

theorem caseClosed_ascii : CaseClosed fun c => c.toNat < 128 where
  ascii h := h
  upper h := forall_ascii (p := fun c => c.toUpper.toNat < 128) (by decide) h
  lower h := forall_ascii (p := fun c => c.toLower.toNat < 128) (by decide) h

theorem caseClosed_isAlphanum : CaseClosed fun c => c.isAlphanum = true where
  ascii h := ascii_of_isAlphanum h
  upper h := forall_ascii (p := fun c => c.isAlphanum = true → c.toUpper.isAlphanum = true)
    (by decide) (ascii_of_isAlphanum h) h
  lower h := forall_ascii (p := fun c => c.isAlphanum = true → c.toLower.isAlphanum = true)
    (by decide) (ascii_of_isAlphanum h) h

/-- The lower cases of ASCII characters that stand alone. -/
theorem flatMap_lower_of_ascii {s : List Char} (h : IsAscii s) :
    s.flatMap lower = s.map Char.toLower := by
  induction s with
  | nil => rfl
  | cons c rest ih =>
    obtain ⟨hc, hrest⟩ := List.forall_mem_cons.mp h
    rw [List.flatMap_cons, lower_of_ascii hc, ih hrest]
    rfl

theorem titleCase_of_ascii {c : Char} {rest : List Char} (h : IsAscii (c :: rest)) :
    titleCase (c :: rest) = c.toUpper :: rest.map Char.toLower := by
  obtain ⟨hc, hrest⟩ := List.forall_mem_cons.mp h
  rw [titleCase, upper_of_ascii hc, flatMap_lower_of_ascii hrest]
  rfl

namespace CaseClosed

variable {p : Char → Prop} {s : List Char}

theorem upperAll (hp : CaseClosed p) (h : ∀ c ∈ s, p c) : ∀ c ∈ upperAll s, p c := by
  rw [upperAll_of_ascii fun c hc => hp.ascii (h c hc)]
  intro d hd
  obtain ⟨c, hc, rfl⟩ := List.mem_map.mp hd
  exact hp.upper (h c hc)

theorem titleCase (hp : CaseClosed p) (h : ∀ c ∈ s, p c) : ∀ c ∈ titleCase s, p c := by
  cases s with
  | nil => exact h
  | cons c rest =>
    obtain ⟨hc, hrest⟩ := List.forall_mem_cons.mp h
    rw [titleCase_of_ascii fun d hd => hp.ascii (h d hd)]
    intro d hd
    rcases List.mem_cons.mp hd with rfl | hd
    · exact hp.upper hc
    · obtain ⟨e, he, rfl⟩ := List.mem_map.mp hd
      exact hp.lower (hrest e he)

end CaseClosed

end Text

/-! ### Names -/

namespace Naming

theorem singular?_eq_some {word stem : List Char} (h : singular? word = some stem) :
    word = stem ++ ['s'] := by
  unfold singular? at h
  split at h
  · rename_i hlast
    obtain ⟨front, rfl⟩ := List.getLast?_eq_some_iff.mp hlast
    obtain rfl := Option.some.inj h
    rw [List.dropLast_concat]
  · exact nomatch h

theorem forall_mem_word {p : Char → Prop} (hp : CaseClosed p) (hs : p 's') (naming : Naming)
    {w : List Char} (h : ∀ c ∈ w, p c) : ∀ c ∈ naming.word w, p c := by
  unfold word
  split
  · exact hp.upperAll h
  · split
    · rename_i stem hstem
      rw [singular?_eq_some hstem] at h
      split
      · intro c hc
        rcases List.mem_append.mp hc with hc | hc
        · exact hp.upperAll (fun d hd => h d (List.mem_append_left _ hd)) c hc
        · exact List.mem_singleton.mp hc ▸ hs
      · rw [singular?_eq_some hstem]
        exact hp.titleCase h
    · exact hp.titleCase h

/-- The characters of a name are of a class if those of the identifier are, separators aside. -/
theorem forall_mem_normalize {p : Char → Prop} (hp : CaseClosed p) (hs : p 's') (naming : Naming)
    {ident : String} (h : ∀ c ∈ ident.toList, p c ∨ c = '_') :
    ∀ c ∈ (naming.normalize ident).toList, p c := by
  have hascii : ∀ c ∈ ident.toList, c.toNat < 128 := by
    intro c hc
    rcases h c hc with hc | rfl
    · exact hp.ascii hc
    · decide
  intro c hc
  rw [normalize, String.toList_ofList, List.mem_flatMap, lowerAll_of_ascii hascii] at hc
  obtain ⟨w, hw, hc⟩ := hc
  refine forall_mem_word hp hs naming (fun d hd => ?_) c hc
  obtain ⟨hmem, hseparator⟩ := mem_words hw d hd
  obtain ⟨e, he, rfl⟩ := List.mem_map.mp hmem
  rcases h e he with he | rfl
  · exact hp.lower he
  · exact absurd hseparator (by decide)

/-- The first word of an identifier, in lower case. -/
def firstWord? (ident : String) : Option (List Char) :=
  (words isSeparator (lowerAll ident.toList)).head?

theorem head?_upperAll {c : Char} (hc : c.toNat < 128) (w : List Char) :
    (upperAll (c :: w)).head? = some c.toUpper := by
  rw [upperAll, List.flatMap_cons, upper_of_ascii hc]
  rfl

/-- A word begins with the capital of its first letter, unless it is the plural of nothing. -/
theorem head?_word {naming : Naming} {c : Char} {w : List Char} (hc : c.toNat < 128)
    (hplural : "" ∈ naming.initialisms → c :: w ≠ ['s']) :
    (naming.word (c :: w)).head? = some c.toUpper := by
  have htitle : (titleCase (c :: w)).head? = some c.toUpper := by
    rw [titleCase, upper_of_ascii hc]
    rfl
  unfold word
  split
  · exact head?_upperAll hc w
  · split
    · rename_i stem hstem
      have hword := singular?_eq_some hstem
      split
      · rename_i hinitialism
        cases stem with
        | nil =>
          -- the stem is empty, so the empty text is an initialism
          exact absurd hword (hplural (List.contains_iff_mem.mp hinitialism))
        | cons d stem =>
          obtain ⟨rfl, -⟩ := List.cons.inj hword
          rw [List.head?_append, head?_upperAll hc]
          rfl
      · exact htitle
    · exact htitle

/-- A column's name has the form of an exported word, unless its first word is the plural of nothing. -/
theorem normalize_hasForm {naming : Naming} {ident : String} (h : IsLetteredIdentifier ident)
    (hplural : "" ∈ naming.initialisms → firstWord? ident ≠ some ['s']) :
    HasForm Char.isUpper Char.isAlphanum (naming.normalize ident).toList := by
  have hword := h.isWordChar
  have hletters := forall_mem_normalize caseClosed_isAlphanum (by decide) naming
    fun c hc => (isWordChar_iff c).mp (hword c hc)
  obtain ⟨c, rest, hident, hc, -⟩ := HasForm.exists_cons h
  have hascii : c.toNat < 128 := ascii_of_isAlphanum (isAlphanum_of_isAlpha hc)
  have hseparator : isSeparator c.toLower = false :=
    forall_ascii (p := fun c => c.isAlpha = true → isSeparator c.toLower = false) (by decide)
      hascii hc
  have hcapital : c.toLower.toNat < 128 ∧ c.toLower.toUpper.isUpper = true :=
    forall_ascii (p := fun c => c.isAlpha = true →
      c.toLower.toNat < 128 ∧ c.toLower.toUpper.isUpper = true) (by decide) hascii hc
  have hlower := lowerAll_of_ascii fun c hc => ascii_of_isWordChar (hword c hc)
  rw [hident, List.map_cons] at hlower
  obtain ⟨w, others, hwords⟩ := words_cons hseparator (rest.map Char.toLower)
  have hfirst : (naming.normalize ident).toList.head? = some c.toLower.toUpper := by
    rw [normalize, String.toList_ofList, hident, hlower, hwords, List.flatMap_cons, List.head?_append,
      head?_word hcapital.1 fun hempty heq => ?_]
    · rfl
    · exact hplural hempty (by rw [firstWord?, hident, hlower, hwords, List.head?_cons, heq])
  exact .of_head? hfirst hcapital.2 hletters

theorem typeName_hasForm {table : String} (h : IsLetteredIdentifier table) :
    HasForm Char.isUpper Char.isAlphanum (typeName table).toList := by
  have hword := h.isWordChar
  obtain ⟨c, rest, htable, hc, -⟩ := HasForm.exists_cons h
  have hascii : c.toNat < 128 := ascii_of_isAlphanum (isAlphanum_of_isAlpha hc)
  have hcapital : c.toUpper.isUpper = true ∧ c ≠ '_' :=
    forall_ascii (p := fun c => c.isAlpha = true → c.toUpper.isUpper = true ∧ c ≠ '_') (by decide)
      hascii hc
  rw [htable] at hword
  rw [typeName, String.toList_ofList, htable, List.filter_cons, if_pos (decide_eq_true hcapital.2),
    capitalize, upper_of_ascii hascii]
  refine .cons hcapital.1 fun d hd => ?_
  obtain ⟨hmem, hd⟩ := List.mem_filter.mp hd
  rcases (isWordChar_iff d).mp (hword d (List.mem_cons_of_mem _ hmem)) with halphanum | heq
  · exact halphanum
  · exact absurd heq (of_decide_eq_true hd)

end Naming

end OvsdbModels
