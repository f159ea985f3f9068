/-
  OvsdbModels/Proofs/Naming/Letters.lean
  ======================================
  **A name keeps the letters of its identifier.**

  Writing a word changes the case of its letters, and the small `s` that it adds behind an initialism is
  the one that it took away.  So the words of an identifier, and with them its name, keep all characters
  but the separators (`normalize_keeps_letters`), whatever the initialisms are.
-/
import OvsdbModels.Proofs.Naming

namespace OvsdbModels

open Text

namespace Text

/-! ### Words -/

/-- The words of a text, one after another, are the text without its separators. -/
theorem flatten_words (isSeparator : Char → Bool) (s : List Char) :
    (words isSeparator s).flatten = s.filter fun c => !isSeparator c := by
  rw [words, List.flatten_filter_not_isEmpty, flatten_splitAll]

/-! ### Letter case -/

theorem IsAscii.filter {s : List Char} (h : IsAscii s) (p : Char → Bool) : IsAscii (s.filter p) :=
  h.of_subset List.filter_sublist.subset

theorem toLower_toUpper {c : Char} (h : c.toNat < 128) : c.toUpper.toLower = c.toLower :=
  forall_ascii (p := fun c => c.toUpper.toLower = c.toLower) (by decide) h

theorem toLower_toLower {c : Char} (h : c.toNat < 128) : c.toLower.toLower = c.toLower :=
  forall_ascii (p := fun c => c.toLower.toLower = c.toLower) (by decide) h

theorem map_toLower_map_toLower {s : List Char} (h : IsAscii s) :
    (s.map Char.toLower).map Char.toLower = s.map Char.toLower := by
  rw [List.map_map]
  exact List.map_congr_left fun c hc => toLower_toLower (h c hc)

theorem map_toLower_upperAll {s : List Char} (h : IsAscii s) :
    (upperAll s).map Char.toLower = s.map Char.toLower := by
  rw [upperAll_of_ascii h, List.map_map]
  exact List.map_congr_left fun c hc => toLower_toUpper (h c hc)

theorem map_toLower_titleCase {s : List Char} (h : IsAscii s) :
    (titleCase s).map Char.toLower = s.map Char.toLower := by
  cases s with
  | nil => rfl
  | cons c rest =>
    obtain ⟨hc, hrest⟩ := List.forall_mem_cons.mp h
    rw [titleCase_of_ascii h, List.map_cons, map_toLower_map_toLower hrest, toLower_toUpper hc,
      List.map_cons]

end Text

/-! ### Names -/

namespace Naming

/-- An identifier up to letter case and separators. -/
def letters (ident : String) : List Char :=
  lowerAll (ident.toList.filter fun c => !isSeparator c)

theorem letters_of_ascii {ident : String} (h : IsAscii ident.toList) :
    letters ident = (ident.toList.filter fun c => !isSeparator c).map Char.toLower :=
  lowerAll_of_ascii (h.filter _)

theorem isSeparator_toLower {c : Char} (h : c.toNat < 128) :
    isSeparator c.toLower = isSeparator c :=
  forall_ascii (p := fun c => isSeparator c.toLower = isSeparator c) (by decide) h

/-- Every way of writing a word keeps its letters. -/
theorem map_toLower_word (naming : Naming) {w : List Char} (h : IsAscii w) :
    (naming.word w).map Char.toLower = w.map Char.toLower := by
  unfold word
  split
  · exact map_toLower_upperAll h
  · split
    · rename_i stem hstem
      obtain rfl := singular?_eq_some hstem
      split
      · rw [List.map_append, map_toLower_upperAll (h.of_subset (List.subset_append_left ..)),
          List.map_append]
      · exact map_toLower_titleCase h
    · exact map_toLower_titleCase h

theorem isAscii_words {ident : String} (h : IsAscii ident.toList) :
    ∀ w ∈ words isSeparator (lowerAll ident.toList), IsAscii w := by
  intro w hw c hc
  have hmem := (mem_words hw c hc).1
  rw [lowerAll_of_ascii h] at hmem
  exact h.map (fun _ hd => caseClosed_ascii.lower hd) c hmem

theorem isAscii_normalize (naming : Naming) {ident : String} (h : IsAscii ident.toList) :
    IsAscii (naming.normalize ident).toList :=
  forall_mem_normalize caseClosed_ascii (by decide) naming fun c hc => Or.inl (h c hc)

/-- Separators have no letter case. -/
theorem filter_map_toLower {s : List Char} (h : IsAscii s) :
    (s.map Char.toLower).filter (fun c => !isSeparator c) =
      (s.filter fun c => !isSeparator c).map Char.toLower := by
  rw [List.filter_map]
  congr 1
  apply List.filter_congr
  intro c hc
  rw [Function.comp_apply, isSeparator_toLower (h c hc)]

/-- A name in lower case is its identifier, without letter case and separators. -/
theorem lowerAll_normalize (naming : Naming) {ident : String} (h : IsAscii ident.toList) :
    lowerAll (naming.normalize ident).toList = letters ident := by
  have hwords : (words isSeparator (lowerAll ident.toList)).map
      (List.map Char.toLower ∘ naming.word) =
        (words isSeparator (lowerAll ident.toList)).map (List.map Char.toLower) :=
    List.map_congr_left fun w hw => naming.map_toLower_word (isAscii_words h w hw)
  calc
    lowerAll (naming.normalize ident).toList
    _ = ((words isSeparator (lowerAll ident.toList)).flatMap naming.word).map Char.toLower := by
      rw [lowerAll_of_ascii (isAscii_normalize naming h), normalize, String.toList_ofList]
    _ = (words isSeparator (lowerAll ident.toList)).flatten.map Char.toLower := by
      rw [List.flatMap_def, List.map_flatten, List.map_map, hwords, ← List.map_flatten]
    _ = ((ident.toList.filter fun c => !isSeparator c).map Char.toLower).map Char.toLower := by
      rw [flatten_words, lowerAll_of_ascii h, filter_map_toLower h]
    _ = letters ident := by
      rw [map_toLower_map_toLower (h.filter _), letters_of_ascii h]

theorem not_isSeparator_of_mem_normalize (naming : Naming) {ident : String} (h : IsAscii ident.toList) :
    ∀ c ∈ (naming.normalize ident).toList, isSeparator c = false := by
  intro c hc
  have hascii := isAscii_normalize naming h
  -- the lower case of `c` is that of a letter, and a separator has no letter case
  have hmem : c.toLower ∈ letters ident := by
    rw [← lowerAll_normalize naming h, lowerAll_of_ascii hascii]
    exact List.mem_map_of_mem hc
  rw [letters_of_ascii h] at hmem
  obtain ⟨d, hd, hlower⟩ := List.mem_map.mp hmem
  obtain ⟨hd, hletter⟩ := List.mem_filter.mp hd
  rw [← isSeparator_toLower (hascii c hc), ← hlower, isSeparator_toLower (h d hd)]
  simpa using hletter

theorem normalize_eq_empty_iff (naming : Naming) {ident : String} (h : IsAscii ident.toList) :
    naming.normalize ident = "" ↔ ∀ c ∈ ident.toList, isSeparator c = true := by
  have hlower := lowerAll_normalize naming h
  rw [lowerAll_of_ascii (isAscii_normalize naming h), letters_of_ascii h] at hlower
  rw [← String.toList_eq_nil_iff, ← List.map_eq_nil_iff (f := Char.toLower), hlower,
    List.map_eq_nil_iff, List.filter_eq_nil_iff]
  simp

/-- The name of an identifier is made of the identifier's letters, in their order.  So two columns have
one field name only if they differ in nothing but letter case and separators, and only separators have
an empty name. -/
theorem normalize_keeps_letters (naming : Naming) {ident : String} (h : IsAscii ident.toList) :
    ('_' ∉ (naming.normalize ident).toList ∧ '-' ∉ (naming.normalize ident).toList) ∧
      lowerAll (naming.normalize ident).toList = letters ident ∧
      (∀ other : String, IsAscii other.toList →
        naming.normalize other = naming.normalize ident → letters other = letters ident) ∧
      (naming.normalize ident = "" ↔ ∀ c ∈ ident.toList, c = '_' ∨ c = '-') := by
  have hseparator := not_isSeparator_of_mem_normalize naming h
  refine ⟨⟨?_, ?_⟩, lowerAll_normalize naming h, ?_, ?_⟩
  · intro hmem
    exact absurd (hseparator '_' hmem) (by decide)
  · intro hmem
    exact absurd (hseparator '-' hmem) (by decide)
  · intro other hother hname
    rw [← lowerAll_normalize naming hother, hname, lowerAll_normalize naming h]
  · rw [normalize_eq_empty_iff naming h]
    simp only [isSeparator, Bool.or_eq_true, decide_eq_true_eq]

/-- Two spellings of one name, with the plural of an initialism. -/
theorem keeps_letters_external_ids :
    (IsAscii "external_ids".toList ∧ IsAscii "External-IDS".toList) ∧
      ('_' ∉ (ovsdb.normalize "external_ids").toList ∧
        '-' ∉ (ovsdb.normalize "external_ids").toList) ∧
      lowerAll (ovsdb.normalize "external_ids").toList = letters "external_ids" ∧
      (ovsdb.normalize "External-IDS" = ovsdb.normalize "external_ids" ∧
        letters "External-IDS" = letters "external_ids") ∧
      (ovsdb.normalize "external_ids" = "" ↔ ∀ c ∈ "external_ids".toList, c = '_' ∨ c = '-') := by
  have h : IsAscii "external_ids".toList := by decide
  have hother : IsAscii "External-IDS".toList := by decide
  have hname : ovsdb.normalize "External-IDS" = ovsdb.normalize "external_ids" := by decide
  obtain ⟨hseparators, hlower, hcollision, hempty⟩ := normalize_keeps_letters ovsdb h
  exact ⟨⟨h, hother⟩, hseparators, hlower, ⟨hname, hcollision _ hother hname⟩, hempty⟩

end Naming

end OvsdbModels
