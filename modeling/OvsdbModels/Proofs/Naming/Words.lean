/-
  OvsdbModels/Proofs/Naming/Words.lean
  ====================================
  **A name is written word by word.**

  A separator stops whatever looks beyond a letter: it has no case of its own, and a capital sigma on
  one side of it is lowered as if the text ended there.  So the parts of an identifier are named by
  themselves (`normalize_append_separator`).  A name depends on its identifier in lower case only,
  which makes a second writing of a word change nothing, and the case of a known initialism not matter.
-/
import Mathlib.Data.List.Forall2
import OvsdbModels.Proofs.Naming.Letters

namespace OvsdbModels

open Text

/-! ### Lower case beside a separator -/

namespace Text

/-- Whether a character has no letter case and is not passed over when letters are looked for. -/
def IsCaseStop (c : Char) : Prop :=
  c ≠ 'Σ' ∧ lower c = [c] ∧ isCased c = false ∧ isCaseIgnorable c = false

theorem meetsCased_append {c : Char} (h : IsCaseStop c) (s t : List Char) :
    meetsCased (s ++ c :: t) = meetsCased s := by
  obtain ⟨-, -, hcased, hignorable⟩ := h
  unfold meetsCased
  rw [List.dropWhile_append]
  cases hs : s.dropWhile isCaseIgnorable with
  | nil => simp [hignorable, hcased]
  | cons d rest => simp

/-- What lies before a case stop does not matter behind it. -/
theorem lowerAfter_append {c : Char} (h : IsCaseStop c) (near far s : List Char) :
    lowerAfter (near ++ c :: far) s = lowerAfter near s := by
  induction s generalizing near with
  | nil => rfl
  | cons d s ih => simp only [lowerAfter, meetsCased_append h, ← List.cons_append, ih]

theorem lowerAfter_append_cons {c : Char} (h : IsCaseStop c) (before s t : List Char) :
    lowerAfter before (s ++ c :: t) = lowerAfter before s ++ c :: lowerAll t := by
  induction s generalizing before with
  | nil =>
    have htail : lowerAfter (c :: before) t = lowerAll t := lowerAfter_append h [] before t
    simp [lowerAfter, h.1, h.2.1, htail]
  | cons d s ih =>
    simp only [List.cons_append, lowerAfter, meetsCased_append h, ih, List.append_assoc]

end Text

namespace Naming

theorem isCaseStop_of_isSeparator {c : Char} (h : isSeparator c = true) : IsCaseStop c := by
  have hc : c = '_' ∨ c = '-' := by simpa [isSeparator] using h
  rcases hc with rfl | rfl
  · exact ⟨by decide, rfl, rfl, rfl⟩
  · exact ⟨by decide, rfl, rfl, rfl⟩

/-! ### Names -/

/-- The parts of an identifier on either side of a separator are named by themselves. -/
theorem normalize_append_separator (naming : Naming) (a b : String) {c : Char}
    (h : isSeparator c = true) :
    naming.normalize (a ++ String.singleton c ++ b) = naming.normalize a ++ naming.normalize b := by
  have hlower : lowerAll (a ++ String.singleton c ++ b).toList =
      lowerAll a.toList ++ c :: lowerAll b.toList := by
    have htext : (a ++ String.singleton c ++ b).toList = a.toList ++ c :: b.toList := by simp
    rw [htext]
    exact lowerAfter_append_cons (isCaseStop_of_isSeparator h) [] a.toList b.toList
  rw [normalize, hlower, words_append_cons h, List.flatMap_append, String.ofList_append]
  rfl

theorem normalize_congr (naming : Naming) {a b : String}
    (h : lowerAll a.toList = lowerAll b.toList) : naming.normalize a = naming.normalize b := by
  rw [normalize, h, normalize]

/-- The name of a word is its own name. -/
theorem normalize_normalize (naming : Naming) {w : String} (h : IsAscii w.toList)
    (hw : ∀ c ∈ w.toList, isSeparator c = false) :
    naming.normalize (naming.normalize w) = naming.normalize w := by
  apply normalize_congr
  rw [lowerAll_normalize naming h, letters, List.filter_eq_self.mpr]
  intro c hc
  simp [hw c hc]

/-- An identifier that is one word, in lower case. -/
theorem normalize_of_lowerAll (naming : Naming) {ident : String} {w : List Char}
    (hlower : lowerAll ident.toList = w) (hne : w ≠ []) (hw : ∀ c ∈ w, isSeparator c = false) :
    naming.normalize ident = String.ofList (naming.word w) := by
  have hwords : words isSeparator w = [w] := by
    rw [words, splitAll_eq_singleton hw]
    simp [hne]
  rw [normalize, hlower, hwords, List.flatMap_singleton]

/-! ### Initialisms -/

def isCapital (c : Char) : Bool := c.isUpper || c.isDigit

/-- Whether a text has the form `[A-Z0-9]+`. -/
def IsCapitals (e : String) : Prop := HasForm isCapital isCapital e.toList

instance (e : String) : Decidable (IsCapitals e) := inferInstanceAs (Decidable (HasForm ..))

/-- Whether a text is another one with the case of some of its ASCII letters changed. -/
def IsCasingOf (w e : String) : Prop :=
  List.Forall₂ (fun c d => c = d.toLower ∨ c = d.toUpper) w.toList e.toList

instance (w e : String) : Decidable (IsCasingOf w e) := inferInstanceAs (Decidable (List.Forall₂ ..))

theorem ascii_of_isCapital {c : Char} (h : isCapital c = true) : c.toNat < 128 := by
  apply ascii_of_isAlphanum
  rcases (Bool.or_eq_true _ _).mp h with h | h
  · show (c.isUpper || c.isLower || c.isDigit) = true
    simp [h]
  · simp [Char.isAlphanum, h]

/-- A capital in lower case is a letter of a word, and its upper case is the capital again. -/
theorem toLower_of_isCapital {c : Char} (h : isCapital c = true) :
    isSeparator c.toLower = false ∧ c.toLower.toNat < 128 ∧ c.toLower.toUpper = c :=
  forall_ascii (p := fun c => isCapital c = true →
    isSeparator c.toLower = false ∧ c.toLower.toNat < 128 ∧ c.toLower.toUpper = c) (by decide)
    (ascii_of_isCapital h) h

namespace IsCapitals

variable {e : String}

theorem isCapital (h : IsCapitals e) : ∀ c ∈ e.toList, isCapital c = true :=
  h.forall_mem fun _ hc => hc

theorem isAscii (h : IsCapitals e) : IsAscii e.toList :=
  fun c hc => ascii_of_isCapital (h.isCapital c hc)

theorem ne_nil (h : IsCapitals e) : e.toList ≠ [] := by
  obtain ⟨c, rest, he, -⟩ := h.exists_cons
  simp [he]

/-- A text in lower case is written in capitals again. -/
theorem upperAll_map_toLower (h : IsCapitals e) :
    upperAll (e.toList.map Char.toLower) = e.toList := by
  rw [upperAll_of_ascii (h.isAscii.map fun _ hc => caseClosed_ascii.lower hc), List.map_map]
  conv_rhs => rw [← List.map_id e.toList]
  apply List.map_congr_left
  intro c hc
  exact (toLower_of_isCapital (h.isCapital c hc)).2.2

theorem not_isSeparator (h : IsCapitals e) :
    ∀ c ∈ e.toList.map Char.toLower, isSeparator c = false := by
  intro c hc
  obtain ⟨d, hd, rfl⟩ := List.mem_map.mp hc
  exact (toLower_of_isCapital (h.isCapital d hd)).1

end IsCapitals

theorem IsCasingOf.lowerAll_eq {w e : String} (h : IsCasingOf w e) (he : IsAscii e.toList) :
    lowerAll w.toList = e.toList.map Char.toLower := by
  unfold IsCasingOf at h
  have hcases : IsAscii w.toList ∧ w.toList.map Char.toLower = e.toList.map Char.toLower := by
    generalize w.toList = s at h
    generalize e.toList = t at h he
    induction h with
    | nil => exact ⟨he, rfl⟩
    | @cons c d s t hc _ ih =>
      obtain ⟨hd, ht⟩ := List.forall_mem_cons.mp he
      obtain ⟨hs, hmap⟩ := ih ht
      rcases hc with rfl | rfl
      · exact ⟨hs.cons (caseClosed_ascii.lower hd), by simp [toLower_toLower hd, hmap]⟩
      · exact ⟨hs.cons (caseClosed_ascii.upper hd), by simp [toLower_toUpper hd, hmap]⟩
  rw [lowerAll_of_ascii hcases.1, hcases.2]

theorem word_of_mem {naming : Naming} {e : String} (he : e ∈ naming.initialisms) {w : List Char}
    (hw : upperAll w = e.toList) : naming.word w = e.toList := by
  have hknown : naming.isInitialism e = true := List.contains_iff_mem.mpr he
  rw [word, hw, String.ofList_toList, if_pos hknown]

/-- A known initialism is written as it is listed, in whatever case it stands. -/
theorem normalize_initialism {naming : Naming} {e w : String} (he : e ∈ naming.initialisms)
    (hcapitals : IsCapitals e) (hlower : lowerAll w.toList = e.toList.map Char.toLower) :
    naming.normalize w = e := by
  rw [normalize_of_lowerAll naming hlower (by simp [hcapitals.ne_nil]) hcapitals.not_isSeparator,
    word_of_mem he hcapitals.upperAll_map_toLower, String.ofList_toList]

/-- The plural of an initialism has a small `s`, unless it is an initialism of its own. -/
theorem word_plural {naming : Naming} {e : String} (he : e ∈ naming.initialisms)
    (hcapitals : IsCapitals e) (hplural : e ++ "S" ∉ naming.initialisms) :
    naming.word (e.toList.map Char.toLower ++ ['s']) = e.toList ++ ['s'] := by
  have hupper := hcapitals.upperAll_map_toLower
  have hupperPlural : String.ofList (upperAll (e.toList.map Char.toLower ++ ['s'])) = e ++ "S" := by
    unfold upperAll at hupper ⊢
    rw [List.flatMap_append, hupper, String.ofList_append, String.ofList_toList]
    rfl
  have hstem : singular? (e.toList.map Char.toLower ++ ['s']) = some (e.toList.map Char.toLower) := by
    simp [singular?]
  have hunknown : naming.isInitialism (e ++ "S") = false := by simpa [isInitialism] using hplural
  have hknown : naming.isInitialism e = true := List.contains_iff_mem.mpr he
  simp [word, hupperPlural, hunknown, hstem, hupper, hknown]

theorem normalize_plural {naming : Naming} {e w : String} (he : e ∈ naming.initialisms)
    (hcapitals : IsCapitals e) (hplural : e ++ "S" ∉ naming.initialisms)
    (hlower : lowerAll w.toList = e.toList.map Char.toLower ++ ['s']) :
    naming.normalize w = e ++ "s" := by
  have hseparator : ∀ c ∈ e.toList.map Char.toLower ++ ['s'], isSeparator c = false := by
    intro c hc
    rcases List.mem_append.mp hc with hc | hc
    · exact hcapitals.not_isSeparator c hc
    · obtain rfl := List.mem_singleton.mp hc
      rfl
  rw [normalize_of_lowerAll naming hlower (by simp) hseparator, word_plural he hcapitals hplural,
    String.ofList_append, String.ofList_toList]

/-- Names are written word by word, a word's name is its own name, and a known initialism and its
plural are written in capitals whatever their case is. -/
theorem normalize_by_words {naming : Naming} (hcapitals : ∀ e ∈ naming.initialisms, IsCapitals e) :
    (∀ (a b : String) (c : Char), c = '_' ∨ c = '-' →
      naming.normalize (a ++ String.singleton c ++ b) = naming.normalize a ++ naming.normalize b) ∧
    (∀ w : String, IsAscii w.toList → '_' ∉ w.toList → '-' ∉ w.toList →
      naming.normalize (naming.normalize w) = naming.normalize w) ∧
    ∀ e ∈ naming.initialisms,
      (∀ w, IsCasingOf w e → naming.normalize w = e) ∧
      ∀ w, IsCasingOf w (e ++ "s") →
        naming.normalize w = if e ++ "S" ∈ naming.initialisms then e ++ "S" else e ++ "s" := by
  refine ⟨?_, ?_, fun e he => ⟨?_, ?_⟩⟩
  · intro a b c hc
    apply normalize_append_separator
    rcases hc with rfl | rfl <;> rfl
  · intro w hascii hunderscore hhyphen
    apply normalize_normalize naming hascii
    intro c hc
    have hne : c ≠ '_' ∧ c ≠ '-' := ⟨fun h => hunderscore (h ▸ hc), fun h => hhyphen (h ▸ hc)⟩
    simp [isSeparator, hne]
  · intro w hw
    exact normalize_initialism he (hcapitals e he) (hw.lowerAll_eq (hcapitals e he).isAscii)
  · intro w hw
    have hascii : IsAscii (e ++ "s").toList := by
      simpa using (hcapitals e he).isAscii.append (t := ['s']) (by decide)
    have hlower : lowerAll w.toList = e.toList.map Char.toLower ++ ['s'] := by
      simpa using hw.lowerAll_eq hascii
    by_cases hplural : e ++ "S" ∈ naming.initialisms
    · rw [if_pos hplural]
      -- the plural in lower case is also the lower case of the longer initialism
      exact normalize_initialism hplural (hcapitals _ hplural) (by simpa using hlower)
    · rw [if_neg hplural]
      exact normalize_plural he (hcapitals e he) hplural hlower

/-- Initialisms of which one is the plural of another, and one ends in the plural's letter. -/
theorem by_words_acls :
    (∀ e ∈ ["ACL", "ACLS", "DNS"], IsCapitals e) ∧
      (Naming.mk ["ACL", "ACLS", "DNS"]).normalize ("my_" ++ String.singleton '-' ++ "dnss") =
        (Naming.mk ["ACL", "ACLS", "DNS"]).normalize "my_" ++
          (Naming.mk ["ACL", "ACLS", "DNS"]).normalize "dnss" ∧
      (IsAscii "Dnss".toList ∧ '_' ∉ "Dnss".toList ∧ '-' ∉ "Dnss".toList ∧
        (Naming.mk ["ACL", "ACLS", "DNS"]).normalize
          ((Naming.mk ["ACL", "ACLS", "DNS"]).normalize "Dnss") =
            (Naming.mk ["ACL", "ACLS", "DNS"]).normalize "Dnss") ∧
      (IsCasingOf "dNs" "DNS" ∧ (Naming.mk ["ACL", "ACLS", "DNS"]).normalize "dNs" = "DNS") ∧
      (IsCasingOf "DnSS" ("DNS" ++ "s") ∧
        (Naming.mk ["ACL", "ACLS", "DNS"]).normalize "DnSS" = "DNSs") ∧
      (IsCasingOf "Acls" ("ACL" ++ "s") ∧
        (Naming.mk ["ACL", "ACLS", "DNS"]).normalize "Acls" = "ACLS") := by
  have hcapitals : ∀ e ∈ (Naming.mk ["ACL", "ACLS", "DNS"]).initialisms, IsCapitals e := by decide
  have hascii : IsAscii "Dnss".toList ∧ '_' ∉ "Dnss".toList ∧ '-' ∉ "Dnss".toList := by decide
  have hdns : IsCasingOf "dNs" "DNS" := by decide
  have hdnss : IsCasingOf "DnSS" ("DNS" ++ "s") := by decide
  have hacls : IsCasingOf "Acls" ("ACL" ++ "s") := by decide
  obtain ⟨hparts, honce, hknown⟩ := normalize_by_words hcapitals
  refine ⟨hcapitals, hparts _ _ _ (by decide), ⟨hascii.1, hascii.2.1, hascii.2.2, ?_⟩,
    ⟨hdns, (hknown "DNS" (by decide)).1 _ hdns⟩, ⟨hdnss, ?_⟩, ⟨hacls, ?_⟩⟩
  · exact honce _ hascii.1 hascii.2.1 hascii.2.2
  · exact (hknown "DNS" (by decide)).2 _ hdnss
  · exact (hknown "ACL" (by decide)).2 _ hacls

end Naming

end OvsdbModels
