/-
  OvsdbModels/Proofs/Json/Quotes.lean
  ===================================
  **Quotes in documents.**

  Before an opening quote and behind a closing one there is punctuation or white space, and a quote
  within a string has a backslash before it.  So no quote of a document stands between two word
  characters (`loose_of_isDocument`), and two occurrences of a quoted word never share a quote.
-/
import OvsdbModels.Proofs.Json.Container
import OvsdbModels.Proofs.Text.Form

namespace OvsdbModels.Json

open Text (isWordChar)

/-- Whether no double quote of a text stands between two word characters. -/
def Loose (s : List Char) : Prop :=
  ∀ before after, s = before ++ '"' :: after →
    (∀ c, before.getLast? = some c → isWordChar c = false) ∨
      ∀ c, after.head? = some c → isWordChar c = false

/-- Whether a character neither belongs to a word nor quotes one. -/
def Separates (c : Char) : Prop := isWordChar c = false ∧ c ≠ '"'

instance (c : Char) : Decidable (Separates c) := inferInstanceAs (Decidable (_ ∧ _))

namespace Loose

variable {s t : List Char}

theorem of_notMem (h : '"' ∉ s) : Loose s := by
  rintro before after rfl
  exact absurd (List.mem_append_right _ List.mem_cons_self) h

theorem of_append_right (h : Loose (s ++ t)) : Loose t := by
  rintro before after rfl
  rcases h (s ++ before) after (List.append_assoc ..).symm with hbefore | hafter
  · left
    intro c hc
    apply hbefore
    rw [List.getLast?_append, hc]
    rfl
  · exact Or.inr hafter

/-- Texts on both sides of a separator do not touch. -/
theorem append_cons {c : Char} (hs : Loose s) (hc : Separates c) (ht : Loose t) :
    Loose (s ++ c :: t) := by
  intro before after heq
  rcases List.append_eq_append_iff.mp heq with ⟨between, rfl, hright⟩ | ⟨between, rfl, hleft⟩
  · -- the quote is `c` or behind it
    cases between with
    | nil => exact absurd (List.cons.inj hright).1 hc.2
    | cons d between =>
      obtain ⟨rfl, hrest⟩ := List.cons.inj hright
      rcases ht between after hrest with hbefore | hafter
      · left
        intro d hd
        rw [List.getLast?_append, List.getLast?_cons] at hd
        obtain rfl := Option.some.inj hd
        cases hlast : between.getLast? with
        | none => exact hc.1
        | some e => exact hbefore e hlast
      · exact Or.inr hafter
  · cases between with
    | nil => exact absurd (List.cons.inj hleft).1.symm hc.2
    | cons d between =>
      obtain ⟨rfl, rfl⟩ := List.cons.inj hleft
      rcases hs before between rfl with hbefore | hafter
      · exact Or.inl hbefore
      · right
        intro e he
        cases between with
        | nil =>
          obtain rfl := Option.some.inj he
          exact hc.1
        | cons d between => exact hafter e he

theorem cons {c : Char} (hc : Separates c) (ht : Loose t) : Loose (c :: t) :=
  append_cons (s := []) (of_notMem List.not_mem_nil) hc ht

theorem append (hs : Loose s) (ht : Loose t) (hhead : ∀ c, t.head? = some c → Separates c) :
    Loose (s ++ t) := by
  cases t with
  | nil => rwa [List.append_nil]
  | cons c t => exact hs.append_cons (hhead c rfl) (of_append_right (s := [c]) ht)

end Loose

/-! ### White space and leads -/

theorem separates_of_isSpace {c : Char} (h : isSpace c = true) : Separates c := by
  simp only [isSpace, Bool.or_eq_true, decide_eq_true_iff] at h
  rcases h with ((rfl | rfl) | rfl) | rfl <;> decide

theorem IsBlank.loose_append {blank t : List Char} (h : IsBlank blank) (ht : Loose t) :
    Loose (blank ++ t) := by
  induction blank with
  | nil => exact ht
  | cons c blank ih =>
    obtain ⟨hc, hblank⟩ := List.forall_mem_cons.mp h
    exact (ih hblank).cons (separates_of_isSpace hc)

theorem IsBlank.head_append {blank t : List Char} (h : IsBlank blank)
    (ht : ∀ c, t.head? = some c → Separates c) : ∀ c, (blank ++ t).head? = some c → Separates c := by
  cases blank with
  | nil => exact ht
  | cons c blank =>
    rintro _ ⟨⟩
    exact separates_of_isSpace (h c List.mem_cons_self)

theorem IsBlank.loose {blank : List Char} (h : IsBlank blank) : Loose blank := by
  have happend := h.loose_append (.of_notMem List.not_mem_nil)
  rwa [List.append_nil] at happend

theorem IsBlank.head_separates {blank : List Char} (h : IsBlank blank) :
    ∀ c, blank.head? = some c → Separates c := by
  have happend := h.head_append (t := []) nofun
  rwa [List.append_nil] at happend

theorem Lead.loose_append {first : Bool} {lead t : List Char} (h : Lead first lead) (ht : Loose t) :
    Loose (lead ++ t) := by
  cases h with
  | first hblank => exact hblank.loose_append ht
  | later hblank hblank' =>
    rw [List.append_assoc]
    exact hblank.loose_append ((hblank'.loose_append ht).cons (by decide))

/-! ### Strings and numbers -/

theorem quote_notMem_of_hexNumber? {digits : List Char} {n : Nat}
    (h : Text.hexNumber? digits = some n) : '"' ∉ digits := by
  unfold Text.hexNumber? at h
  generalize 0 = start at h
  induction digits generalizing start with
  | nil => exact List.not_mem_nil
  | cons c digits ih =>
    rw [List.foldlM_cons] at h
    obtain ⟨next, hstep, hrest⟩ := Option.bind_eq_some_iff.mp h
    obtain ⟨digit, hdigit, -⟩ := Option.map_eq_some_iff.mp hstep
    rw [List.mem_cons]
    rintro (rfl | hmem)
    · have hnone : Text.hexValue? '"' = none := by decide
      rw [hnone] at hdigit
      exact nomatch hdigit
    · exact ih next hrest hmem

theorem Symbol.backslash_of_text {symbol : Symbol} {before after : List Char}
    (h : symbol.text = before ++ '"' :: after) : before = ['\\'] := by
  cases symbol with
  | plain c hc =>
    cases before with
    | nil => exact absurd (List.cons.inj h).1 hc.2.1
    | cons d before => simp [text] at h
  | short letter value hshort =>
    cases before with
    | nil => simp [text] at h
    | cons d before =>
      cases before with
      | nil =>
        obtain ⟨rfl, -⟩ := List.cons.inj h
        rfl
      | cons e before => simp [text] at h
  | unit digits n hlength hdigits =>
    have hmem : '"' ∈ (unit digits n hlength hdigits).text := by
      rw [h]
      exact List.mem_append_right _ List.mem_cons_self
    simp [text, quote_notMem_of_hexNumber? hdigits] at hmem

/-- A quote in a string has a backslash before it. -/
theorem backslash_of_symbolsText {s : List Symbol} {before after : List Char}
    (h : symbolsText s = before ++ '"' :: after) : before.getLast? = some '\\' := by
  induction s generalizing before with
  | nil => simp [symbolsText] at h
  | cons symbol s ih =>
    have hcons : symbol.text ++ symbolsText s = before ++ '"' :: after := h
    rcases List.append_eq_append_iff.mp hcons with ⟨between, rfl, hright⟩ | ⟨between, htext, hleft⟩
    · rw [List.getLast?_append, ih hright]
      rfl
    · cases between with
      | nil =>
        have hfirst : ([] : List Char).getLast? = some '\\' := ih hleft.symm
        exact nomatch hfirst
      | cons c between =>
        obtain ⟨rfl, -⟩ := List.cons.inj hleft
        rw [symbol.backslash_of_text htext]
        rfl

theorem loose_quotedText (s : List Symbol) : Loose (quotedText s) := by
  intro before after heq
  cases before with
  | nil => exact Or.inl nofun
  | cons c before =>
    obtain ⟨rfl, hinside⟩ := List.cons.inj (heq : '"' :: (symbolsText s ++ ['"']) = _)
    rcases List.append_eq_append_iff.mp hinside with
      ⟨between, rfl, hright⟩ | ⟨between, hleft, hright⟩
    · cases between with
      | nil =>
        obtain ⟨-, rfl⟩ := List.cons.inj hright
        exact Or.inr nofun
      | cons d between => simp at hright
    · cases between with
      | nil =>
        obtain ⟨-, rfl⟩ := List.cons.inj hright
        exact Or.inr nofun
      | cons d between =>
        obtain ⟨rfl, -⟩ := List.cons.inj hright
        left
        intro c hc
        rw [List.getLast?_cons, backslash_of_symbolsText hleft] at hc
        obtain rfl := Option.some.inj hc
        decide

theorem quote_notMem_numeral (n : Numeral) : '"' ∉ n.text := by
  have hrun (digits : DigitRun) : '"' ∉ digits.text := by
    intro hmem
    exact absurd (digits.digits '"' hmem) (by decide)
  have hfraction : '"' ∉ fractionText n.fraction := by
    cases n.fraction with
    | none => exact List.not_mem_nil
    | some digits => simp [fractionText, hrun digits]
  have hexponent : '"' ∉ exponentText n.exponent := by
    cases n.exponent with
    | none => exact List.not_mem_nil
    | some e =>
      have hsign : '"' ∉ signText e.sign := by
        cases e.sign with
        | none => exact List.not_mem_nil
        | some minus => cases minus <;> decide
      have hletter : '"' ≠ if e.upper then 'E' else 'e' := by
        cases e.upper <;> decide
      simp [exponentText, hletter, hsign, hrun e.digits]
  have hminus : '"' ∉ if n.negative then ['-'] else [] := by
    cases n.negative <;> decide
  simp [Numeral.text, hminus, hrun n.whole, hfraction, hexponent]

/-! ### Trees -/

theorem Listed.loose {α : Type} {Item : α → List Char → Prop} {items : List α}
    (hitem : ∀ a ∈ items, ∀ text, Item a text → Loose text) {first : Bool} {body : List Char}
    (h : Listed Item first items body) :
    Loose body ∧ (first = false → ∀ c, body.head? = some c → Separates c) := by
  induction h with
  | done hblank => exact ⟨hblank.loose, fun _ => hblank.head_separates⟩
  | item hlead htext hrest ih =>
    obtain ⟨ha, hitems⟩ := List.forall_mem_cons.mp hitem
    obtain ⟨hloose, hhead⟩ := ih hitems
    refine ⟨hlead.loose_append ((ha _ htext).append hloose (hhead rfl)), ?_⟩
    rintro rfl
    cases hlead with
    | later hblank hblank' =>
      rw [List.append_assoc]
      apply hblank.head_append
      rintro _ ⟨⟩
      decide

theorem SpellsMember.loose {m : List Symbol × Tree} {text : List Char}
    (hvalue : ∀ text, Spells m.2 text → Loose text) (h : SpellsMember Spells m text) :
    Loose text := by
  cases h with
  | mk hblank hblank' htext =>
    have hrest := (hblank'.loose_append (hvalue _ htext)).cons (c := ':') (by decide)
    apply (loose_quotedText _).append (hblank.loose_append hrest)
    apply hblank.head_append
    rintro _ ⟨⟩
    decide

theorem Spells.loose {t : Tree} {text : List Char} (h : Spells t text) : Loose text := by
  induction t using Tree.induct generalizing text with
  | null =>
    cases h
    exact .of_notMem (by decide)
  | boolean b =>
    cases h with
    | boolTrue => exact .of_notMem (by decide)
    | boolFalse => exact .of_notMem (by decide)
  | number n =>
    cases h
    exact .of_notMem (quote_notMem_numeral n)
  | string s =>
    cases h
    exact loose_quotedText s
  | array items ih =>
    cases h with
    | array hitems =>
      have hbody := (hitems.loose fun t ht text htext => ih t ht htext).1
      exact (hbody.append_cons (by decide) (.of_notMem List.not_mem_nil)).cons (by decide)
  | object members ih =>
    cases h with
    | object hmembers =>
      have hbody := (hmembers.loose fun m hm text htext =>
        htext.loose fun text hvalue => ih m hm hvalue).1
      exact (hbody.append_cons (by decide) (.of_notMem List.not_mem_nil)).cons (by decide)

theorem loose_of_isDocument {t : Tree} {source : List Char} (h : IsDocument t source) :
    Loose source := by
  cases h with
  | mk hblank htext hblank' =>
    apply hblank.loose_append
    exact htext.loose.append hblank'.loose hblank'.head_separates

end OvsdbModels.Json
