/-
  OvsdbModels/Proofs/Schema/KeySpan.lean
  ======================================
  **Which key a search by text finds.**

  A chain of keys is a sequence of keys in a text, each of them behind the one before (`Chain`).
  Where no quote stands between two word characters, two occurrences of a quoted identifier do not
  overlap, so the search passes over no key.  Taking the first key each time leaves the most room for
  the others: the search ends where the first chain of its path ends (`keySpan?_eq_some_iff`).
-/
import Mathlib.Data.List.Basic
import Mathlib.Tactic.ByContra
import OvsdbModels.Proofs.Json.Quotes
import OvsdbModels.Proofs.Json.Text
import OvsdbModels.Schema.KeySpan

namespace OvsdbModels

open Json (Loose byteCount byteCount_append)
open Text (IsIdentifier Span)

/-! ### Keys and chains of keys -/

/-- A name between double quotes. -/
def quotedName (key : String) : List Char := '"' :: (key.toList ++ ['"'])

/-- Of two ways to divide a text, the one with the shorter front has the longer rest. -/
theorem exists_between {a b c d : List Char} (h : a ++ b = c ++ d) (hle : a.length ≤ c.length) :
    ∃ between, c = a ++ between ∧ b = between ++ d := by
  have hprefix : c <+: a ++ b := h ▸ List.prefix_append c d
  obtain ⟨between, rfl⟩ := List.prefix_of_prefix_length_le (List.prefix_append a b) hprefix hle
  rw [List.append_assoc] at h
  exact ⟨between, rfl, List.append_cancel_left h⟩

theorem beginsWithColon_append {s : List Char} (h : beginsWithColon s = true) (t : List Char) :
    beginsWithColon (s ++ t) = true := by
  unfold beginsWithColon at h ⊢
  split at h
  · rename_i rest hrest
    rw [Text.trimFront_append hrest]
    rfl
  · exact nomatch h

/-- A colon may have white space in front of it. -/
theorem beginsWithColon_of_isBlank {blank : List Char} (h : Json.IsBlank blank) (rest : List Char) :
    beginsWithColon (blank ++ ':' :: rest) = true := by
  have hblank : ∀ c ∈ blank, Text.isBlank c = true := by
    intro c hc
    have hspace := h c hc
    simp only [Json.isSpace, Bool.or_eq_true, decide_eq_true_iff] at hspace
    rcases hspace with ((rfl | rfl) | rfl) | rfl <;> decide
  have hcolon : Text.isBlank ':' = false := by decide
  rw [beginsWithColon, Text.trimFront_blanks_append hblank, Text.trimFront_cons hcolon]
  rfl

/-- A key of a text: what stands before it and what stands behind it. -/
structure KeyAt (key : String) (s before after : List Char) : Prop where
  text : s = before ++ (quotedName key ++ after)
  colon : beginsWithColon after = true

/-- Keys that follow each other in a text without sharing a quote; `before` is the text before the last
of them. -/
inductive Chain : List String → (s before : List Char) → Prop where
  | last {key : String} {s before after : List Char} (h : KeyAt key s before after) :
      Chain [key] s before
  | step {key : String} {path : List String} {s before after before' : List Char}
      (h : KeyAt key s before after) (hrest : Chain path after before') :
      Chain (key :: path) s (before ++ (quotedName key ++ before'))

/-- The chain of a path that ends first. -/
structure FirstChain (path : List String) (s before : List Char) : Prop where
  chain : Chain path s before
  first : ∀ before', Chain path s before' → before.length ≤ before'.length

namespace KeyAt

variable {key : String} {s t before after : List Char}

theorem shift (h : KeyAt key t before after) (s : List Char) :
    KeyAt key (s ++ t) (s ++ before) after where
  text := by rw [h.text, List.append_assoc]
  colon := h.colon

/-- A key that does not begin within the first part of a text is a key of the second. -/
theorem of_append (h : KeyAt key (s ++ t) before after) (hle : s.length ≤ before.length) :
    ∃ before', before = s ++ before' ∧ KeyAt key t before' after := by
  obtain ⟨between, rfl, ht⟩ := exists_between h.text hle
  exact ⟨between, rfl, ht, h.colon⟩

theorem append_right (h : KeyAt key t before after) (s : List Char) :
    KeyAt key (t ++ s) before (after ++ s) where
  text := by rw [h.text, List.append_assoc, List.append_assoc]
  colon := beginsWithColon_append h.colon s

end KeyAt

namespace Chain

variable {path : List String} {s t before : List Char}

theorem shift (h : Chain path t before) (s : List Char) : Chain path (s ++ t) (s ++ before) := by
  cases h with
  | last h => exact .last (h.shift s)
  | step h hrest =>
    rw [← List.append_assoc]
    exact .step (h.shift s) hrest

theorem append_right (h : Chain path s before) (t : List Char) : Chain path (s ++ t) before := by
  induction h with
  | last h => exact .last (h.append_right t)
  | step h _ ih => exact .step (h.append_right t) ih

theorem exists_step {key : String} (h : Chain (key :: path) s before) (hpath : path ≠ []) :
    ∃ ahead after behind, KeyAt key s ahead after ∧ Chain path after behind ∧
      before = ahead ++ (quotedName key ++ behind) := by
  cases h with
  | last => exact absurd rfl hpath
  | step h hrest => exact ⟨_, _, _, h, hrest, rfl⟩

/-- Keys before the last one may be left out of a chain. -/
theorem sublist {path' : List String} (hpath : path'.Sublist path) {key : String}
    (h : Chain (path ++ [key]) s before) : Chain (path' ++ [key]) s before := by
  induction hpath generalizing s before with
  | slnil => exact h
  | cons name _ ih =>
    obtain ⟨ahead, after, behind, hkey, hrest, rfl⟩ := h.exists_step (by simp)
    rw [hkey.text, ← List.append_assoc, ← List.append_assoc]
    exact (ih hrest).shift _
  | cons_cons name _ ih =>
    obtain ⟨ahead, after, behind, hkey, hrest, rfl⟩ := h.exists_step (by simp)
    exact .step hkey (ih hrest)

/-- A chain ends at a key. -/
theorem exists_keyAt {key : String} (h : Chain path s before) (hlast : path.getLast? = some key) :
    ∃ after, KeyAt key s before after := by
  induction h with
  | @last name _ _ _ h =>
    obtain rfl : name = key := Option.some.inj hlast
    exact ⟨_, h⟩
  | @step name path _ _ _ _ h hrest ih =>
    have hpath : path.getLast? = some key := by
      cases hrest with
      | last => exact hlast
      | step => rwa [List.getLast?_cons_cons] at hlast
    obtain ⟨after, hkey⟩ := ih hpath
    rw [h.text, ← List.append_assoc, ← List.append_assoc]
    exact ⟨after, hkey.shift _⟩

theorem exists_append (h : Chain path s before) : ∃ rest, s = before ++ rest := by
  induction h with
  | last h => exact ⟨_, h.text⟩
  | step h hrest ih =>
    obtain ⟨rest, hafter⟩ := ih
    refine ⟨rest, ?_⟩
    rw [h.text, hafter]
    simp only [List.append_assoc]

end Chain

/-! ### The search for one key -/

/-- What a search from the byte `here` on finds: the first key, or nothing if there is none. -/
inductive FoundKey (key : String) (here : Nat) (s : List Char) : Option (Nat × List Char) → Prop where
  | first {before after : List Char} (h : KeyAt key s before after)
      (hfirst : ∀ before' after', KeyAt key s before' after' → before.length ≤ before'.length) :
      FoundKey key here s (some (here + byteCount before, after))
  | absent (h : ∀ before after, ¬ KeyAt key s before after) : FoundKey key here s none

theorem findKeyFrom_skip (quotedKey : List Char) (here skip : Nat) (s : List Char) :
    findKeyFrom quotedKey here skip s =
      findKeyFrom quotedKey (here + byteCount (s.take skip)) 0 (s.drop skip) := by
  induction s generalizing here skip with
  | nil => simp [findKeyFrom]
  | cons c rest ih =>
    cases skip with
    | zero => rfl
    | succ skip =>
      rw [findKeyFrom, ih, List.take_succ_cons, List.drop_succ_cons, byteCount, Nat.add_assoc]

variable {key : String}

/-- An occurrence of the quoted name ends the search or is passed over as a whole. -/
theorem findKeyFrom_quotedName (here : Nat) (after : List Char) :
    findKeyFrom (quotedName key) here 0 (quotedName key ++ after) =
      if beginsWithColon after then some (here, after)
      else findKeyFrom (quotedName key) (here + byteCount (quotedName key)) 0 after := by
  have hprefix : (quotedName key).isPrefixOf? ('"' :: ((key.toList ++ ['"']) ++ after)) = some after :=
    List.isPrefixOf?_eq_some_iff_append_eq.mpr rfl
  have hlength : (quotedName key).length - 1 = (key.toList ++ ['"']).length := rfl
  have htext : quotedName key ++ after = '"' :: ((key.toList ++ ['"']) ++ after) := rfl
  have hbytes : byteCount (quotedName key) = '"'.utf8Size + byteCount (key.toList ++ ['"']) := rfl
  rw [htext, findKeyFrom, hprefix]
  dsimp only
  rw [findKeyFrom_skip, hlength, List.take_left, List.drop_left, Nat.add_assoc, hbytes]

theorem quote_notMem (h : IsIdentifier key) : '"' ∉ key.toList := by
  intro hmem
  exact absurd (h.isWordChar '"' hmem) (by decide)

theorem quotedName_append (key : String) (after : List Char) :
    quotedName key ++ after = ('"' :: key.toList) ++ '"' :: after := by
  rw [quotedName, ← List.cons_append, List.append_assoc, List.singleton_append]

/-- Two occurrences of a quoted identifier do not share a quote. -/
theorem not_loose_of_shared {after : List Char} (hkey : IsIdentifier key) :
    ¬ Loose (quotedName key ++ (key.toList ++ '"' :: after)) := by
  intro hloose
  obtain ⟨c, rest, hchars, -, -⟩ := Text.HasForm.exists_cons hkey
  have hnot : ∀ d ∈ key.toList, Text.isWordChar d ≠ false := by
    intro d hd hnot
    rw [hkey.isWordChar d hd] at hnot
    exact nomatch hnot
  rcases hloose _ _ (quotedName_append key _) with hlast | hhead
  · have hmem : (c :: rest).getLast (List.cons_ne_nil c rest) ∈ key.toList := by
      rw [hchars]
      exact List.getLast_mem _
    apply hnot _ hmem
    apply hlast
    rw [hchars, List.getLast?_cons_cons, List.getLast?_eq_some_getLast]
  · have hmem : c ∈ key.toList := by
      rw [hchars]
      exact List.mem_cons_self
    apply hnot _ hmem
    apply hhead
    rw [hchars]
    rfl

/-- Of two occurrences of a quoted identifier the later one begins behind the earlier one. -/
theorem length_quotedName_le {after before' after' : List Char} (hkey : IsIdentifier key)
    (hloose : Loose (quotedName key ++ after)) (h : KeyAt key (quotedName key ++ after) before' after')
    (hne : before' ≠ []) : (quotedName key).length ≤ before'.length := by
  have htext := h.text
  rw [quotedName_append] at htext
  by_contra hlt
  have hlength : before'.length ≤ ('"' :: key.toList).length := by
    simp only [quotedName, List.length_cons, List.length_append, List.length_nil] at hlt ⊢
    omega
  obtain ⟨between, hfront, hrest⟩ := exists_between htext.symm hlength
  -- the later occurrence begins with a quote of the earlier one: the first, or the second
  cases between with
  | nil =>
    rw [List.append_nil] at hfront
    subst hfront
    have hshared : after = key.toList ++ '"' :: after' := by
      rw [quotedName_append] at hrest
      exact (List.cons.inj hrest).2.symm
    rw [hshared] at hloose
    exact not_loose_of_shared hkey hloose
  | cons c between =>
    obtain ⟨rfl, -⟩ := List.cons.inj hrest
    cases before' with
    | nil => exact hne rfl
    | cons d before' =>
      have hmem : '"' ∈ key.toList := by
        rw [(List.cons.inj hfront).2]
        exact List.mem_append_right _ List.mem_cons_self
      exact quote_notMem hkey hmem

/-- A search may go on behind a part of the text in which no key begins. -/
theorem FoundKey.shift {here : Nat} {s t : List Char} {found : Option (Nat × List Char)}
    (hnone : ∀ before after, KeyAt key (s ++ t) before after → s.length ≤ before.length)
    (h : FoundKey key (here + byteCount s) t found) : FoundKey key here (s ++ t) found := by
  cases h with
  | first hkey hfirst =>
    rw [Nat.add_assoc, ← byteCount_append]
    refine .first (hkey.shift s) ?_
    intro before' after' hkey'
    obtain ⟨before'', rfl, hkey''⟩ := hkey'.of_append (hnone _ _ hkey')
    have hle := hfirst _ _ hkey''
    simp only [List.length_append]
    omega
  | absent h =>
    refine .absent ?_
    intro before after hkey
    obtain ⟨before', -, hkey'⟩ := hkey.of_append (hnone _ _ hkey)
    exact h _ _ hkey'

theorem foundKey_findKeyFrom (hkey : IsIdentifier key) {s : List Char} (hloose : Loose s)
    (here : Nat) :
    FoundKey key here s (findKeyFrom (quotedName key) here 0 s) := by
  induction hn : s.length using Nat.strongRecOn generalizing s here with
  | _ n ih =>
    subst hn
    by_cases hoccurs : ∃ after, s = quotedName key ++ after
    · obtain ⟨after, rfl⟩ := hoccurs
      rw [findKeyFrom_quotedName]
      split
      · rename_i hcolon
        have hkeyAt : KeyAt key (quotedName key ++ after) [] after := ⟨rfl, hcolon⟩
        exact .first hkeyAt fun _ _ _ => Nat.zero_le _
      · rename_i hcolon
        have hlength : after.length < (quotedName key ++ after).length := by
          simp only [quotedName, List.length_append, List.length_cons]
          omega
        refine FoundKey.shift ?_ (ih _ hlength hloose.of_append_right _ rfl)
        intro before' after' h
        refine length_quotedName_le hkey hloose h ?_
        rintro rfl
        obtain rfl := List.append_cancel_left h.text
        exact hcolon h.colon
    · cases s with
      | nil =>
        refine .absent ?_
        intro before after h
        have htext := h.text
        simp [quotedName] at htext
      | cons c rest =>
        have hprefix : (quotedName key).isPrefixOf? (c :: rest) = none := by
          rw [Option.eq_none_iff_forall_ne_some]
          intro after hafter
          exact hoccurs ⟨after, (List.isPrefixOf?_eq_some_iff_append_eq.mp hafter).symm⟩
        have hrest := ih rest.length (Nat.lt_succ_self _) (Loose.of_append_right (s := [c]) hloose)
          (here + c.utf8Size) rfl
        rw [findKeyFrom, hprefix]
        refine FoundKey.shift (s := [c]) ?_ hrest
        intro before' after' h
        cases before' with
        | nil => exact absurd ⟨_, h.text⟩ hoccurs
        | cons d before' => exact Nat.succ_le_succ (Nat.zero_le _)

/-! ### The search for a path -/

theorem byteCount_quotedName (key : String) : byteCount (quotedName key) = key.utf8ByteSize + 2 := by
  have hparts : byteCount (quotedName key) = 1 + byteCount (key.toList ++ ['"']) := rfl
  rw [hparts, byteCount_append, Json.byteCount_toList, Nat.add_comm]
  rfl

/-- What follows a later key ends what follows an earlier one. -/
theorem KeyAt.exists_after {s before after before' after' : List Char} (h : KeyAt key s before after)
    (h' : KeyAt key s before' after') (hle : before.length ≤ before'.length) :
    ∃ between, after = between ++ after' ∧ before'.length = before.length + between.length := by
  have hsame : (before ++ quotedName key) ++ after = (before' ++ quotedName key) ++ after' := by
    rw [List.append_assoc, List.append_assoc, ← h.text, ← h'.text]
  have hle' : (before ++ quotedName key).length ≤ (before' ++ quotedName key).length := by
    rw [List.length_append, List.length_append]
    omega
  obtain ⟨between, hbefore, hafter⟩ := exists_between hsame hle'
  refine ⟨between, hafter, ?_⟩
  have hlength := congrArg List.length hbefore
  simp only [List.length_append] at hlength
  omega

/-- What a search for a path finds: the end of its first chain, or nothing if it has no chain. -/
inductive FoundPath (path : List String) (size here : Nat) (s : List Char) : Option Span → Prop where
  | first {before : List Char} (h : FirstChain path s before) :
      FoundPath path size here s (some ⟨here + byteCount before + 1, size⟩)
  | absent (h : ∀ before, ¬ Chain path s before) : FoundPath path size here s none

theorem FoundPath.of_absent {path : List String} {size here : Nat} {s : List Char}
    (hnone : ∀ before after, ¬ KeyAt key s before after) :
    FoundPath (key :: path) size here s none := by
  refine .absent ?_
  intro before hchain
  cases hchain with
  | last hkey => exact hnone _ _ hkey
  | step hkey hrest => exact hnone _ _ hkey

theorem FoundPath.single {here : Nat} {s : List Char} {found : Option (Nat × List Char)}
    (h : FoundKey key here s found) :
    FoundPath [key] key.utf8ByteSize here s
      (found.map fun place => (⟨place.1 + 1, key.utf8ByteSize⟩ : Span)) := by
  cases h with
  | first hkey hfirst =>
    refine .first ⟨.last hkey, ?_⟩
    intro before' hchain
    cases hchain with
    | last hkey' => exact hfirst _ _ hkey'
    | step _ hrest => nomatch hrest
  | absent hnone => exact .of_absent hnone

/-- Behind the first key there is room for every chain of the keys that are left. -/
theorem FoundPath.cons {path : List String} (hpath : path ≠ []) {size here : Nat}
    {s before after : List Char} {span : Option Span} (hkey : KeyAt key s before after)
    (hfirst : ∀ before' after', KeyAt key s before' after' → before.length ≤ before'.length)
    (h : FoundPath path size (here + byteCount before + key.utf8ByteSize + 2) after span) :
    FoundPath (key :: path) size here s span := by
  cases h with
  | @first chained h =>
    have hbytes : here + byteCount before + key.utf8ByteSize + 2 + byteCount chained =
        here + byteCount (before ++ (quotedName key ++ chained)) := by
      rw [byteCount_append, byteCount_append, byteCount_quotedName]
      omega
    rw [hbytes]
    refine .first ⟨.step hkey h.chain, ?_⟩
    intro before' hchain
    cases hchain with
    | last => exact absurd rfl hpath
    | step hkey' hrest =>
      obtain ⟨between, rfl, hlength⟩ := hkey.exists_after hkey' (hfirst _ _ hkey')
      have hle := h.first _ (hrest.shift between)
      simp only [List.length_append] at hle ⊢
      omega
  | absent h =>
    refine .absent ?_
    intro before' hchain
    cases hchain with
    | last => exact absurd rfl hpath
    | step hkey' hrest =>
      obtain ⟨between, rfl, -⟩ := hkey.exists_after hkey' (hfirst _ _ hkey')
      exact h _ (hrest.shift between)

theorem keySpanFrom_cons (here : Nat) (s : List Char) (key : String) (path : List String) :
    keySpanFrom here s (key :: path) =
      (findKeyFrom (quotedName key) here 0 s).bind fun place =>
        if path = [] then some ⟨place.1 + 1, key.utf8ByteSize⟩
        else keySpanFrom (place.1 + key.utf8ByteSize + 2) place.2 path := by
  cases path with
  | nil => rfl
  | cons next others => rfl

theorem foundPath_keySpanFrom {path : List String} (hpath : ∀ name ∈ path, IsIdentifier name)
    (hkey : IsIdentifier key) {s : List Char} (hloose : Loose s) (here : Nat) :
    FoundPath (path ++ [key]) key.utf8ByteSize here s (keySpanFrom here s (path ++ [key])) := by
  induction path generalizing here s with
  | nil =>
    have hsingle := FoundPath.single (foundKey_findKeyFrom hkey hloose here)
    rw [Option.map_eq_bind] at hsingle
    exact hsingle
  | cons name path ih =>
    obtain ⟨hname, hrest⟩ := List.forall_mem_cons.mp hpath
    have hnil : path ++ [key] ≠ [] := List.append_ne_nil_of_right_ne_nil _ (List.cons_ne_nil _ _)
    have hfound := foundKey_findKeyFrom hname hloose here
    rw [List.cons_append, keySpanFrom_cons]
    simp only [if_neg hnil]
    generalize findKeyFrom (quotedName name) here 0 s = found at hfound ⊢
    cases hfound with
    | first hkeyAt hfirst =>
      have htext := hloose
      rw [hkeyAt.text] at htext
      exact (ih hrest htext.of_append_right.of_append_right _).cons hnil hkeyAt hfirst
    | absent hnone => exact .of_absent hnone

/-- A front of a text is known by its bytes. -/
theorem eq_of_byteCount_eq {before before' rest rest' : List Char}
    (h : before ++ rest = before' ++ rest') (hbytes : byteCount before = byteCount before') :
    before = before' := by
  have hnil : ∀ between, byteCount between = 0 → between = [] := by
    intro between hzero
    have hlength := Json.length_le_byteCount between
    exact List.eq_nil_of_length_eq_zero (by omega)
  rcases Nat.le_total before.length before'.length with hle | hle
  · obtain ⟨between, rfl, -⟩ := exists_between h hle
    rw [byteCount_append] at hbytes
    rw [hnil between (by omega), List.append_nil]
  · obtain ⟨between, rfl, -⟩ := exists_between h.symm hle
    rw [byteCount_append] at hbytes
    rw [hnil between (by omega), List.append_nil]

theorem FirstChain.eq {path : List String} {s before before' : List Char}
    (h : FirstChain path s before) (h' : FirstChain path s before') : before = before' := by
  obtain ⟨rest, htext⟩ := h.chain.exists_append
  obtain ⟨rest', htext'⟩ := h'.chain.exists_append
  have hlength := Nat.le_antisymm (h.first _ h'.chain) (h'.first _ h.chain)
  exact (List.append_inj (htext.symm.trans htext') hlength).1

section

variable {source : String} {path : List String}

theorem foundPath_keySpan? (hpath : ∀ name ∈ path, IsIdentifier name) (hkey : IsIdentifier key)
    (hloose : Loose source.toList) :
    FoundPath (path ++ [key]) key.utf8ByteSize 0 source.toList (keySpan? source (path ++ [key])) :=
  foundPath_keySpanFrom hpath hkey hloose 0

/-- The search for a path finds the place where its first chain ends. -/
theorem keySpan?_eq_some_iff (hpath : ∀ name ∈ path, IsIdentifier name) (hkey : IsIdentifier key)
    (hloose : Loose source.toList) {before rest : List Char} (htext : source.toList = before ++ rest)
    {size : Nat} :
    keySpan? source (path ++ [key]) = some ⟨byteCount before + 1, size⟩ ↔
      size = key.utf8ByteSize ∧ FirstChain (path ++ [key]) source.toList before := by
  have hfound := foundPath_keySpan? hpath hkey hloose
  generalize keySpan? source (path ++ [key]) = span at hfound ⊢
  cases hfound with
  | @first before' hfirst =>
    obtain ⟨rest', htext'⟩ := hfirst.chain.exists_append
    constructor
    · intro heq
      obtain ⟨hoffset, hsize⟩ := (Span.mk.injEq ..).mp (Option.some.inj heq)
      have hbytes : byteCount before = byteCount before' := by omega
      rw [eq_of_byteCount_eq (htext.symm.trans htext') hbytes]
      exact ⟨hsize.symm, hfirst⟩
    · rintro ⟨rfl, hfirst'⟩
      rw [hfirst.eq hfirst', Nat.zero_add]
  | absent hnone =>
    constructor
    · exact nofun
    · exact fun hfirst => absurd hfirst.2.chain (hnone _)

/-- A path that has a chain is found. -/
theorem exists_keySpan? (hpath : ∀ name ∈ path, IsIdentifier name) (hkey : IsIdentifier key)
    (hloose : Loose source.toList) {before : List Char}
    (hchain : Chain (path ++ [key]) source.toList before) :
    ∃ before', FirstChain (path ++ [key]) source.toList before' ∧
      keySpan? source (path ++ [key]) = some ⟨byteCount before' + 1, key.utf8ByteSize⟩ := by
  have hfound := foundPath_keySpan? hpath hkey hloose
  generalize keySpan? source (path ++ [key]) = span at hfound ⊢
  cases hfound with
  | first hfirst => exact ⟨_, hfirst, by rw [Nat.zero_add]⟩
  | absent hnone => exact absurd hchain (hnone _)

end

end OvsdbModels
