/-
  OvsdbModels/Proofs/Schema/KeySearch.lean
  ========================================
  **A search that remembers only an offset.**

  The search for a path can be told in bytes: cut the text at an offset, look for the next quoted name,
  cut it again behind that name to see the colon, and go on there.  A cut fails behind the end of the text
  and inside a character.  No cut of the search does, whatever the text and the keys are, since each
  offset is the size of a part that the text begins with; and each round leaves a shorter text, so the
  rounds are never used up (`keySpanAt_eq`).

  A name that is no identifier may overlap with itself, and then a key can be passed over.  Those that
  are found are keys all the same, one behind the other (`exists_spans`).
-/
import OvsdbModels.Proofs.Attempt
import OvsdbModels.Proofs.Schema.KeySpan
import OvsdbModels.Proofs.Text.Position

namespace OvsdbModels

open Json (byteCount byteCount_append byteCount_toList)
open Text (Span bytes bytes_append length_bytes)

/-! ### The search -/

/-- Why a search by offsets has no outcome. -/
inductive SearchFault where
  /-- The text cannot be cut there: behind its end, or between the bytes of a character. -/
  | noBoundary (offset : Nat)
  | outOfRounds
  deriving DecidableEq, Repr

/-- The text from a byte offset on. -/
def cutAt (source : String) (offset : Nat) : Except SearchFault (List Char) :=
  if h : String.Pos.Raw.IsValid source ⟨offset⟩ then .ok (source.sliceFrom ⟨⟨offset⟩, h⟩).copy.toList
  else .error (.noBoundary offset)

/-- How many bytes of a text stand before the first occurrence of a word. -/
def firstOccurrence? (word : List Char) : List Char → Option Nat
  | [] => if word.isEmpty then some 0 else none
  | c :: rest =>
    if word.isPrefixOf (c :: rest) then some 0
    else (firstOccurrence? word rest).map (c.utf8Size + ·)

/-- The offset of the first key with the given text, quotes included, that begins at the byte `here` or
later.  A round ends at an occurrence; if that is no key, the next round begins behind it. -/
def findKeyAt (source : String) (quotedKey : List Char) :
    (rounds here : Nat) → Except SearchFault (Option Nat)
  | 0, _ => .error .outOfRounds
  | rounds + 1, here => do
    let rest ← cutAt source here
    match firstOccurrence? quotedKey rest with
    | none => pure none
    | some skipped =>
      let start := skipped + here
      let stop := start + byteCount quotedKey
      let behind ← cutAt source stop
      if beginsWithColon behind then pure (some start)
      else findKeyAt source quotedKey rounds stop

/-- The span of the last key of a path, if the search has come to the byte `here` and `span` is what
it has found so far.  There are `rounds` for each key. -/
def keySpanAt (source : String) (rounds here : Nat) (span : Option Span) :
    List String → Except SearchFault (Option Span)
  | [] => pure span
  | key :: path => do
    match ← findKeyAt source (quotedName key) rounds here with
    | none => pure none
    | some start =>
      keySpanAt source rounds (start + byteCount (quotedName key))
        (some ⟨start + 1, key.utf8ByteSize⟩) path

/-! ### Cuts -/

/-- A text can be cut behind every part that it begins with. -/
theorem cutAt_byteCount {source : String} {before rest : List Char}
    (h : source.toList = before ++ rest) : cutAt source (byteCount before) = .ok rest := by
  have hsource : source = String.ofList before ++ String.ofList rest := by
    rw [← String.ofList_append, ← h, String.ofList_toList]
  have hend : (⟨byteCount before⟩ : String.Pos.Raw) = (String.ofList before).rawEndPos := by
    rw [String.rawEndPos, ← byteCount_toList, String.toList_ofList]
  have hvalid : String.Pos.Raw.IsValid source ⟨byteCount before⟩ :=
    String.Pos.Raw.isValid_iff_exists_append.mpr ⟨_, _, hsource, hend⟩
  have hsplits : String.Pos.Splits ⟨_, hvalid⟩ (String.ofList before) (String.ofList rest) :=
    ⟨hsource, hend⟩
  rw [cutAt, dif_pos hvalid, hsplits.copy_sliceFrom_eq, String.toList_ofList]

/-! ### Occurrences -/

section

variable {key : String} {here start : Nat} {s after : List Char}

theorem isPrefixOf?_eq_none {word : List Char} (h : ¬ word.isPrefixOf s = true) :
    word.isPrefixOf? s = none := by
  rwa [← Option.not_isSome_iff_eq_none, List.isSome_isPrefixOf?_eq_isPrefixOf]

theorem findKeyFrom_of_absent (h : firstOccurrence? (quotedName key) s = none) :
    findKeyFrom (quotedName key) here 0 s = none := by
  induction s generalizing here with
  | nil => rfl
  | cons c rest ih =>
    rw [firstOccurrence?] at h
    split at h
    · exact nomatch h
    · rename_i hprefix
      rw [findKeyFrom, isPrefixOf?_eq_none hprefix]
      exact ih (Option.map_eq_none_iff.mp h)

/-- A search comes to the first occurrence, which ends it or is passed over. -/
theorem findKeyFrom_of_occurrence {skipped : Nat}
    (h : firstOccurrence? (quotedName key) s = some skipped) (here : Nat) :
    ∃ front after, s = front ++ (quotedName key ++ after) ∧ skipped = byteCount front ∧
      findKeyFrom (quotedName key) here 0 s =
        if beginsWithColon after then some (here + byteCount front, after)
        else findKeyFrom (quotedName key) (here + byteCount front + byteCount (quotedName key)) 0
          after := by
  induction s generalizing here skipped with
  | nil => exact nomatch h
  | cons c rest ih =>
    rw [firstOccurrence?] at h
    split at h
    · rename_i hprefix
      obtain rfl := Option.some.inj h
      obtain ⟨after, hafter⟩ := List.isPrefixOf_iff_prefix.mp hprefix
      refine ⟨[], after, hafter.symm, rfl, ?_⟩
      rw [← hafter, findKeyFrom_quotedName]
      rfl
    · rename_i hprefix
      obtain ⟨skipped, hrest, rfl⟩ := Option.map_eq_some_iff.mp h
      obtain ⟨front, after, rfl, rfl, hfind⟩ := ih hrest (here + c.utf8Size)
      refine ⟨c :: front, after, rfl, rfl, ?_⟩
      rw [findKeyFrom, isPrefixOf?_eq_none hprefix, byteCount, ← Nat.add_assoc]
      exact hfind

/-! ### Every cut is possible -/

/-- Searching by offsets finds what the search through the characters finds. -/
theorem findKeyAt_eq {source : String} {before : List Char} {rounds : Nat}
    (h : source.toList = before ++ s) (hrounds : s.length < rounds) :
    findKeyAt source (quotedName key) rounds (byteCount before) =
      .ok ((findKeyFrom (quotedName key) (byteCount before) 0 s).map (·.1)) := by
  induction rounds generalizing before s with
  | zero => exact absurd hrounds (Nat.not_lt_zero _)
  | succ rounds ih =>
    -- a round that goes on has passed over two quotes at least, so fewer characters are left
    rw [findKeyAt, cutAt_byteCount h, Attempt.ok_bind]
    cases hfirst : firstOccurrence? (quotedName key) s with
    | none =>
      rw [findKeyFrom_of_absent hfirst]
      rfl
    | some skipped =>
      obtain ⟨front, after, rfl, rfl, hfind⟩ := findKeyFrom_of_occurrence hfirst (byteCount before)
      have hstop : source.toList = (before ++ (front ++ quotedName key)) ++ after := by
        rw [h, List.append_assoc, List.append_assoc]
      have hbytes : byteCount before + byteCount front + byteCount (quotedName key) =
          byteCount (before ++ (front ++ quotedName key)) := by
        rw [byteCount_append, byteCount_append, Nat.add_assoc]
      have hlength : after.length < rounds := by
        simp only [quotedName, List.length_append, List.length_cons] at hrounds
        omega
      dsimp only
      rw [hfind, Nat.add_comm (byteCount front), hbytes, cutAt_byteCount hstop, Attempt.ok_bind,
        ih hstop hlength]
      split <;> rfl

/-- The place that a search gives is the place of a key. -/
theorem keyAt_of_findKeyFrom (h : findKeyFrom (quotedName key) here 0 s = some (start, after)) :
    ∃ before, KeyAt key s before after ∧ start = here + byteCount before := by
  induction hn : s.length using Nat.strongRecOn generalizing s here with
  | _ n ih =>
    subst hn
    cases hfirst : firstOccurrence? (quotedName key) s with
    | none =>
      rw [findKeyFrom_of_absent hfirst] at h
      exact nomatch h
    | some skipped =>
      obtain ⟨front, behind, rfl, -, hfind⟩ := findKeyFrom_of_occurrence hfirst here
      rw [hfind] at h
      split at h
      · rename_i hcolon
        obtain ⟨rfl, rfl⟩ := Prod.mk.inj (Option.some.inj h)
        exact ⟨front, ⟨rfl, hcolon⟩, rfl⟩
      · have hlength : behind.length < (front ++ (quotedName key ++ behind)).length := by
          simp only [quotedName, List.length_append, List.length_cons]
          omega
        obtain ⟨before, hkey, rfl⟩ := ih _ hlength h rfl
        refine ⟨front ++ (quotedName key ++ before), (hkey.shift _).shift _, ?_⟩
        rw [byteCount_append, byteCount_append]
        omega

end

/-! ### Paths -/

section

variable {source key : String} {before s : List Char} {path : List String} {here : Nat}

/-- Behind the key that a search has found, the text can be cut again. -/
theorem exists_cut (h : source.toList = before ++ s) {place : Nat × List Char}
    (hfind : findKeyFrom (quotedName key) (byteCount before) 0 s = some place) :
    ∃ before', source.toList = before' ++ place.2 ∧
      place.1 + key.utf8ByteSize + 2 = byteCount before' ∧ place.2.length < s.length := by
  obtain ⟨front, hkey, hstart⟩ := keyAt_of_findKeyFrom hfind
  refine ⟨before ++ (front ++ quotedName key), ?_, ?_, ?_⟩
  · rw [h, hkey.text, List.append_assoc, List.append_assoc]
  · rw [hstart, byteCount_append, byteCount_append, byteCount_quotedName]
    omega
  · rw [hkey.text]
    simp only [quotedName, List.length_append, List.length_cons]
    omega

/-- A path is looked for key by key, each behind the one before it. -/
theorem keySpanAt_eq {rounds : Nat} {span : Option Span} (h : source.toList = before ++ s)
    (hrounds : s.length < rounds) :
    keySpanAt source rounds (byteCount before) span path =
      .ok (if path = [] then span else keySpanFrom (byteCount before) s path) := by
  induction path generalizing before s span with
  | nil => rfl
  | cons key path ih =>
    rw [keySpanAt, findKeyAt_eq h hrounds, Attempt.ok_bind, if_neg (List.cons_ne_nil key path),
      keySpanFrom_cons, byteCount_quotedName]
    cases hfind : findKeyFrom (quotedName key) (byteCount before) 0 s with
    | none => rfl
    | some place =>
      obtain ⟨before', hcut, hbytes, hlength⟩ := exists_cut h hfind
      simp only [Option.map_some, Option.bind_some, ← Nat.add_assoc, hbytes]
      exact ih hcut (hlength.trans hrounds)

end

/-! ### What is found -/

/-- The span of a key of a text: the key stands in double quotes there, and behind the quotes, blanks
aside, stands a colon. -/
def IsKeySpan (source key : String) (span : Span) : Prop :=
  ∃ before blank after : String,
    source = before ++ "\"" ++ key ++ "\"" ++ blank ++ ":" ++ after ∧
      (∀ c ∈ blank.toList, Text.isBlank c = true) ∧
      span = ⟨before.utf8ByteSize + 1, key.utf8ByteSize⟩

theorem exists_blank_of_beginsWithColon {s : List Char} (h : beginsWithColon s = true) :
    ∃ blank after, s = blank ++ ':' :: after ∧ ∀ c ∈ blank, Text.isBlank c = true := by
  unfold beginsWithColon at h
  split at h
  · rename_i after hafter
    obtain ⟨blank, hs, hblank⟩ := Text.exists_blanks s
    exact ⟨blank, after, hafter ▸ hs, hblank⟩
  · exact absurd h Bool.false_ne_true

theorem KeyAt.isKeySpan {source key : String} {before after : List Char}
    (h : KeyAt key source.toList before after) :
    IsKeySpan source key ⟨byteCount before + 1, key.utf8ByteSize⟩ := by
  obtain ⟨blank, rest, rfl, hblank⟩ := exists_blank_of_beginsWithColon h.colon
  refine ⟨String.ofList before, String.ofList blank, String.ofList rest, ?_, ?_, ?_⟩
  · apply String.toList_injective
    rw [h.text, quotedName]
    simp
  · rwa [String.toList_ofList]
  · rw [← byteCount_toList (String.ofList before), String.toList_ofList]

namespace IsKeySpan

variable {source key : String} {span : Span}

theorem lt_utf8ByteSize (h : IsKeySpan source key span) :
    span.offset + span.length < source.utf8ByteSize := by
  obtain ⟨before, blank, after, rfl, -, rfl⟩ := h
  have hquote : "\"".utf8ByteSize = 1 := rfl
  simp only [String.utf8ByteSize_append, hquote]
  omega

theorem bytes_eq (h : IsKeySpan source key span) :
    ((bytes source).drop span.offset).take span.length = bytes key := by
  obtain ⟨before, blank, after, rfl, -, rfl⟩ := h
  have hparts : before ++ "\"" ++ key ++ "\"" ++ blank ++ ":" ++ after =
      (before ++ "\"") ++ (key ++ ("\"" ++ blank ++ ":" ++ after)) := by
    simp only [String.append_assoc]
  have hbefore : (bytes (before ++ "\"")).length = before.utf8ByteSize + 1 := by
    rw [length_bytes, String.utf8ByteSize_append]
    rfl
  rw [hparts, bytes_append, bytes_append key, ← hbefore, List.drop_left, ← length_bytes key,
    List.take_left]

end IsKeySpan

/-- Between two keys that follow each other are the quote that closes the one and the quote that opens
the other. -/
def Text.Span.Precedes (earlier later : Span) : Prop :=
  earlier.offset + earlier.length + 2 ≤ later.offset

section

variable {source key : String} {before s : List Char} {path : List String} {span : Span}

theorem isKeySpan_of_findKeyFrom (h : source.toList = before ++ s) {place : Nat × List Char}
    (hfind : findKeyFrom (quotedName key) (byteCount before) 0 s = some place) :
    IsKeySpan source key ⟨place.1 + 1, key.utf8ByteSize⟩ ∧ byteCount before ≤ place.1 := by
  obtain ⟨front, hkey, hstart⟩ := keyAt_of_findKeyFrom hfind
  have hkey := hkey.shift before
  rw [← h] at hkey
  rw [hstart, ← byteCount_append]
  refine ⟨hkey.isKeySpan, ?_⟩
  rw [byteCount_append]
  exact Nat.le_add_right _ _

/-- The search for a path comes through keys with the path's names, each behind the one before it. -/
theorem exists_spans (h : source.toList = before ++ s)
    (hfound : keySpanFrom (byteCount before) s path = some span) :
    ∃ spans, List.Forall₂ (IsKeySpan source) path spans ∧ spans.Pairwise Span.Precedes ∧
      (∀ later ∈ spans, byteCount before < later.offset) ∧ spans.getLast? = some span := by
  induction path generalizing before s with
  | nil => exact nomatch hfound
  | cons key path ih =>
    rw [keySpanFrom_cons] at hfound
    obtain ⟨place, hfind, hrest⟩ := Option.bind_eq_some_iff.mp hfound
    obtain ⟨hkey, hle⟩ := isKeySpan_of_findKeyFrom h hfind
    split at hrest
    · rename_i hnil
      obtain rfl := Option.some.inj hrest
      refine ⟨[_], hnil ▸ .cons hkey .nil, List.pairwise_singleton _ _, ?_, rfl⟩
      simpa using Nat.lt_succ_of_le hle
    · obtain ⟨before', hcut, hbytes, -⟩ := exists_cut h hfind
      rw [hbytes] at hrest
      obtain ⟨spans, hkeys, hpairwise, hbehind, hlast⟩ := ih hcut hrest
      rw [← hbytes] at hbehind
      refine ⟨_ :: spans, .cons hkey hkeys, ?_, ?_, ?_⟩
      · refine List.pairwise_cons.mpr ⟨fun later hlater => ?_, hpairwise⟩
        have hlt := hbehind later hlater
        dsimp only [Span.Precedes]
        omega
      · refine List.forall_mem_cons.mpr ⟨Nat.lt_succ_of_le hle, fun later hlater => ?_⟩
        have hlt := hbehind later hlater
        omega
      · rw [List.getLast?_cons, hlast]
        rfl

end

/-- A search by offsets ends, with every cut at a boundary, and it finds what the search through the
characters finds.  The span lies in the text and covers the last key there; it is the last of a chain
of keys with the names of the path. -/
theorem keySpanAt_eq_keySpan? (source : String) (path : List String) :
    (∀ rounds > source.length,
      keySpanAt source rounds 0 none path = .ok (keySpan? source path)) ∧
    ∀ span ∈ keySpan? source path, ∃ key, path.getLast? = some key ∧
      (span.offset + span.length < source.utf8ByteSize ∧
        ((bytes source).drop span.offset).take span.length = bytes key ∧
        IsKeySpan source key span) ∧
      ∃ spans, List.Forall₂ (IsKeySpan source) path spans ∧ spans.Pairwise Span.Precedes ∧
        spans.getLast? = some span := by
  have hsource : source.toList = [] ++ source.toList := rfl
  constructor
  · intro rounds hrounds
    rw [← String.length_toList] at hrounds
    refine (keySpanAt_eq hsource hrounds).trans ?_
    cases path with
    | nil => rfl
    | cons key path => rfl
  · intro span hspan
    obtain ⟨spans, hkeys, hpairwise, -, hlast⟩ := exists_spans hsource hspan
    obtain ⟨key, hkey, hspan⟩ := Attempt.exists_getLast?_of_forall₂ hkeys hlast
    refine ⟨key, hkey, ⟨hspan.lt_utf8ByteSize, hspan.bytes_eq, hspan⟩, ?_⟩
    exact ⟨spans, hkeys, hpairwise, hlast⟩

/-- A text with a key that has a quote in it, and before that a string that reads like it. -/
def quotedTwice : String := "\"é\":\"a\"b\",\"a\"b\"\u00a0:0"

theorem keySpanAt_quotedTwice :
    keySpanAt quotedTwice 19 0 none ["é", "a\"b"] = .ok (some ⟨12, 3⟩) ∧
      ((bytes quotedTwice).drop 12).take 3 = bytes "a\"b" ∧
      ∃ spans, List.Forall₂ (IsKeySpan quotedTwice) ["é", "a\"b"] spans ∧
        spans.Pairwise Span.Precedes ∧ spans.getLast? = some ⟨12, 3⟩ := by
  have hspan : keySpan? quotedTwice ["é", "a\"b"] = some ⟨12, 3⟩ := by decide
  obtain ⟨hsearch, hfound⟩ := keySpanAt_eq_keySpan? quotedTwice ["é", "a\"b"]
  obtain ⟨key, hkey, ⟨-, hbytes, -⟩, hspans⟩ := hfound ⟨12, 3⟩ hspan
  obtain rfl : "a\"b" = key := Option.some.inj hkey
  have hrounds : 19 > quotedTwice.length := by decide
  exact ⟨(hsearch 19 hrounds).trans (congrArg _ hspan), hbytes, hspans⟩

end OvsdbModels
