/-
  OvsdbModels/Proofs/Text/Position.lean
  =====================================
  **Positions and offsets undo each other.**

  The bytes before an offset tell its line, by the line feeds among them, and where that line starts,
  one past the last of these.  A line and a column counted from there lead back to the offset, for every
  byte of a text and for its end (`invertsPositions_offsetOf?`).

  Offsets are unbounded here.  In words of 64 bits only a column beyond every text can make a sum too
  large for a word, so whatever an addition does then, no offset behind the end comes out.
-/
import Mathlib.Data.List.DropRight
import OvsdbModels.Proofs.Text.ByteOrder
import OvsdbModels.Text.Position

namespace OvsdbModels.Text

/-! ### Lines by their bytes -/

def lineFeed : UInt8 := 10

/-- How many bytes of a text are before its last line: those up to its last line feed. -/
def closedLength (prior : List UInt8) : Nat := (prior.rdropWhile (· != lineFeed)).length

def bytesUpTo (source : String) (offset : Nat) : List UInt8 := (bytes source).take offset

/-- The number of the line in which an offset lies: one more than the line feeds before it. -/
def lineNumber (source : String) (offset : Nat) : Nat :=
  1 + (bytesUpTo source offset).count lineFeed

/-- Where the line of an offset starts: one past the last line feed before it. -/
def lineStart (source : String) (offset : Nat) : Nat := closedLength (bytesUpTo source offset)

theorem length_bytes (source : String) : (bytes source).length = source.utf8ByteSize := by
  rw [bytes, Array.length_toList, String.toUTF8_eq_toByteArray]
  exact String.size_toByteArray

theorem bytes_append (s t : String) : bytes (s ++ t) = bytes s ++ bytes t := by
  rw [bytes_eq_flatMap, bytes_eq_flatMap, bytes_eq_flatMap, String.toList_append,
    List.flatMap_append]

theorem lineStart_le (source : String) (offset : Nat) : lineStart source offset ≤ offset := by
  calc lineStart source offset
      ≤ (bytesUpTo source offset).length := (List.rdropWhile_prefix _ _).length_le
    _ ≤ offset := List.length_take_le ..

/-- Only a line feed has the byte of a line feed. -/
theorem lineFeed_notMem {c : Char} (h : c ≠ '\n') : lineFeed ∉ String.utf8EncodeChar c := by
  have hne : c.val.toNat ≠ 10 := fun heq => h (Char.ext (UInt32.toNat_inj.mp heq))
  have hofNat : ∀ n, n < 256 → n ≠ 10 → lineFeed ≠ UInt8.ofNat n := by
    intro n hn hten heq
    have htoNat := congrArg UInt8.toNat heq
    rw [UInt8.toNat_ofNat_of_lt' hn] at htoNat
    exact hten htoNat.symm
  unfold String.utf8EncodeChar
  dsimp only
  generalize c.val.toNat = n at hne
  split_ifs <;>
    simp only [List.mem_cons, List.not_mem_nil, or_false, not_or] <;>
    repeat' apply And.intro
  all_goals apply hofNat <;> omega

section

variable {prior later : List UInt8}

theorem count_of_notMem (h : lineFeed ∉ prior) : prior.count lineFeed = 0 :=
  List.count_eq_zero.mpr h

theorem rdropWhile_eq_nil_iff : prior.rdropWhile (· != lineFeed) = [] ↔ lineFeed ∉ prior := by
  rw [List.rdropWhile_eq_nil_iff]
  constructor
  · intro hall hmem
    exact absurd rfl (bne_iff_ne.mp (hall _ hmem))
  · rintro hnot byte hbyte
    rw [bne_iff_ne]
    rintro rfl
    exact hnot hbyte

theorem closedLength_of_notMem (h : lineFeed ∉ prior) : closedLength prior = 0 := by
  rw [closedLength, rdropWhile_eq_nil_iff.mpr h, List.length_nil]

theorem rdropWhile_append {α : Type} (p : α → Bool) (s t : List α) :
    (s ++ t).rdropWhile p =
      if t.rdropWhile p = [] then s.rdropWhile p else s ++ t.rdropWhile p := by
  simp only [List.rdropWhile, List.reverse_append, List.dropWhile_append, List.reverse_eq_nil_iff,
    List.isEmpty_iff]
  split
  · rfl
  · rw [List.reverse_append, List.reverse_reverse]

theorem closedLength_append (h : lineFeed ∈ later) :
    closedLength (prior ++ later) = prior.length + closedLength later := by
  have hne : later.rdropWhile (· != lineFeed) ≠ [] := mt rdropWhile_eq_nil_iff.mp (not_not_intro h)
  rw [closedLength, rdropWhile_append, if_neg hne, List.length_append, closedLength]

theorem closedLength_lineFeed (later : List UInt8) :
    closedLength (lineFeed :: later) = 1 + closedLength later := by
  rw [← List.singleton_append]
  by_cases h : lineFeed ∈ later
  · rw [closedLength_append h, List.length_singleton]
  · rw [closedLength_of_notMem h, closedLength, rdropWhile_append,
      if_pos (rdropWhile_eq_nil_iff.mpr h)]
    rfl

end

/-! ### One character -/

/-- The first bytes of a text in UTF-8. -/
def firstBytes (s : List Char) (n : Nat) : List UInt8 := (s.flatMap String.utf8EncodeChar).take n

theorem bytesUpTo_eq (source : String) (offset : Nat) :
    bytesUpTo source offset = firstBytes source.toList offset := by
  rw [bytesUpTo, bytes_eq_flatMap, firstBytes]

theorem firstBytes_newline (rest : List Char) (n : Nat) :
    firstBytes ('\n' :: rest) (n + 1) = lineFeed :: firstBytes rest n := rfl

/-- A character that ends no line leaves the line feeds to what follows it. -/
theorem count_firstBytes_cons {c : Char} (hc : c ≠ '\n') (rest : List Char) (n : Nat) :
    (firstBytes (c :: rest) n).count lineFeed =
      (firstBytes rest (n - c.utf8Size)).count lineFeed := by
  have hfront : lineFeed ∉ (String.utf8EncodeChar c).take n :=
    fun hmem => lineFeed_notMem hc (List.mem_of_mem_take hmem)
  rw [firstBytes, List.flatMap_cons, List.take_append, String.length_utf8EncodeChar,
    List.count_append, count_of_notMem hfront, Nat.zero_add, firstBytes]

theorem closedLength_firstBytes_cons (c : Char) (rest : List Char) (n : Nat)
    (h : lineFeed ∈ firstBytes rest (n - c.utf8Size)) :
    closedLength (firstBytes (c :: rest) n) =
      c.utf8Size + closedLength (firstBytes rest (n - c.utf8Size)) := by
  have hwhole : (String.utf8EncodeChar c).take n = String.utf8EncodeChar c := by
    apply List.take_of_length_le
    have hpos := List.length_pos_of_mem h
    rw [firstBytes, List.length_take] at hpos
    rw [String.length_utf8EncodeChar]
    omega
  rw [firstBytes, List.flatMap_cons, List.take_append, String.length_utf8EncodeChar, hwhole,
    ← firstBytes, closedLength_append h, String.length_utf8EncodeChar]

theorem lineFeed_mem_firstBytes_cons {c : Char} (hc : c ≠ '\n') (rest : List Char) (n : Nat) :
    lineFeed ∈ firstBytes (c :: rest) n ↔ lineFeed ∈ firstBytes rest (n - c.utf8Size) := by
  rw [← List.count_pos_iff, ← List.count_pos_iff, count_firstBytes_cons hc]

/-! ### From positions to offsets -/

@[simp] theorem bytesBefore_zero (s : List Char) : bytesBefore 0 s = 0 := by
  cases s <;> rfl

theorem bytesBefore_newline (lines : Nat) (rest : List Char) :
    bytesBefore (lines + 1) ('\n' :: rest) = 1 + bytesBefore lines rest := rfl

theorem bytesBefore_cons {c : Char} (hc : c ≠ '\n') {lines : Nat} (hlines : lines ≠ 0)
    (rest : List Char) :
    bytesBefore lines (c :: rest) = c.utf8Size + bytesBefore lines rest := by
  cases lines with
  | zero => exact absurd rfl hlines
  | succ lines => rw [bytesBefore, if_neg hc]

/-- The lines that are over before an offset take up the bytes before the start of its line. -/
theorem bytesBefore_count (s : List Char) (n : Nat) :
    bytesBefore ((firstBytes s n).count lineFeed) s = closedLength (firstBytes s n) := by
  induction s generalizing n with
  | nil => simp [firstBytes, closedLength]
  | cons c rest ih =>
    by_cases hc : c = '\n'
    · subst hc
      cases n with
      | zero => simp [firstBytes, closedLength]
      | succ n =>
        rw [firstBytes_newline, List.count_cons_self, bytesBefore_newline, ih, closedLength_lineFeed]
    · by_cases hmem : lineFeed ∈ firstBytes rest (n - c.utf8Size)
      · rw [count_firstBytes_cons hc, closedLength_firstBytes_cons c rest n hmem,
          bytesBefore_cons hc (List.count_pos_iff.mpr hmem).ne', ih]
      · have hnot := mt (lineFeed_mem_firstBytes_cons hc rest n).mp hmem
        rw [count_of_notMem hnot, bytesBefore_zero, closedLength_of_notMem hnot]

theorem bytesBefore_le (lines : Nat) (s : List Char) :
    bytesBefore lines s ≤ (s.flatMap String.utf8EncodeChar).length := by
  induction s generalizing lines with
  | nil => exact Nat.le_refl 0
  | cons c rest ih =>
    cases lines with
    | zero => exact Nat.zero_le _
    | succ lines =>
      rw [List.flatMap_cons, List.length_append, String.length_utf8EncodeChar]
      exact Nat.add_le_add_left (ih _) _

theorem bytesBefore_lineNumber (source : String) (offset : Nat) :
    bytesBefore (lineNumber source offset - 1) source.toList = lineStart source offset := by
  rw [lineNumber, Nat.add_sub_cancel_left, lineStart, bytesUpTo_eq, bytesBefore_count]

theorem offsetOf?_of_ne_zero (source : String) {line : Nat} (hline : line ≠ 0) (column : Nat) :
    offsetOf? source ⟨line, column⟩ =
      let offset := bytesBefore (line - 1) source.toList + (column - 1)
      if offset ≤ source.utf8ByteSize then some offset else none :=
  if_neg hline

/-! ### From offsets to positions -/

theorem positionFrom_eq (offset line start here : Nat) (s : List Char) :
    positionFrom offset line start here s =
      ⟨line + (firstBytes s (offset - here)).count lineFeed,
        offset - if lineFeed ∈ firstBytes s (offset - here) then
          here + closedLength (firstBytes s (offset - here)) else start⟩ := by
  induction s generalizing line start here with
  | nil => simp [positionFrom, firstBytes]
  | cons c rest ih =>
    rw [positionFrom]
    split
    · rename_i hle
      rw [Nat.sub_eq_zero_of_le hle]
      simp [firstBytes]
    · rename_i hlt
      split
      · rename_i hc
        subst hc
        obtain ⟨n, hn⟩ : ∃ n, offset - here = n + 1 := ⟨offset - here - 1, by omega⟩
        have hn' : offset - (here + 1) = n := by omega
        rw [ih, hn, hn', firstBytes_newline, List.count_cons_self, closedLength_lineFeed,
          if_pos List.mem_cons_self, Nat.add_right_comm, Nat.add_assoc line, Nat.add_assoc here]
        split
        · rfl
        · rename_i hmem
          rw [closedLength_of_notMem hmem]
      · rename_i hc
        have hsub : offset - (here + c.utf8Size) = offset - here - c.utf8Size := by omega
        rw [ih, hsub, count_firstBytes_cons hc]
        simp only [lineFeed_mem_firstBytes_cons hc]
        split
        · rename_i hmem
          rw [closedLength_firstBytes_cons c rest _ hmem, Nat.add_assoc]
        · rfl

theorem positionAt_eq (source : String) (offset : Nat) :
    positionAt source offset =
      ⟨lineNumber source offset, offset - lineStart source offset⟩ := by
  rw [positionAt, positionFrom_eq, lineNumber, lineStart, bytesUpTo_eq, Nat.sub_zero, Nat.zero_add]
  split
  · rfl
  · rename_i hmem
    rw [closedLength_of_notMem hmem]

/-! ### Words -/

/-- An addition of words that is exact wherever the sum is a word; a larger sum may be cut to a word, or
have no result. -/
def IsExact (add : UInt64 → UInt64 → Option UInt64) : Prop :=
  ∀ a b, a.toNat + b.toNat < UInt64.size → add a b = some (a + b)

example : IsExact fun a b => some (a + b) := fun _ _ _ => rfl

example : IsExact fun a b => if a.toNat + b.toNat < UInt64.size then some (a + b) else none :=
  fun _ _ h => if_pos h

/-- `offsetOf?` in words; the outer `none` is an addition without a result. -/
def wordOffsetOf? (add : UInt64 → UInt64 → Option UInt64) (source : String) (line column : UInt64) :
    Option (Option UInt64) :=
  if line = 0 then some none
  else
    let start := UInt64.ofNat (bytesBefore (line.toNat - 1) source.toList)
    (add start (UInt64.ofNat (column.toNat - 1))).map fun offset =>
      if offset.toNat ≤ source.utf8ByteSize then some offset else none

section

variable {add : UInt64 → UInt64 → Option UInt64} {source : String} {line column : UInt64}

theorem wordOffsetOf?_eq (hadd : IsExact add)
    (h : source.utf8ByteSize + column.toNat < UInt64.size) :
    wordOffsetOf? add source line column =
      some ((offsetOf? source ⟨line.toNat, column.toNat⟩).map UInt64.ofNat) := by
  unfold wordOffsetOf?
  by_cases hline : line = 0
  · subst hline
    rfl
  · have hne : line.toNat ≠ 0 := fun hzero => hline (UInt64.toNat_inj.mp hzero)
    have hstart := bytesBefore_le (line.toNat - 1) source.toList
    rw [← bytes_eq_flatMap, length_bytes] at hstart
    rw [if_neg hline, offsetOf?_of_ne_zero source hne]
    generalize bytesBefore (line.toNat - 1) source.toList = start at hstart
    have hstart' : (UInt64.ofNat start).toNat = start := UInt64.toNat_ofNat_of_lt' (by omega)
    have hstep' : (UInt64.ofNat (column.toNat - 1)).toNat = column.toNat - 1 :=
      UInt64.toNat_ofNat_of_lt' (by omega)
    have hsum : (UInt64.ofNat start + UInt64.ofNat (column.toNat - 1)).toNat =
        start + (column.toNat - 1) := by
      rw [UInt64.toNat_add, hstart', hstep']
      exact Nat.mod_eq_of_lt (by simp only [UInt64.size] at h; omega)
    dsimp only
    rw [hadd _ _ (by rw [hstart', hstep']; omega), Option.map_some, hsum]
    split
    · rw [← hsum, Option.map_some, UInt64.ofNat_toNat]
    · rfl

theorem wordOffsetOf?_le {offset : UInt64}
    (h : wordOffsetOf? add source line column = some (some offset)) :
    offset.toNat ≤ source.utf8ByteSize := by
  unfold wordOffsetOf? at h
  split at h
  · exact nomatch h
  · obtain ⟨sum, -, heq⟩ := Option.map_eq_some_iff.mp h
    split at heq
    · rename_i hle
      obtain rfl := Option.some.inj heq
      exact hle
    · exact nomatch heq

end

/-! ### Both ways -/

/-- Offsets and positions of a text, each found from the other. -/
structure InvertsPositions (source : String) : Prop where
  /-- The line of an offset, and its distance from the start of the line counted from one. -/
  offset : ∀ offset ≤ source.utf8ByteSize,
    offsetOf? source ⟨lineNumber source offset, offset - lineStart source offset + 1⟩ = some offset
  /-- Column zero is the start of the line. -/
  start : ∀ offset ≤ source.utf8ByteSize,
    offsetOf? source ⟨lineNumber source offset, 0⟩ = some (lineStart source offset)
  le : ∀ line column offset, offsetOf? source ⟨line, column⟩ = some offset →
    offset ≤ source.utf8ByteSize
  lineZero : ∀ column, offsetOf? source ⟨0, column⟩ = none
  /-- The position that a diagnostic tells has the same line; its column is counted from zero. -/
  position : ∀ offset, positionAt source offset =
    ⟨lineNumber source offset, offset - lineStart source offset⟩
  /-- Where a sum is a word, counting in words gives the same; where it is not, no offset behind the end
  comes out. -/
  words : ∀ add, IsExact add → ∀ line column,
    (source.utf8ByteSize + column.toNat < UInt64.size → wordOffsetOf? add source line column =
      some ((offsetOf? source ⟨line.toNat, column.toNat⟩).map UInt64.ofNat)) ∧
    ∀ offset, wordOffsetOf? add source line column = some (some offset) →
      offset.toNat ≤ source.utf8ByteSize

/-- The position of every byte of a text, and of its end, leads back to its offset. -/
theorem invertsPositions_offsetOf? (source : String) : InvertsPositions source := by
  have hline : ∀ offset, lineNumber source offset ≠ 0 := fun offset => by
    rw [lineNumber]
    omega
  constructor
  case offset =>
    intro offset hle
    have hsum : lineStart source offset + (offset - lineStart source offset + 1 - 1) = offset := by
      have hstart := lineStart_le source offset
      omega
    rw [offsetOf?_of_ne_zero source (hline offset), bytesBefore_lineNumber]
    dsimp only
    rw [hsum, if_pos hle]
  case start =>
    intro offset hle
    have hstart : lineStart source offset ≤ source.utf8ByteSize :=
      Nat.le_trans (lineStart_le source offset) hle
    rw [offsetOf?_of_ne_zero source (hline offset), bytesBefore_lineNumber]
    exact if_pos hstart
  case le =>
    intro line column offset heq
    unfold offsetOf? at heq
    split at heq
    · exact nomatch heq
    · dsimp only at heq
      split at heq
      · rename_i hle
        obtain rfl := Option.some.inj heq
        exact hle
      · exact nomatch heq
  case lineZero => exact fun _ => rfl
  case position => exact positionAt_eq source
  case words =>
    intro add hadd line column
    exact ⟨fun hfits => wordOffsetOf?_eq hadd hfits, fun _ h => wordOffsetOf?_le h⟩

end OvsdbModels.Text
