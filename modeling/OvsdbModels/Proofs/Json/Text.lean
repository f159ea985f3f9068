/-
  OvsdbModels/Proofs/Json/Text.lean
  =================================
  **Reading strings.**

  A string reads as the characters that it stands for.  A string that is passed over needs no such
  characters: half a surrogate pair may stand alone in it.
-/
import OvsdbModels.Proofs.Json.Reading

namespace OvsdbModels.Json

/-! ### Bytes -/

theorem byteCount_append (s t : List Char) : byteCount (s ++ t) = byteCount s + byteCount t := by
  induction s with
  | nil => exact (Nat.zero_add _).symm
  | cons c s ih => rw [List.cons_append, byteCount, byteCount, ih, Nat.add_assoc]

theorem length_flatMap_utf8EncodeChar (s : List Char) :
    (s.flatMap String.utf8EncodeChar).length = byteCount s := by
  induction s with
  | nil => rfl
  | cons c s ih =>
    rw [List.flatMap_cons, List.length_append, String.length_utf8EncodeChar, ih, byteCount]

theorem byteCount_toList (s : String) : byteCount s.toList = s.utf8ByteSize := by
  rw [← length_flatMap_utf8EncodeChar, ← String.size_toByteArray, ← String.utf8Encode_toList,
    List.utf8Encode, List.size_toByteArray]

theorem length_le_byteCount (s : List Char) : s.length ≤ byteCount s := by
  induction s with
  | nil => exact Nat.le_refl 0
  | cons c rest ih =>
    have hc : 0 < c.utf8Size := c.utf8Size_pos
    rw [List.length_cons, byteCount]
    omega

/-! ### Escapes -/

theorem reads_hexEscape {digits : List Char} {n : Nat} (hlength : digits.length = 4)
    (h : Text.hexNumber? digits = some n) (rest : List Char) :
    Reads hexEscape digits rest (some n) := by
  intro offset fuel _
  have htake : (digits ++ rest).take 4 = digits := by rw [← hlength, List.take_left]
  have hdrop : (digits ++ rest).drop 4 = rest := by rw [← hlength, List.drop_left]
  have hsize : ¬ byteCount digits < 4 := by
    have := length_le_byteCount digits
    omega
  refine ⟨offset + 4, ?_⟩
  simp only [hexEscape, htake, hdrop, hsize, h, if_false]

theorem reads_pairMark (c : Char) (rest : List Char) :
    Reads (pairMark c) [c] rest (some ()) := by
  refine Reads.peek_bind ?_
  simp only [if_pos]
  exact reads_advance c rest

theorem reads_pairMark_other {c expected : Char} (h : c ≠ expected) (text rest : List Char) :
    Reads (pairMark expected) (c :: text) rest none := by
  refine Reads.peek_bind ?_
  simp only [if_neg h]
  exact (fails_failAhead 1 _).reads _ _

/-- A letter that stands for a character does not begin the digits of a code unit. -/
theorem ne_of_shortEscape? {letter value : Char} (h : shortEscape? letter = some value) :
    letter ≠ 'u' := by
  rintro rfl
  exact nomatch h

/-! ### Strings -/

theorem reads_charactersLoop_end (n : Nat) (done rest : List Char) :
    Reads (charactersLoop (n + 1) done) ['"'] rest (some (String.ofList done.reverse)) :=
  Reads.peek_bind (Reads.advance_bind (Reads.pure _ rest))

theorem reads_charactersLoop_plain {c : Char} (h : 0x20 ≤ c.toNat ∧ c ≠ '"' ∧ c ≠ '\\') {n : Nat}
    {done text rest : List Char} {outcome : Option String}
    (hrest : Reads (charactersLoop n (c :: done)) text rest outcome) :
    Reads (charactersLoop (n + 1) done) (c :: text) rest outcome := by
  refine Reads.peek_bind ?_
  split
  · rename_i heq
    exact nomatch heq
  · rename_i heq
    exact absurd (Option.some.inj heq) h.2.1
  · rename_i heq
    exact absurd (Option.some.inj heq) h.2.2
  · rename_i heq
    obtain rfl := Option.some.inj heq
    rw [if_neg (Nat.not_lt.mpr h.1)]
    exact Reads.advance_bind hrest

theorem reads_escape_short {α : Type} {letter value : Char} (h : shortEscape? letter = some value)
    (short : Char → α) (unicode : Reader α) (rest : List Char) :
    Reads (escape short unicode) [letter] rest (some (short value)) := by
  refine Reads.peek_bind ?_
  split
  · rename_i heq
    exact nomatch heq
  · rename_i heq
    exact absurd (Option.some.inj heq) (ne_of_shortEscape? h)
  · rename_i heq
    obtain rfl := Option.some.inj heq
    simp only [h]
    exact Reads.advance_bind (Reads.pure _ rest)

theorem reads_escape_unicode {α : Type} {short : Char → α} {unicode : Reader α}
    {text rest : List Char} {outcome : Option α} (h : Reads unicode text rest outcome) :
    Reads (escape short unicode) ('u' :: text) rest outcome :=
  Reads.peek_bind (Reads.advance_bind h)

/-- An escape gives a character and the string goes on behind it. -/
theorem reads_charactersLoop_escape {n : Nat} {done text text' rest : List Char} {c : Char}
    {outcome : Option String}
    (h : Reads (escape id unicodeEscape) text (text' ++ rest) (some c))
    (hrest : Reads (charactersLoop n (c :: done)) text' rest outcome) :
    Reads (charactersLoop (n + 1) done) ('\\' :: (text ++ text')) rest outcome :=
  Reads.peek_bind (Reads.advance_bind (h.bind_some hrest))

theorem reads_charactersLoop_escape_none {n : Nat} {done text rest : List Char}
    (h : Reads (escape id unicodeEscape) text rest none) :
    Reads (charactersLoop (n + 1) done) ('\\' :: text) rest none :=
  Reads.peek_bind (Reads.advance_bind (h.bind_none _))

theorem reads_unicodeEscape_single {digits : List Char} {n : Nat} (hlength : digits.length = 4)
    (h : Text.hexNumber? digits = some n) (htrailing : ¬ isTrailing n = true)
    (hleading : ¬ isLeading n = true) (rest : List Char) :
    Reads unicodeEscape digits rest (some (Char.ofNat n)) := by
  rw [← List.append_nil digits]
  refine (reads_hexEscape hlength h _).bind_some ?_
  simp only [htrailing, hleading]
  exact Reads.pure _ rest

theorem reads_unicodeEscape_trailing {digits : List Char} {n : Nat} (hlength : digits.length = 4)
    (h : Text.hexNumber? digits = some n) (htrailing : isTrailing n = true) (rest : List Char) :
    Reads unicodeEscape digits rest none := by
  rw [← List.append_nil digits]
  refine (reads_hexEscape hlength h _).bind_some ?_
  simp only [htrailing]
  exact (fails_failHere _).reads _ _

/-- Behind the first half of a surrogate pair. -/
theorem reads_unicodeEscape_leading {digits : List Char} {n : Nat} (hlength : digits.length = 4)
    (h : Text.hexNumber? digits = some n) (htrailing : ¬ isTrailing n = true)
    (hleading : isLeading n = true) {text rest : List Char} {outcome : Option Char}
    (hrest : Reads (do
      pairMark '\\'
      pairMark 'u'
      let n' ← hexEscape
      if isTrailing n' then pure (Char.ofNat (0x10000 + (n - 0xd800) * 0x400 + (n' - 0xdc00)))
      else failHere .loneSurrogate) text rest outcome) :
    Reads unicodeEscape (digits ++ text) rest outcome := by
  refine (reads_hexEscape hlength h _).bind_some ?_
  simp only [htrailing, hleading]
  exact hrest

theorem reads_unicodeEscape_pair {digits digits' : List Char} {n n' : Nat}
    (hlength : digits.length = 4) (h : Text.hexNumber? digits = some n)
    (htrailing : ¬ isTrailing n = true) (hleading : isLeading n = true)
    (hlength' : digits'.length = 4) (h' : Text.hexNumber? digits' = some n') (rest : List Char) :
    Reads unicodeEscape (digits ++ '\\' :: 'u' :: digits') rest
      (if isTrailing n' then some (Char.ofNat (0x10000 + (n - 0xd800) * 0x400 + (n' - 0xdc00)))
      else none) := by
  refine reads_unicodeEscape_leading hlength h htrailing hleading ?_
  refine (reads_pairMark '\\' _).bind_some (s := ['\\']) ?_
  refine (reads_pairMark 'u' _).bind_some (s := ['u']) ?_
  rw [← List.append_nil digits']
  refine (reads_hexEscape hlength' h' _).bind_some ?_
  split
  · exact Reads.pure _ rest
  · exact (fails_failHere _).reads _ _

/-- The first half of a surrogate pair is refused if no code unit follows it. -/
theorem reads_unicodeEscape_alone {digits : List Char} {n : Nat} (hlength : digits.length = 4)
    (h : Text.hexNumber? digits = some n) (htrailing : ¬ isTrailing n = true)
    (hleading : isLeading n = true) {s : List Symbol}
    (hs : ∀ digits' n' hlength' h' s', s ≠ .unit digits' n' hlength' h' :: s') (rest : List Char) :
    Reads unicodeEscape (digits ++ (symbolsText s ++ ['"'])) rest none := by
  refine reads_unicodeEscape_leading hlength h htrailing hleading ?_
  cases s with
  | nil => exact (reads_pairMark_other (c := '"') (by decide) [] rest).bind_none _
  | cons symbol s =>
    cases symbol with
    | plain c hc =>
      exact (reads_pairMark_other hc.2.2 (symbolsText s ++ ['"']) rest).bind_none _
    | short letter value hletter =>
      refine (reads_pairMark '\\' _).bind_some (s := ['\\']) ?_
      exact (reads_pairMark_other (ne_of_shortEscape? hletter) (symbolsText s ++ ['"'])
        rest).bind_none _
    | unit digits' n' hlength' h' => exact absurd rfl (hs digits' n' hlength' h' s)

theorem symbolsText_cons (symbol : Symbol) (s : List Symbol) (rest : List Char) :
    symbolsText (symbol :: s) ++ rest = symbol.text ++ (symbolsText s ++ rest) :=
  List.append_assoc ..

theorem map_cons_decoded (c : Char) (decoded : Option (List Char)) (done : List Char) :
    (decoded.map (c :: ·)).map (fun decoded => String.ofList (done.reverse ++ decoded)) =
      decoded.map fun decoded => String.ofList ((c :: done).reverse ++ decoded) := by
  rw [Option.map_map]
  congr 1
  funext decoded
  rw [Function.comp, List.reverse_cons, List.append_assoc, List.singleton_append]

/-- A string is read in at most as many steps as it has characters, and one for its end. -/
theorem reads_charactersLoop (s : List Symbol) (spare : Nat) (done rest : List Char) :
    Reads (charactersLoop (spare + (s.length + 1)) done) (symbolsText s ++ ['"']) rest
      ((decode? s).map fun decoded => String.ofList (done.reverse ++ decoded)) := by
  fun_induction decode? s generalizing spare done with
  | case1 =>
    have hend := reads_charactersLoop_end spare done rest
    rwa [← List.append_nil done.reverse] at hend
  | case2 c hc s ih =>
    rw [symbolsText_cons, map_cons_decoded]
    exact reads_charactersLoop_plain hc (ih spare (c :: done))
  | case3 letter value hletter s ih =>
    rw [symbolsText_cons, map_cons_decoded]
    exact reads_charactersLoop_escape (reads_escape_short hletter _ _ _) (ih spare (value :: done))
  | case4 digits n hlength hn s htrailing =>
    have hunit := reads_unicodeEscape_trailing hlength hn htrailing (symbolsText s ++ ['"'] ++ rest)
    rw [symbolsText_cons]
    exact reads_charactersLoop_escape_none (reads_escape_unicode hunit.none_append)
  | case5 digits n hlength hn htrailing hleading digits' n' hlength' hn' s htrailing' ih =>
    have hpair := reads_unicodeEscape_pair hlength hn htrailing hleading hlength' hn'
      (symbolsText s ++ ['"'] ++ rest)
    rw [if_pos htrailing'] at hpair
    have hstep := reads_charactersLoop_escape (reads_escape_unicode hpair) (ih (spare + 1) (_ :: done))
    have hsteps : spare + 1 + (s.length + 1) + 1 = spare + (s.length + 1 + 1 + 1) := by omega
    simp only [List.cons_append, List.append_assoc, hsteps] at hstep
    rw [symbolsText_cons, symbolsText_cons, map_cons_decoded]
    exact hstep
  | case6 digits n hlength hn htrailing hleading digits' n' hlength' hn' s htrailing' =>
    have hpair := reads_unicodeEscape_pair hlength hn htrailing hleading hlength' hn'
      (symbolsText s ++ ['"'] ++ rest)
    rw [if_neg htrailing'] at hpair
    have hstep : Reads (charactersLoop (spare + (s.length + 3)) done) _ rest none :=
      reads_charactersLoop_escape_none (reads_escape_unicode hpair.none_append)
    simp only [List.cons_append, List.append_assoc] at hstep
    rw [symbolsText_cons, symbolsText_cons]
    exact hstep
  | case7 digits n hlength hn s htrailing hleading hs =>
    rw [symbolsText_cons]
    exact reads_charactersLoop_escape_none (reads_escape_unicode
      (reads_unicodeEscape_alone hlength hn htrailing hleading
        (fun digits' n' hlength' hn' s' heq => hs digits' n' hlength' hn' s' heq) rest))
  | case8 digits n hlength hn s htrailing hleading ih =>
    rw [symbolsText_cons, map_cons_decoded]
    exact reads_charactersLoop_escape
      (reads_escape_unicode (reads_unicodeEscape_single hlength hn htrailing hleading _))
      (ih spare (_ :: done))

theorem length_le_symbolsText (s : List Symbol) : s.length ≤ (symbolsText s).length := by
  induction s with
  | nil => exact Nat.le_refl 0
  | cons symbol s ih =>
    have hsymbol : 0 < symbol.text.length := by
      cases symbol with
      | plain c h => exact Nat.one_pos
      | short letter value h => exact Nat.two_pos
      | unit digits n hlength h => exact Nat.succ_pos _
    have happend := congrArg List.length (symbolsText_cons symbol s [])
    rw [List.append_nil, List.append_nil, List.length_append] at happend
    rw [List.length_cons, happend]
    omega

/-- A loop over the characters of a string has enough steps for them. -/
theorem reads_quotedText {α : Type} {loop : Nat → Reader α} {s : List Symbol} {rest : List Char}
    {outcome : Option α}
    (h : ∀ spare, Reads (loop (spare + (s.length + 1))) (symbolsText s ++ ['"']) rest outcome) :
    Reads (do advance; loop (← fuel)) (quotedText s) rest outcome := by
  refine Reads.advance_bind (Reads.fuel_bind fun n hn => ?_)
  have hlength := length_le_symbolsText s
  rw [List.length_append, List.length_append, List.length_singleton] at hn
  obtain ⟨spare, rfl⟩ := Nat.exists_eq_add_of_le' (show s.length + 1 ≤ n by omega)
  exact h spare

/-- A string reads as the characters that it stands for. -/
theorem reads_stringLiteral (s : List Symbol) (rest : List Char) :
    Reads stringLiteral (quotedText s) rest (name? s) :=
  reads_quotedText fun spare => reads_charactersLoop s spare [] rest

/-! ### Strings that are passed over -/

theorem reads_passStringLoop (s : List Symbol) (spare : Nat) (rest : List Char) :
    Reads (passStringLoop (spare + (s.length + 1))) (symbolsText s ++ ['"']) rest (some ()) := by
  induction s with
  | nil => exact Reads.peek_bind (reads_advance '"' rest)
  | cons symbol s ih =>
    rw [symbolsText_cons]
    cases symbol with
    | plain c h =>
      refine Reads.peek_bind ?_
      split
      · rename_i heq
        exact nomatch heq
      · rename_i heq
        exact absurd (Option.some.inj heq) h.2.1
      · rename_i heq
        exact absurd (Option.some.inj heq) h.2.2
      · rename_i heq
        obtain rfl := Option.some.inj heq
        rw [if_neg (Nat.not_lt.mpr h.1)]
        exact Reads.advance_bind ih
    | short letter value h =>
      exact Reads.peek_bind (Reads.advance_bind ((reads_escape_short h _ _ _).bind_some ih))
    | unit digits n hlength h =>
      have hdigits : Reads (do let _ ← hexEscape : Reader Unit) digits
          (symbolsText s ++ ['"'] ++ rest) (some ()) :=
        (reads_hexEscape hlength h _).map fun _ => ()
      exact Reads.peek_bind (Reads.advance_bind ((reads_escape_unicode hdigits).bind_some ih))

theorem reads_passString (s : List Symbol) (rest : List Char) :
    Reads passString (quotedText s) rest (some ()) :=
  reads_quotedText fun spare => reads_passStringLoop s spare rest

end OvsdbModels.Json
