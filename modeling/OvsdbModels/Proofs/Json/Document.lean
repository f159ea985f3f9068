/-
  OvsdbModels/Proofs/Json/Document.lean
  =====================================
  **Reading values of any shape, and passing over them.**

  A value means one thing by every tree, at every depth (`settled_value`); it fails where the tree nests
  too deep, and where a string or a number in it cannot be represented.  A value that is passed over
  never fails (`means_passValue`): its loop takes at most two steps for each character.
-/
import OvsdbModels.Proofs.Json.Container

namespace OvsdbModels.Json

variable {α β : Type}

/-! ### Values -/

theorem Means.map {r : Reader α} {t : Tree} {o : Option α} (h : Means r t o) (f : α → β) :
    Means (do pure (f (← r))) t (o.map f) :=
  fun _ _ _ hblank htext hrest => (h hblank htext hrest).map f

/-- What is made of a value without reading on. -/
theorem Means.bind {r : Reader α} {f : α → Reader β} {t : Tree} {o : Option α} {p : α → Option β}
    (h : Means r t o) (hf : ∀ a rest, Reads (f a) [] rest (p a)) : Means (r >>= f) t (o.bind p) := by
  intro blank text rest hblank htext hrest
  rw [← List.append_nil (blank ++ text)]
  exact (h hblank htext hrest).bind fun a _ => hf a rest

/-- The value of a member stands behind a colon. -/
theorem Means.member {r : Reader α} {t : Tree} {o : Option α} (h : Means r t o) :
    MeansMember (do colon; r) t o := by
  intro blank blank' text rest hblank hblank' htext hrest
  have hcolon := reads_colon hblank (blank' ++ text ++ rest)
  have hvalue : Reads (do colon; r) (blank ++ [':'] ++ (blank' ++ text)) rest o :=
    hcolon.bind_some (h hblank' htext hrest)
  rwa [List.append_assoc, List.singleton_append] at hvalue

/-- What a number means is a matter of its own characters. -/
theorem exists_means_number {f : Option Char → Reader α} (n : Numeral)
    (h : ∀ c, c = '-' ∨ c.isDigit = true → Settles (f (some c)) n.text) :
    ∃ o, Means (peekPiece >>= f) (.number n) o := by
  obtain ⟨c, s, hn, hc⟩ := n.exists_cons
  obtain ⟨o, hread⟩ := h c hc
  refine ⟨o, fun blank text rest hblank htext hrest => ?_⟩
  have hread := hread rest hrest
  cases htext
  rw [hn] at hread ⊢
  exact Reads.piece_bind hblank (isSpace_of_numeral hc) hread

theorem means_value_null (depth : Nat) : Means (value depth) .null (some .null) := by
  intro _ _ _ hblank htext _
  cases htext
  unfold value
  exact Reads.piece_bind hblank rfl (reads_word_pure 'n' _ _ _)

theorem means_value_boolean (depth : Nat) (b : Bool) :
    Means (value depth) (.boolean b) (some (.boolean b)) := by
  intro _ _ _ hblank htext _
  unfold value
  cases htext with
  | boolTrue => exact Reads.piece_bind hblank rfl (reads_word_pure 't' _ _ _)
  | boolFalse => exact Reads.piece_bind hblank rfl (reads_word_pure 'f' _ _ _)

theorem exists_means_value_number (depth : Nat) (n : Numeral) :
    ∃ o, Means (value depth) (.number n) o := by
  unfold value
  refine exists_means_number n fun c hc => ?_
  -- the last branch is that of numbers: they begin with none of the characters before it
  split
  case h_8 =>
    rename_i heq
    obtain rfl := Option.some.inj heq
    rw [if_pos hc]
    exact (settles_numeral n).bind_end fun number => .pure (Value.number number)
  case h_1 =>
    rename_i heq
    exact nomatch heq
  all_goals
    rename_i heq
    exact absurd (Option.some.inj heq ▸ hc) (by decide)

theorem means_value_string (depth : Nat) (s : List Symbol) :
    Means (value depth) (.string s) ((name? s).map .string) := by
  intro _ _ _ hblank htext _
  cases htext
  unfold value
  exact Reads.piece_bind hblank rfl ((reads_stringLiteral s _).map Value.string)

theorem means_value_array {depth : Nat} {items : List Tree}
    (h : ∀ t ∈ items, Means (value depth) t (outcome (value depth) t)) :
    Means (value (depth + 1)) (.array items)
      ((itemsOutcome (value depth) items []).map .array) := by
  intro blank text rest hblank htext _
  cases htext with
  | array hinside =>
    have hread := (reads_items h hinside rest).enclosed_array.map Value.array
    generalize itemsOutcome (value depth) items [] = o at hread ⊢
    unfold value
    exact Reads.piece_bind hblank rfl (Reads.advance_bind hread)

/-- The step of a list of members: a member is put in front. -/
def consMember (item : Reader α) (done : List (String × α)) (name : String) :
    Reader (List (String × α)) := do
  colon
  let a ← item
  pure ((name, a) :: done)

theorem Means.consMember {item : Reader α} {t : Tree} {o : Option α} (h : Means item t o)
    (done : List (String × α)) (name : String) :
    MeansMember (consMember item done name) t (o.map fun a => (name, a) :: done) :=
  (h.map fun a => (name, a) :: done).member

theorem means_value_object {depth : Nat} {ms : List (List Symbol × Tree)}
    (h : ∀ m ∈ ms, Means (value depth) m.2 (outcome (value depth) m.2)) :
    Means (value (depth + 1)) (.object ms)
      (((membersOutcome (consMember (value depth)) ms []).map List.reverse).map .object) := by
  intro blank text rest hblank htext _
  cases htext with
  | object hinside =>
    have hmembers := reads_members (fun m hm done name => ((h m hm).consMember done name).self) []
      hinside rest
    have hread := (hmembers.map List.reverse).enclosed_object.map Value.object
    generalize membersOutcome (consMember (value depth)) ms [] = o at hread ⊢
    unfold value
    exact Reads.piece_bind hblank rfl (Reads.advance_bind hread)

theorem settled_value (depth : Nat) : Settled (value depth) := by
  intro t
  induction t using Tree.induct generalizing depth with
  | null => exact ⟨_, means_value_null depth⟩
  | boolean b => exact ⟨_, means_value_boolean depth b⟩
  | number n => exact exists_means_value_number depth n
  | string s => exact ⟨_, means_value_string depth s⟩
  | array items ih =>
    cases depth with
    | zero =>
      refine ⟨none, fun _ _ _ hblank htext _ => ?_⟩
      cases htext
      unfold value
      exact Reads.piece_bind hblank rfl ((fails_failNext _).reads _ _)
    | succ depth =>
      refine ⟨_, means_value_array fun t ht => ?_⟩
      obtain ⟨o, hmeans⟩ := ih t ht depth
      exact hmeans.self
  | object ms ih =>
    cases depth with
    | zero =>
      refine ⟨none, fun _ _ _ hblank htext _ => ?_⟩
      cases htext
      unfold value
      exact Reads.piece_bind hblank rfl ((fails_failNext _).reads _ _)
    | succ depth =>
      refine ⟨_, means_value_object fun m hm => ?_⟩
      obtain ⟨o, hmeans⟩ := ih m hm depth
      exact hmeans.self

/-! ### Values that are passed over -/

/-- Whether the loop passes over a tree and goes on behind it, in at most two steps for each
character. -/
def Passes (t : Tree) : Prop :=
  ∀ ⦃text : List Char⦄, Spells t text → ∃ steps ≤ 2 * text.length,
    ∀ ⦃blank tail rest : List Char⦄, IsBlank blank → Stops (tail ++ rest) →
      ∀ (n : Nat) (opened : List Bracket) (o : Option Unit),
        Reads (passLoop n .more opened) tail rest o →
          Reads (passLoop (n + steps) .value opened) (blank ++ (text ++ tail)) rest o

theorem Passes.of_scalar {t : Tree}
    (h : ∀ text, Spells t text → ∃ c s, text = c :: s ∧ isSpace c = false ∧ c ≠ '[' ∧ c ≠ '\x7b' ∧
      ∀ rest, Stops rest → Reads (passScalar c) (c :: s) rest (some ())) : Passes t := by
  intro text htext
  obtain ⟨c, s, rfl, hspace, hsquare, hcurly, hread⟩ := h text htext
  refine ⟨1, Nat.le_add_left .., fun blank tail rest hblank hrest n opened o hnext => ?_⟩
  rw [List.cons_append]
  refine Reads.piece_bind hblank hspace ?_
  split
  · rename_i heq
    exact nomatch heq
  · rename_i heq
    exact absurd (Option.some.inj heq) hsquare
  · rename_i heq
    exact absurd (Option.some.inj heq) hcurly
  · rename_i heq
    obtain rfl := Option.some.inj heq
    rw [← List.cons_append]
    exact (hread _ hrest).bind_some hnext

/-- An item of a container whose innermost bracket is `bracket`, with what stands in front of its
value. -/
def PassesItem (bracket : Bracket) (text : List Char) : Prop :=
  ∃ steps ≤ 2 * text.length, ∀ ⦃blank tail rest : List Char⦄, IsBlank blank → Stops (tail ++ rest) →
    ∀ (n : Nat) (outer : List Bracket) (o : Option Unit),
      Reads (passLoop n .more (bracket :: outer)) tail rest o →
        Reads (do passName bracket; passLoop (n + steps) .value (bracket :: outer))
          (blank ++ (text ++ tail)) rest o

def Bracket.closing : Bracket → Char
  | .square => ']'
  | .curly => '\x7d'

/-- What a loop expects in front of an item: the first one or a later one. -/
def Expecting.item : Bool → Expecting
  | true => .first
  | false => .more

section

variable {bracket : Bracket} {outer : List Bracket} {n : Nat} {blank text rest : List Char}
  {o : Option Unit}

theorem reads_passLoop_close (first : Bool) (hblank : IsBlank blank)
    (h : Reads (passLoop n .more outer) text rest o) :
    Reads (passLoop (n + 1) (.item first) (bracket :: outer)) (blank ++ bracket.closing :: text) rest
      o := by
  have hspace : isSpace bracket.closing = false := by cases bracket <;> rfl
  have hclose : bracket.isClosedBy bracket.closing = true := by cases bracket <;> rfl
  cases first
  all_goals
    refine Reads.piece_bind hblank hspace ?_
    simp only [hclose, if_true]
    exact Reads.advance_bind h

theorem reads_passLoop_first {c : Char} (hblank : IsBlank blank) (hspace : isSpace c = false)
    (hopen : bracket.isClosedBy c = false)
    (h : Reads (do passName bracket; passLoop n .value (bracket :: outer)) (c :: text) rest o) :
    Reads (passLoop (n + 1) .first (bracket :: outer)) (blank ++ c :: text) rest o := by
  refine Reads.piece_bind hblank hspace ?_
  simp only [hopen, Bool.false_eq_true, if_false, if_true]
  exact h

theorem reads_passLoop_later (hblank : IsBlank blank)
    (h : Reads (do passName bracket; passLoop n .value (bracket :: outer)) text rest o) :
    Reads (passLoop (n + 1) .more (bracket :: outer)) (blank ++ ',' :: text) rest o := by
  have hopen : bracket.isClosedBy ',' = false := by cases bracket <;> rfl
  refine Reads.piece_bind hblank rfl ?_
  simp only [hopen, Bool.false_eq_true, if_false, reduceCtorEq]
  exact Reads.advance_bind h

end

/-- The items of a container and its closing bracket. -/
theorem exists_reads_passLoop {α : Type} {Item : α → List Char → Prop} {bracket : Bracket}
    {first : Bool} {items : List α} {body : List Char}
    (hitem : ∀ a ∈ items, ∀ text, Item a text → PassesItem bracket text ∧
      ∃ c s, text = c :: s ∧ isSpace c = false ∧ bracket.isClosedBy c = false)
    (hbody : Listed Item first items body) :
    ∃ steps ≤ 2 * body.length + (if first then 2 else 1),
      ∀ (tail rest : List Char) (n : Nat) (outer : List Bracket) (o : Option Unit),
        Reads (passLoop n .more outer) tail rest o →
          Reads (passLoop (n + steps) (.item first) (bracket :: outer))
            (body ++ bracket.closing :: tail) rest o := by
  induction hbody with
  | @done first blank hblank =>
    refine ⟨1, by split <;> omega, fun tail rest n outer o hnext => ?_⟩
    exact reads_passLoop_close first hblank hnext
  | @item first a items lead text body hlead htext hbody ih =>
    obtain ⟨hitem, hitems⟩ := List.forall_mem_cons.mp hitem
    obtain ⟨⟨steps, hsteps, hpass⟩, c, s, rfl, hspace, hopen⟩ := hitem text htext
    obtain ⟨steps', hsteps', ih⟩ := ih hitems
    refine ⟨steps' + steps + 1, ?_, fun tail rest n outer o hnext => ?_⟩
    · have hlength : (if first then 0 else 1) ≤ lead.length := by
        cases hlead with
        | first h => exact Nat.zero_le _
        | later h h' =>
          rw [List.length_append, List.length_cons]
          exact Nat.le_trans (Nat.le_add_left ..) (Nat.le_add_left ..)
      rw [List.length_append, List.length_append]
      cases first <;> simp only [Bool.false_eq_true, if_true, if_false] at hlength hsteps' ⊢ <;> omega
    · have hstops : Stops (body ++ bracket.closing :: tail ++ rest) := by
        rw [List.append_assoc]
        refine hbody.stops (stops_cons ?_ _)
        cases bracket <;> decide
      have hvalue : ∀ blank, IsBlank blank → Reads
          (do passName bracket; passLoop (n + (steps' + steps)) .value (bracket :: outer))
          (blank ++ (c :: s ++ (body ++ bracket.closing :: tail))) rest o := by
        intro blank hblank
        rw [← Nat.add_assoc]
        exact hpass hblank hstops _ outer o (ih tail rest n outer o hnext)
      cases hlead with
      | first hblank =>
        rw [List.append_assoc, List.append_assoc]
        exact reads_passLoop_first hblank hspace hopen (hvalue [] isBlank_nil)
      | later hblank hblank' =>
        rw [List.append_assoc, List.append_assoc, List.cons_append, List.append_assoc]
        exact reads_passLoop_later hblank (hvalue _ hblank')

theorem Passes.item {t : Tree} (h : Passes t) {text : List Char} (htext : Spells t text) :
    PassesItem .square text := by
  obtain ⟨steps, hsteps, hpass⟩ := h htext
  refine ⟨steps, hsteps, fun blank tail rest hblank hrest n outer o hnext => ?_⟩
  exact (Reads.pure () _).bind_some (hpass hblank hrest n _ o hnext)

theorem Passes.member {m : List Symbol × Tree} (h : Passes m.2) {text : List Char}
    (htext : SpellsMember Spells m text) : PassesItem .curly text := by
  cases htext with
  | @mk name value before after text hbefore hafter hvalue =>
    obtain ⟨steps, hsteps, hpass⟩ := h hvalue
    refine ⟨steps, ?_, fun blank tail rest hblank hrest n outer o hnext => ?_⟩
    · simp only [List.length_append, List.length_cons]
      omega
    · have hname : ∀ rest, Reads (passName .curly) (blank ++ (quotedText name ++ (before ++ [':'])))
          rest (some ()) :=
        fun rest => Reads.piece_bind hblank rfl
          ((reads_passString name _).bind_some (reads_colon hbefore rest))
      have hread : Reads (do passName .curly; passLoop (n + steps) .value (.curly :: outer)) _ rest o :=
        (hname _).bind_some (hpass hafter hrest n _ o hnext)
      simp only [List.append_assoc, List.singleton_append] at hread
      simp only [List.append_assoc, List.cons_append]
      exact hread

theorem passes (t : Tree) : Passes t := by
  induction t using Tree.induct with
  | null =>
    refine .of_scalar fun text htext => ?_
    cases htext
    exact ⟨_, _, rfl, rfl, by decide, by decide, fun rest _ => reads_word 'n' _ rest⟩
  | boolean b =>
    refine .of_scalar fun text htext => ?_
    cases htext with
    | boolTrue => exact ⟨_, _, rfl, rfl, by decide, by decide, fun rest _ => reads_word 't' _ rest⟩
    | boolFalse => exact ⟨_, _, rfl, rfl, by decide, by decide, fun rest _ => reads_word 'f' _ rest⟩
  | number n =>
    refine .of_scalar fun text htext => ?_
    obtain ⟨c, s, hn, hc⟩ := n.exists_cons
    have hne : ∀ d, ¬ (d = '-' ∨ d.isDigit = true) → c ≠ d := fun d hd heq => hd (heq ▸ hc)
    cases htext
    refine ⟨c, s, hn, isSpace_of_numeral hc, hne _ (by decide), hne _ (by decide), ?_⟩
    intro rest hrest
    have hread := reads_passNumeral n hrest
    rw [hn] at hread
    unfold passScalar
    split
    case h_5 =>
      rw [if_pos hc]
      exact hread
    all_goals exact absurd hc (by decide)
  | string s =>
    refine .of_scalar fun text htext => ?_
    cases htext
    exact ⟨_, _, rfl, rfl, by decide, by decide, fun rest _ => reads_passString s rest⟩
  | array items ih =>
    intro text htext
    cases htext with
    | @array _ inside hinside =>
      have hitem : ∀ t ∈ items, ∀ text, Spells t text → PassesItem .square text ∧
          ∃ c s, text = c :: s ∧ isSpace c = false ∧ Bracket.square.isClosedBy c = false := by
        intro t ht text htext
        obtain ⟨c, s, heq, hspace, hc⟩ := htext.exists_cons
        exact ⟨(ih t ht).item htext, c, s, heq, hspace, decide_eq_false hc⟩
      obtain ⟨steps, hsteps, hpass⟩ := exists_reads_passLoop hitem hinside
      refine ⟨steps + 1, ?_, fun blank tail rest hblank _ n opened o hnext => ?_⟩
      · simp only [if_true, List.length_cons, List.length_append] at hsteps ⊢
        omega
      · rw [List.cons_append, List.append_assoc]
        exact Reads.piece_bind hblank rfl (Reads.advance_bind (hpass tail rest n opened o hnext))
  | object members ih =>
    intro text htext
    cases htext with
    | @object _ inside hinside =>
      have hitem : ∀ m ∈ members, ∀ text, SpellsMember Spells m text → PassesItem .curly text ∧
          ∃ c s, text = c :: s ∧ isSpace c = false ∧ Bracket.curly.isClosedBy c = false := by
        intro m hm text htext
        refine ⟨(ih m hm).member htext, ?_⟩
        cases htext
        exact ⟨_, _, rfl, rfl, rfl⟩
      obtain ⟨steps, hsteps, hpass⟩ := exists_reads_passLoop hitem hinside
      refine ⟨steps + 1, ?_, fun blank tail rest hblank _ n opened o hnext => ?_⟩
      · simp only [if_true, List.length_cons, List.length_append] at hsteps ⊢
        omega
      · rw [List.cons_append, List.append_assoc]
        exact Reads.piece_bind hblank rfl (Reads.advance_bind (hpass tail rest n opened o hnext))

/-- Passing over a value never fails. -/
theorem means_passValue (t : Tree) : Means passValue t (some ()) := by
  intro blank text rest hblank htext hrest
  obtain ⟨steps, hsteps, hpass⟩ := passes t htext
  refine Reads.fuel_bind fun n hn => ?_
  have hlength : steps + 1 ≤ n := by
    simp only [List.length_append] at hn
    omega
  obtain ⟨spare, rfl⟩ := Nat.exists_eq_add_of_le' hlength
  have hread := @hpass blank [] rest hblank hrest (spare + 1) [] (some ()) (Reads.pure () rest)
  rw [List.append_nil] at hread
  rwa [Nat.add_right_comm, Nat.add_assoc] at hread

/-! ### Whole documents -/

/-- What is left of the reading of a whole document. -/
theorem toOption_start {whole : Reader α} {source : String} {o : Option α}
    (h : Reads whole source.toList [] o) :
    (match whole (Cursor.start source) with
      | .ok a _ => Except.ok a
      | .error problem _ => .error problem : Except Problem α).toOption = o := by
  have hread := h 0 (2 * source.toList.length + 2)
    (Nat.le_of_eq (by rw [List.append_nil]))
  rw [List.append_nil] at hread
  cases o with
  | none =>
    obtain ⟨problem, cursor, hread⟩ := hread
    simp only [Cursor.start, hread]
    rfl
  | some a =>
    obtain ⟨offset, hread⟩ := hread
    simp only [Cursor.start, hread]
    rfl

/-- A document gives what the reader means by its tree. -/
theorem toOption_readAll {r : Nat → Reader α} (h : Settled (r maxDepth)) {t : Tree} {source : String}
    (hsource : IsDocument t source.toList) :
    (readAll r source).toOption = outcome (r maxDepth) t := by
  refine toOption_start ?_
  generalize source.toList = text at hsource
  cases hsource with
  | @mk blank text blank' hblank htext hblank' =>
    have hvalue : Reads (r maxDepth) (blank ++ text) (blank' ++ []) (outcome (r maxDepth) t) :=
      h.means t hblank htext (hblank'.stops stops_nil)
    have hend : Reads peekPiece blank' [] (some none) := reads_peekPiece hblank' nofun
    rw [← List.append_assoc, ← Option.bind_fun_some (outcome (r maxDepth) t)]
    exact hvalue.bind fun a _ => hend.bind_end (Reads.pure a [])

end OvsdbModels.Json
