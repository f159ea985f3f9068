/-
  OvsdbModels/Proofs/Json/Typed.lean
  ==================================
  **Reading values of an expected type.**

  A reader of a type looks at the first character of a value and fails if no value of its type begins
  with it.  So it is enough to know what it means by the values that do begin with one of its own
  characters (`settled_of_own`).
-/
import OvsdbModels.Json.Typed
import OvsdbModels.Proofs.Json.Document
import OvsdbModels.Proofs.Text.Form

namespace OvsdbModels.Json

variable {α β σ : Type}

/-! ### The first character -/

def numeralHeads : List Char := ['-', '0', '1', '2', '3', '4', '5', '6', '7', '8', '9']

/-- The characters that a value may begin with. -/
def Tree.heads : Tree → List Char
  | .null => ['n']
  | .boolean _ => ['t', 'f']
  | .number _ => numeralHeads
  | .string _ => ['"']
  | .array _ => ['[']
  | .object _ => ['\x7b']

theorem mem_numeralHeads {c : Char} (h : c = '-' ∨ c.isDigit = true) : c ∈ numeralHeads := by
  rcases h with rfl | h
  · exact List.mem_cons_self
  · have hascii : c.toNat < 128 :=
      Text.ascii_of_isAlphanum (by rw [Char.isAlphanum, h, Bool.or_true])
    exact Text.forall_ascii (p := fun c => c.isDigit = true → c ∈ numeralHeads) (by decide) hascii h

theorem Spells.exists_head {t : Tree} {text : List Char} (h : Spells t text) :
    ∃ c s, text = c :: s ∧ isSpace c = false ∧ c ∈ t.heads := by
  cases h with
  | null => exact ⟨_, _, rfl, rfl, List.mem_singleton_self _⟩
  | boolTrue => exact ⟨_, _, rfl, rfl, List.mem_cons_self⟩
  | boolFalse => exact ⟨_, _, rfl, rfl, List.mem_cons_of_mem _ (List.mem_singleton_self _)⟩
  | number n =>
    obtain ⟨c, s, hn, hc⟩ := n.exists_cons
    exact ⟨c, s, hn, isSpace_of_numeral hc, mem_numeralHeads hc⟩
  | string s => exact ⟨_, _, rfl, rfl, List.mem_singleton_self _⟩
  | array h => exact ⟨_, _, rfl, rfl, List.mem_singleton_self _⟩
  | object h => exact ⟨_, _, rfl, rfl, List.mem_singleton_self _⟩

theorem some_ne_of_notMem {own : List Char} {c d : Char} (hc : c ∉ own) (hd : d ∈ own) :
    some c ≠ some d :=
  fun heq => hc (Option.some.inj heq ▸ hd)

/-- A reader that fails on all but some first characters is settled if it is on the values that may
begin with one of them. -/
theorem settled_of_own {f : Option Char → Reader α} (own : List Char)
    (h : ∀ c, c ∉ own → Fails (f (some c)))
    (hown : ∀ t : Tree, t.heads.any own.contains = true → ∃ o, Means (peekPiece >>= f) t o) :
    Settled (peekPiece >>= f) := by
  intro t
  by_cases ht : t.heads.any own.contains = true
  · exact hown t ht
  · refine ⟨none, fun blank text rest hblank htext _ => ?_⟩
    obtain ⟨c, s, rfl, hspace, hc⟩ := htext.exists_head
    have hother : c ∉ own := fun hmem =>
      ht (List.any_eq_true.mpr ⟨c, hc, List.contains_iff_mem.mpr hmem⟩)
    exact Reads.piece_bind hblank hspace ((h c hother).reads _ _)

theorem fails_unexpected (expected : String) : Fails (unexpected expected : Reader α) := by
  refine Fails.bind fun next => ?_
  split
  · exact fails_failNext _
  · exact Fails.bind fun _ => fails_failHere _
  · exact Fails.bind fun _ => fails_failHere _
  · exact Fails.bind fun _ => fails_failHere _
  · exact Fails.bind fun _ => fails_failHere _
  · exact fails_failHere _
  · exact fails_failHere _
  · split
    · exact Fails.bind fun _ => fails_failHere _
    · exact fails_failNext _

/-! ### Scalars -/

theorem settled_stringAs (expected : String) : Settled (stringAs expected) := by
  refine settled_of_own ['"'] ?_ ?_
  · intro c hc
    split
    · rename_i heq
      exact absurd heq (some_ne_of_notMem hc (by decide))
    · exact fails_unexpected expected
  · intro t ht
    cases t with
    | string s =>
      refine ⟨name? s, fun _ _ _ hblank htext _ => ?_⟩
      cases htext
      exact Reads.piece_bind hblank rfl (reads_stringLiteral s _)
    | _ => exact absurd ht Bool.false_ne_true

theorem settled_boolean : Settled boolean := by
  refine settled_of_own ['t', 'f'] ?_ ?_
  · intro c hc
    split
    · rename_i heq
      exact absurd heq (some_ne_of_notMem hc (by decide))
    · rename_i heq
      exact absurd heq (some_ne_of_notMem hc (by decide))
    · exact fails_unexpected _
  · intro t ht
    cases t with
    | boolean b =>
      refine ⟨some b, fun _ _ _ hblank htext _ => ?_⟩
      cases htext with
      | boolTrue => exact Reads.piece_bind hblank rfl (reads_word_pure 't' _ _ _)
      | boolFalse => exact Reads.piece_bind hblank rfl (reads_word_pure 'f' _ _ _)
    | _ => exact absurd ht Bool.false_ne_true

theorem settled_natural : Settled natural := by
  refine settled_of_own numeralHeads ?_ ?_
  · intro c hc
    simp only [if_neg fun h => hc (mem_numeralHeads h)]
    exact fails_unexpected _
  · intro t ht
    cases t with
    | number n =>
      refine exists_means_number n fun c hc => ?_
      simp only [hc, if_true]
      refine (settles_numeral n).bind_end fun number => ?_
      cases number with
      | whole n =>
        dsimp only
        split
        · exact .pure _
        · exact .of_fails (fails_failHere _) []
      | real x => exact .of_fails (fails_failHere _) []
    | _ => exact absurd ht Bool.false_ne_true

theorem Tree.notMem_heads {t : Tree} (h : t ≠ .null) : 'n' ∉ t.heads := by
  cases t with
  | null => exact absurd rfl h
  | _ => rw [Tree.heads]; decide

theorem Settled.optional {item : Reader α} (h : Settled item) : Settled (optional item) := by
  intro t
  by_cases ht : t = .null
  · subst ht
    refine ⟨some none, fun _ _ _ hblank htext _ => ?_⟩
    cases htext
    exact Reads.piece_bind hblank rfl (reads_word_pure 'n' _ _ _)
  · refine ⟨(outcome item t).map some, fun blank text rest hblank htext hrest => ?_⟩
    have hitem := (h.means t isBlank_nil htext hrest).map some
    obtain ⟨c, s, rfl, hspace, hc⟩ := htext.exists_head
    refine Reads.piece_bind hblank hspace ?_
    split
    · rename_i heq
      exact absurd (Option.some.inj heq ▸ hc) (Tree.notMem_heads ht)
    · exact hitem

/-! ### Containers -/

/-- What is read one container deeper. -/
def atDepth (depth : Nat) (o : Nat → Option α) : Option α :=
  match depth with
  | 0 => none
  | depth + 1 => o depth

theorem reads_inArray {inside : Nat → Reader α} {body rest : List Char} {o : Nat → Option α}
    (h : ∀ depth, Reads (enclosed (inside depth) endArray) (body ++ [']']) rest (o depth))
    (depth : Nat) : Reads (inArray depth inside) ('[' :: (body ++ [']'])) rest (atDepth depth o) := by
  cases depth with
  | zero => exact (fails_failNext _).reads _ _
  | succ depth => exact Reads.advance_bind (h depth)

theorem reads_inObject {inside : Nat → Reader α} {body rest : List Char} {o : Nat → Option α}
    (h : ∀ depth, Reads (inside depth) body ('\x7d' :: rest) (o depth)) (depth : Nat) :
    Reads (inObject depth inside) ('\x7b' :: (body ++ ['\x7d'])) rest (atDepth depth o) := by
  cases depth with
  | zero => exact (fails_failNext _).reads _ _
  | succ depth => exact Reads.advance_bind (h depth).enclosed_object

theorem Settled.list {item : Nat → Reader α} (h : ∀ depth, Settled (item depth)) (depth : Nat) :
    Settled (list item depth) := by
  refine settled_of_own ['['] ?_ ?_
  · intro c hc
    split
    · rename_i heq
      exact absurd heq (some_ne_of_notMem hc (by decide))
    · exact fails_unexpected _
  · intro t ht
    cases t with
    | array trees =>
      refine ⟨atDepth depth fun depth => itemsOutcome (item depth) trees [], ?_⟩
      intro blank text rest hblank htext _
      cases htext with
      | array hinside =>
        refine Reads.piece_bind hblank rfl (reads_inArray (fun depth => ?_) depth)
        exact (reads_items (fun t _ => (h depth).means t) hinside rest).enclosed_array
    | _ => exact absurd ht Bool.false_ne_true

/-- The step of a map: a member's value is put under its name. -/
def insertMember (item : Reader α) (map : NameMap α) (name : String) : Reader (NameMap α) := do
  colon
  let a ← item
  pure (map.insert name a)

theorem Means.insertMember {item : Reader α} {t : Tree} {o : Option α} (h : Means item t o)
    (map : NameMap α) (name : String) :
    MeansMember (insertMember item map name) t (o.map (map.insert name)) :=
  (h.map (map.insert name)).member

theorem means_nameMap_object {item : Nat → Reader α} (h : ∀ depth, Settled (item depth))
    (depth : Nat) (ms : List (List Symbol × Tree)) :
    Means (nameMap item depth) (.object ms)
      (atDepth depth fun depth => membersOutcome (insertMember (item depth)) ms .empty) := by
  intro blank text rest hblank htext _
  cases htext with
  | object hinside =>
    refine Reads.piece_bind hblank rfl (reads_inObject (fun depth => ?_) depth)
    refine reads_members (fun m _ map name => ?_) _ hinside rest
    exact (((h depth).means m.2).insertMember map name).self

theorem Settled.nameMap {item : Nat → Reader α} (h : ∀ depth, Settled (item depth)) (depth : Nat) :
    Settled (nameMap item depth) := by
  refine settled_of_own ['\x7b'] ?_ ?_
  · intro c hc
    split
    · rename_i heq
      exact absurd heq (some_ne_of_notMem hc (by decide))
    · exact fails_unexpected _
  · intro t ht
    cases t with
    | object ms => exact ⟨_, means_nameMap_object h depth ms⟩
    | _ => exact absurd ht Bool.false_ne_true

end OvsdbModels.Json
