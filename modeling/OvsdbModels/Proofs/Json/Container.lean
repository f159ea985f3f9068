/-
  OvsdbModels/Proofs/Json/Container.lean
  ======================================
  **Reading arrays and objects.**

  A reader means one thing by a tree if it has the same outcome on every text that spells the tree
  (`Means`); what it means can then be told from one of the texts (`outcome`).  The items of an array and
  the members of an object are read one after another, so what a loop over them gives follows from what
  its steps mean (`reads_itemsLoop`, `reads_membersLoop`).
-/
import OvsdbModels.Json.Document
import OvsdbModels.Proofs.Json.Numeral
import OvsdbModels.Proofs.Json.Text

namespace OvsdbModels.Json

variable {α β σ : Type}

/-! ### Heads and ends of texts -/

theorem Numeral.exists_cons (n : Numeral) :
    ∃ c s, n.text = c :: s ∧ (c = '-' ∨ c.isDigit = true) := by
  obtain ⟨c, ds, hds, hc⟩ := n.whole.exists_cons
  unfold Numeral.text
  cases n.negative with
  | true => exact ⟨'-', _, rfl, Or.inl rfl⟩
  | false => exact ⟨c, _, by rw [hds]; rfl, Or.inr hc⟩

theorem isSpace_of_numeral {c : Char} (h : c = '-' ∨ c.isDigit = true) : isSpace c = false := by
  rcases h with rfl | h
  · rfl
  · rw [Bool.eq_false_iff]
    intro hspace
    simp only [isSpace, Bool.or_eq_true, decide_eq_true_eq] at hspace
    rcases hspace with ((rfl | rfl) | rfl) | rfl <;> exact absurd h (by decide)

/-- A value begins with a character that is neither white space nor the end of a container. -/
theorem Spells.exists_cons {t : Tree} {text : List Char} (h : Spells t text) :
    ∃ c s, text = c :: s ∧ isSpace c = false ∧ c ≠ ']' := by
  cases h with
  | null => exact ⟨_, _, rfl, rfl, by decide⟩
  | boolTrue => exact ⟨_, _, rfl, rfl, by decide⟩
  | boolFalse => exact ⟨_, _, rfl, rfl, by decide⟩
  | number n =>
    obtain ⟨c, s, htext, hc⟩ := n.exists_cons
    refine ⟨c, s, htext, isSpace_of_numeral hc, ?_⟩
    rintro rfl
    exact absurd hc (by decide)
  | string s => exact ⟨_, _, rfl, rfl, by decide⟩
  | array h => exact ⟨_, _, rfl, rfl, by decide⟩
  | object h => exact ⟨_, _, rfl, rfl, by decide⟩

theorem stops_nil : Stops [] := nofun

theorem stops_cons {c : Char} (h : c ∈ [' ', '\n', '\t', '\r', ',', ']', '\x7d'])
    (rest : List Char) : Stops (c :: rest) :=
  fun _ hd => Option.some.inj hd ▸ h

theorem IsBlank.stops {blank rest : List Char} (h : IsBlank blank) (hrest : Stops rest) :
    Stops (blank ++ rest) := by
  cases blank with
  | nil => exact hrest
  | cons c blank =>
    have hc := h c List.mem_cons_self
    simp only [isSpace, Bool.or_eq_true, decide_eq_true_eq] at hc
    rcases hc with ((rfl | rfl) | rfl) | rfl <;> exact stops_cons (by decide) _

/-- Behind an item stand a comma and another item, or the end. -/
theorem Listed.stops {Item : α → List Char → Prop} {items : List α} {body : List Char}
    (h : Listed Item false items body) {rest : List Char} (hrest : Stops rest) :
    Stops (body ++ rest) := by
  cases h with
  | done h => exact h.stops hrest
  | item hlead _ _ =>
    cases hlead with
    | later h h' =>
      rw [List.append_assoc, List.append_assoc]
      exact h.stops (stops_cons (by decide) _)

theorem Listed.length_le {Item : α → List Char → Prop} (hitem : ∀ a text, Item a text → text ≠ [])
    {first : Bool} {items : List α} {body : List Char} (h : Listed Item first items body) :
    items.length ≤ body.length := by
  induction h with
  | done h => exact Nat.zero_le _
  | item hlead htext hrest ih =>
    have hlength := List.length_pos_iff.mpr (hitem _ _ htext)
    rw [List.length_cons, List.length_append, List.length_append]
    omega

theorem Spells.ne_nil {t : Tree} {text : List Char} (h : Spells t text) : text ≠ [] := by
  obtain ⟨c, s, rfl, -⟩ := h.exists_cons
  exact List.cons_ne_nil c s

/-! ### Pieces between items -/

theorem Reads.piece_bind_head {f : Option Char → Reader α} {blank text rest : List Char} {c : Char}
    {outcome : Option α} (hblank : IsBlank blank) (h : (text ++ rest).head? = some c)
    (hc : isSpace c = false) (hf : Reads (f (some c)) text rest outcome) :
    Reads (peekPiece >>= f) (blank ++ text) rest outcome := by
  refine (reads_peekPiece hblank fun d hd => ?_).bind_some (h ▸ hf)
  rw [← Option.some.inj (h.symm.trans hd)]
  exact hc

theorem reads_hasItem {first : Bool} {lead : List Char} (h : Lead first lead) {c : Char}
    (hspace : isSpace c = false) (hc : c ≠ ']') (rest : List Char) :
    Reads (hasItem first) lead (c :: rest) (some true) := by
  cases h with
  | first h =>
    rw [← List.append_nil lead]
    refine Reads.piece_bind_head h rfl hspace ?_
    split
    · rename_i heq
      exact nomatch heq
    · rename_i heq
      exact absurd (Option.some.inj heq) hc
    · exact Reads.pure true _
  | @later blank blank' h h' =>
    refine Reads.piece_bind h rfl (Reads.advance_bind ?_)
    rw [← List.append_nil blank']
    refine Reads.piece_bind_head h' rfl hspace ?_
    split
    · rename_i heq
      exact nomatch heq
    · rename_i heq
      exact absurd (Option.some.inj heq) hc
    · exact Reads.pure true _

theorem reads_hasItem_end (first : Bool) {blank : List Char} (h : IsBlank blank)
    (rest : List Char) : Reads (hasItem first) blank (']' :: rest) (some false) := by
  rw [← List.append_nil blank]
  exact Reads.piece_bind_head h rfl rfl (Reads.pure false _)

theorem reads_hasMember {first : Bool} {lead : List Char} (h : Lead first lead)
    (rest : List Char) : Reads (hasMember first) lead ('"' :: rest) (some true) := by
  cases h with
  | first h =>
    rw [← List.append_nil lead]
    exact Reads.piece_bind_head h rfl rfl (Reads.pure true _)
  | @later blank blank' h h' =>
    refine Reads.piece_bind h rfl (Reads.advance_bind ?_)
    rw [← List.append_nil blank']
    exact Reads.piece_bind_head h' rfl rfl (Reads.pure true _)

theorem reads_hasMember_end (first : Bool) {blank : List Char} (h : IsBlank blank)
    (rest : List Char) : Reads (hasMember first) blank ('\x7d' :: rest) (some false) := by
  rw [← List.append_nil blank]
  exact Reads.piece_bind_head h rfl rfl (Reads.pure false _)

theorem reads_colon {blank : List Char} (h : IsBlank blank) (rest : List Char) :
    Reads colon (blank ++ [':']) rest (some ()) :=
  Reads.piece_bind h rfl (reads_advance ':' rest)

theorem reads_endArray {blank : List Char} (h : IsBlank blank) (rest : List Char) :
    Reads endArray (blank ++ [']']) rest (some ()) :=
  Reads.piece_bind h rfl (reads_advance ']' rest)

theorem reads_endObject {blank : List Char} (h : IsBlank blank) (rest : List Char) :
    Reads endObject (blank ++ ['\x7d']) rest (some ()) :=
  Reads.piece_bind h rfl (reads_advance '\x7d' rest)

/-- An array of which items are left is not at its end. -/
theorem reads_endArray_comma {lead : List Char} (h : Lead false lead) (text rest : List Char) :
    Reads endArray (lead ++ text) rest none := by
  cases h with
  | later h h' =>
    rw [List.append_assoc]
    refine Reads.piece_bind h rfl (Reads.advance_bind (Fails.reads (Fails.bind fun next => ?_) _ _))
    split
    · exact fails_failNext _
    · exact fails_failNext _

/-- The inside of a container and then its end. -/
theorem Reads.enclosed {inside : Reader α} {finish : Reader Unit} {s t rest : List Char}
    {o : Option α} {p : Option Unit} (h : Reads inside s (t ++ rest) o)
    (hfinish : o ≠ none → Reads finish t rest p) :
    Reads (enclosed inside finish) (s ++ t) rest (o.bind fun a => p.map fun _ => a) := by
  intro offset fuel hfuel
  rw [List.append_assoc] at hfuel ⊢
  have hinside := h offset fuel hfuel
  cases o with
  | none =>
    obtain ⟨problem, cursor, hinside⟩ := hinside
    rw [Json.enclosed, hinside]
    exact ⟨_, _, rfl⟩
  | some a =>
    obtain ⟨offset', hinside⟩ := hinside
    have henough : 2 * (t ++ rest).length + 2 ≤ fuel := by
      rw [List.length_append] at hfuel
      omega
    have hend := hfinish nofun offset' fuel henough
    cases p with
    | none =>
      obtain ⟨problem, cursor, hend⟩ := hend
      refine ⟨problem, cursor, ?_⟩
      simp only [Json.enclosed, hinside, hend]
    | some u =>
      obtain ⟨final, hend⟩ := hend
      refine ⟨final, ?_⟩
      simp only [Json.enclosed, hinside, hend]

/-! ### What readers mean by trees -/

/-- Whether a reader has an outcome on every text that spells a tree, white space in front included. -/
def Means (r : Reader α) (t : Tree) (o : Option α) : Prop :=
  ∀ ⦃blank text rest : List Char⦄, IsBlank blank → Spells t text → Stops rest →
    Reads r (blank ++ text) rest o

/-- Whether a reader has an outcome on every text that spells a tree behind a member's colon. -/
def MeansMember (r : Reader α) (t : Tree) (o : Option α) : Prop :=
  ∀ ⦃blank blank' text rest : List Char⦄, IsBlank blank → IsBlank blank' → Spells t text →
    Stops rest → Reads r (blank ++ ':' :: (blank' ++ text)) rest o

def Settled (r : Reader α) : Prop := ∀ t, ∃ o, Means r t o

def SettledMember (r : Reader α) : Prop := ∀ t, ∃ o, MeansMember r t o

/-- What a reader gives on a text that makes up the whole document. -/
def run (r : Reader α) (text : List Char) : Option α :=
  match r ⟨text, 0, 2 * text.length + 2⟩ with
  | .ok a _ => some a
  | .error _ _ => none

theorem Reads.run_eq {r : Reader α} {text : List Char} {o : Option α} (h : Reads r text [] o) :
    run r text = o := by
  have hr := h 0 _ (Nat.le_refl _)
  rw [List.append_nil] at hr
  cases o with
  | none =>
    obtain ⟨problem, cursor, hr⟩ := hr
    rw [run, hr]
  | some a =>
    obtain ⟨offset, hr⟩ := hr
    rw [run, hr]

/-- What a reader means by a tree, told from the text without white space. -/
def outcome (r : Reader α) (t : Tree) : Option α := run r t.text

def outcomeMember (r : Reader α) (t : Tree) : Option α := run r (':' :: t.text)

theorem Means.outcome_eq {r : Reader α} {t : Tree} {o : Option α} (h : Means r t o) :
    outcome r t = o :=
  (h isBlank_nil (spells_text t) stops_nil).run_eq

theorem MeansMember.outcome_eq {r : Reader α} {t : Tree} {o : Option α} (h : MeansMember r t o) :
    outcomeMember r t = o :=
  (h isBlank_nil isBlank_nil (spells_text t) stops_nil).run_eq

theorem Means.self {r : Reader α} {t : Tree} {o : Option α} (h : Means r t o) :
    Means r t (outcome r t) := by
  rwa [h.outcome_eq]

theorem MeansMember.self {r : Reader α} {t : Tree} {o : Option α} (h : MeansMember r t o) :
    MeansMember r t (outcomeMember r t) := by
  rwa [h.outcome_eq]

theorem Settled.means {r : Reader α} (h : Settled r) (t : Tree) : Means r t (outcome r t) := by
  obtain ⟨o, ht⟩ := h t
  exact ht.self

theorem SettledMember.means {r : Reader α} (h : SettledMember r) (t : Tree) :
    MeansMember r t (outcomeMember r t) := by
  obtain ⟨o, ht⟩ := h t
  exact ht.self

/-! ### Items -/

/-- What a loop over items means, from what the items mean; `done` are the items so far, the last one
first. -/
def itemsOutcome (item : Reader α) : List Tree → List α → Option (List α)
  | [], done => some done.reverse
  | t :: items, done => (outcome item t).bind fun a => itemsOutcome item items (a :: done)

theorem reads_itemsLoop {item : Reader α} {items : List Tree}
    (h : ∀ t ∈ items, Means item t (outcome item t)) (spare : Nat) (done : List α)
    {body : List Char} (hbody : Listed Spells done.isEmpty items body) (rest : List Char) :
    Reads (itemsLoop item (spare + (items.length + 1)) done) body (']' :: rest)
      (itemsOutcome item items done) := by
  induction items generalizing done body with
  | nil =>
    cases hbody with
    | done hblank =>
      rw [← List.append_nil body]
      exact (reads_hasItem_end _ hblank rest).bind_some (Reads.pure _ _)
  | cons t items ih =>
    obtain ⟨ht, hitems⟩ := List.forall_mem_cons.mp h
    cases hbody with
    | @item _ _ _ lead text tail hlead htext htail =>
      have hstops : Stops (tail ++ ']' :: rest) := htail.stops (stops_cons (by decide) rest)
      have hitem := ht isBlank_nil htext hstops
      obtain ⟨c, s, rfl, hspace, hc⟩ := htext.exists_cons
      refine (reads_hasItem hlead hspace hc _).bind_some ?_
      exact hitem.bind fun a _ => ih hitems (a :: done) htail

/-! ### Members -/

/-- What a loop over members means, from what its steps mean. -/
def membersOutcome (step : σ → String → Reader σ) : List (List Symbol × Tree) → σ → Option σ
  | [], state => some state
  | (name, value) :: members, state =>
    (name? name).bind fun name =>
      (outcomeMember (step state name) value).bind fun state => membersOutcome step members state

theorem reads_membersLoop {step : σ → String → Reader σ} {members : List (List Symbol × Tree)}
    (h : ∀ m ∈ members, ∀ state name,
      MeansMember (step state name) m.2 (outcomeMember (step state name) m.2))
    (spare : Nat) {first : Bool} (state : σ) {body : List Char}
    (hbody : Listed (SpellsMember Spells) first members body) (rest : List Char) :
    Reads (membersLoop step (spare + (members.length + 1)) first state) body ('\x7d' :: rest)
      (membersOutcome step members state) := by
  induction members generalizing first state body with
  | nil =>
    cases hbody with
    | done hblank =>
      rw [← List.append_nil body]
      exact (reads_hasMember_end _ hblank rest).bind_some (Reads.pure _ _)
  | cons m members ih =>
    obtain ⟨hm, hmembers⟩ := List.forall_mem_cons.mp h
    cases hbody with
    | @item _ _ _ lead text tail hlead htext htail =>
      have hstops : Stops (tail ++ '\x7d' :: rest) := htail.stops (stops_cons (by decide) rest)
      cases htext with
      | @mk name value blank blank' text hblank hblank' hvalue =>
        refine (reads_hasMember hlead _).bind_some ?_
        rw [List.append_assoc]
        refine (reads_stringLiteral name _).bind fun name _ => ?_
        have hstep := hm state name hblank hblank' hvalue hstops
        exact hstep.bind fun state _ => ih hmembers state htail

/-! ### Whole containers -/

theorem SpellsMember.ne_nil {m : List Symbol × Tree} {text : List Char}
    (h : SpellsMember Spells m text) : text ≠ [] := by
  cases h with
  | mk _ _ _ => exact List.cons_ne_nil _ _

theorem reads_items {item : Reader α} {items : List Tree}
    (h : ∀ t ∈ items, Means item t (outcome item t)) {body : List Char}
    (hbody : Listed Spells true items body) (rest : List Char) :
    Reads (Json.items item) body (']' :: rest) (itemsOutcome item items []) := by
  refine Reads.fuel_bind fun n hn => ?_
  have hlength := hbody.length_le fun _ _ => Spells.ne_nil
  rw [List.length_append] at hn
  obtain ⟨spare, rfl⟩ := Nat.exists_eq_add_of_le' (show items.length + 1 ≤ n by omega)
  exact reads_itemsLoop h spare [] hbody rest

theorem reads_members {step : σ → String → Reader σ} {members : List (List Symbol × Tree)}
    (h : ∀ m ∈ members, ∀ state name,
      MeansMember (step state name) m.2 (outcomeMember (step state name) m.2))
    (state : σ) {body : List Char} (hbody : Listed (SpellsMember Spells) true members body)
    (rest : List Char) :
    Reads (Json.members step state) body ('\x7d' :: rest) (membersOutcome step members state) := by
  refine Reads.fuel_bind fun n hn => ?_
  have hlength := hbody.length_le fun _ _ => SpellsMember.ne_nil
  rw [List.length_append] at hn
  obtain ⟨spare, rfl⟩ := Nat.exists_eq_add_of_le' (show members.length + 1 ≤ n by omega)
  exact reads_membersLoop h spare state hbody rest

/-- An array, behind its opening bracket. -/
theorem Reads.enclosed_array {inside : Reader α} {body rest : List Char}
    {o : Option α} (h : Reads inside body (']' :: rest) o) :
    Reads (Json.enclosed inside endArray) (body ++ [']']) rest o := by
  have henclosed := h.enclosed (t := [']']) (p := some ()) fun _ =>
    reads_endArray isBlank_nil rest
  cases o with
  | none => exact henclosed
  | some a => exact henclosed

theorem Reads.enclosed_object {inside : Reader α} {body rest : List Char} {o : Option α}
    (h : Reads inside body ('\x7d' :: rest) o) :
    Reads (Json.enclosed inside endObject) (body ++ ['\x7d']) rest o := by
  have henclosed := h.enclosed (t := ['\x7d']) (p := some ()) fun _ =>
    reads_endObject isBlank_nil rest
  cases o with
  | none => exact henclosed
  | some a => exact henclosed

end OvsdbModels.Json
