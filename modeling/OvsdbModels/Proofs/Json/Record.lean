/-
  OvsdbModels/Proofs/Json/Record.lean
  ===================================
  **Reading records.**

  A record is read member by member or field by field.  Its members are a loop over drafts and what is
  made of the last draft (`ReadsMembers.of_steps`).  Its fields take the items of an array one by one
  and leave the others (`Takes`); none may be left where the array ends.
-/
import Mathlib.Data.List.Forall2
import OvsdbModels.Proofs.Json.Typed

namespace OvsdbModels.Json

variable {α β σ : Type}

/-! ### Members -/

/-- What a reader gives on the inside of an object. -/
def ReadsMembers (r : Reader α) (ms : List (List Symbol × Tree)) (o : Option α) : Prop :=
  ∀ ⦃body : List Char⦄, Listed (SpellsMember Spells) true ms body →
    ∀ rest, Reads r body ('\x7d' :: rest) o

theorem ReadsMembers.of_steps {step : σ → String → Reader σ} {finish : σ → Reader α}
    {p : σ → Option α} (hstep : ∀ state name, SettledMember (step state name))
    (hfinish : ∀ state rest, Reads (finish state) [] rest (p state)) (initial : σ)
    (ms : List (List Symbol × Tree)) :
    ReadsMembers (members step initial >>= finish) ms
      ((membersOutcome step ms initial).bind p) := by
  intro body hbody rest
  have hread := reads_members (fun m _ state name => (hstep state name).means m.2) initial hbody rest
  rw [← List.append_nil body]
  exact hread.bind fun state _ => hfinish state _

/-- Of the members of two objects, those of one place have the same name as it is written, and the
steps do not tell their values apart. -/
theorem membersOutcome_congr {step : σ → String → Reader σ} {ms ms' : List (List Symbol × Tree)}
    (h : List.Forall₂ (fun m m' => m.1 = m'.1 ∧ ∀ name, name? m.1 = some name → ∀ state,
      outcomeMember (step state name) m.2 = outcomeMember (step state name) m'.2) ms ms')
    (state : σ) : membersOutcome step ms state = membersOutcome step ms' state := by
  induction h generalizing state with
  | nil => rfl
  | @cons m m' ms ms' hm _ ih =>
    obtain ⟨s, t⟩ := m
    obtain ⟨s', t'⟩ := m'
    obtain ⟨hname, hstep⟩ := hm
    dsimp only at hname hstep
    subst hname
    simp only [membersOutcome]
    refine Option.bind_congr fun name heq => ?_
    rw [hstep name heq]
    exact Option.bind_congr fun state _ => ih state

theorem MeansMember.map {r : Reader α} {t : Tree} {o : Option α} (h : MeansMember r t o)
    (f : α → β) : MeansMember (do pure (f (← r))) t (o.map f) :=
  fun _ _ _ _ hblank hblank' htext hrest => (h hblank hblank' htext hrest).map f

/-- What a member means that may occur once. -/
def onceOutcome (before o : Option α) : Option (Option α) :=
  match before with
  | some _ => none
  | none => o.map some

theorem Means.once {item : Reader α} {t : Tree} {o : Option α} (h : Means item t o) (name : String)
    (before : Option α) : MeansMember (once name before item) t (onceOutcome before o) := by
  cases before with
  | some a => exact fun _ _ _ _ _ _ _ _ => (fails_failWhole _).reads _ _
  | none => exact (h.map some).member

/-- A member that sets a field of a draft. -/
theorem Settled.once {item : Reader α} (h : Settled item) (name : String) (before : Option α)
    (f : Option α → σ) : SettledMember (do pure (f (← once name before item))) :=
  fun t => ⟨_, ((h.means t).once name before).map f⟩

theorem settledMember_passMember (state : σ) : SettledMember (do passMember; pure state) :=
  fun t => ⟨_, (means_passValue t).member.map fun _ => state⟩

theorem reads_required (name : String) (o : Option α) (rest : List Char) :
    Reads (required name o) [] rest o := by
  cases o with
  | some a => exact Reads.pure a rest
  | none => exact (fails_failWhole _).reads _ _

theorem reads_required_bind (name : String) (o : Option α) {f : α → Reader β} {p : α → Option β}
    {rest : List Char} (h : ∀ a, Reads (f a) [] rest (p a)) :
    Reads (required name o >>= f) [] rest (o.bind p) :=
  (reads_required name o _).bind (s := []) fun a _ => h a

/-! ### Fields in their order -/

/-- Whether a reader takes some of the items that are left of an array and leaves the others. -/
def Takes (first : Bool) (r : Reader α) (fields : StateT (List Tree) Option α) : Prop :=
  ∀ ⦃items : List Tree⦄ ⦃body : List Char⦄, Listed Spells first items body →
    ∃ taken left, body = taken ++ left ∧
      (∀ p, fields items = some p → Listed Spells false p.2 left) ∧
      ∀ rest, Reads r taken (left ++ ']' :: rest) ((fields items).map Prod.fst)

theorem Takes.pure (a : α) : Takes false (pure a) (pure a) := by
  intro items body hbody
  refine ⟨[], body, rfl, fun p hp => ?_, fun rest => Reads.pure a _⟩
  obtain rfl := Option.some.inj hp
  exact hbody

theorem Takes.bind {first : Bool} {r : Reader α} {f : α → Reader β}
    {fields : StateT (List Tree) Option α} {more : α → StateT (List Tree) Option β}
    (h : Takes first r fields) (hf : ∀ a, Takes false (f a) (more a)) :
    Takes first (r >>= f) (fields >>= more) := by
  intro items body hbody
  obtain ⟨taken, left, rfl, hleft, hread⟩ := h hbody
  have hrun : (fields >>= more) items = (fields items).bind fun p => more p.1 p.2 := rfl
  rw [hrun]
  cases heq : fields items with
  | none =>
    simp only [heq] at hread
    exact ⟨taken, left, rfl, nofun, fun rest => (hread rest).bind_none f⟩
  | some p =>
    obtain ⟨a, items'⟩ := p
    simp only [heq] at hread
    obtain ⟨taken', left', rfl, hleft', hread'⟩ := hf a (hleft _ heq)
    refine ⟨taken ++ taken', left', (List.append_assoc ..).symm, hleft', fun rest => ?_⟩
    have hhead := hread rest
    rw [List.append_assoc] at hhead
    exact hhead.bind_some (hread' rest)

/-- What the field at the head of the items means; `missing` stands for one that is not there. -/
def fieldOutcome (item : Reader α) (missing : Option α) : StateT (List Tree) Option α
  | [] => missing.map fun a => (a, [])
  | t :: items => (outcome item t).map fun a => (a, items)

theorem takes_field {item other : Reader α} {missing : Option α} (hitem : Settled item)
    (hother : ∀ rest, Reads other [] rest missing) (first : Bool) :
    Takes first (do if ← hasItem first then item else other) (fieldOutcome item missing) := by
  intro items body hbody
  cases hbody with
  | done hblank =>
    refine ⟨body, [], (List.append_nil _).symm, fun p hp => ?_, fun rest => ?_⟩
    · obtain ⟨a, -, rfl⟩ := Option.map_eq_some_iff.mp hp
      exact .done isBlank_nil
    · have hmissing : missing.map (Prod.fst ∘ fun a => (a, ([] : List Tree))) = missing :=
        Option.map_id'
      rw [fieldOutcome, Option.map_map, hmissing]
      exact (reads_hasItem_end first hblank rest).bind_end (hother _)
  | @item _ t items lead text tail hlead htext htail =>
    refine ⟨lead ++ text, tail, (List.append_assoc ..).symm, fun p hp => ?_, fun rest => ?_⟩
    · obtain ⟨a, -, rfl⟩ := Option.map_eq_some_iff.mp hp
      exact htail
    · have hstops : Stops (tail ++ ']' :: rest) := htail.stops (stops_cons (by decide) rest)
      have hvalue := hitem.means t isBlank_nil htext hstops
      have hfield : (outcome item t).map (Prod.fst ∘ fun a => (a, items)) = outcome item t :=
        Option.map_id'
      rw [fieldOutcome, Option.map_map, hfield]
      obtain ⟨c, s, rfl, hspace, hc⟩ := htext.exists_cons
      refine (reads_hasItem hlead hspace hc _).bind_some ?_
      exact hvalue

theorem takes_fieldAt {item : Reader α} (h : Settled item) (shape : String) (position : Nat) :
    Takes (position = 0) (fieldAt shape position item) (fieldOutcome item none) :=
  takes_field h (fun _ => (fails_failWhole _).reads _ _) _

theorem takes_fieldAtD {item : Reader α} (h : Settled item) (position : Nat) (default : α) :
    Takes (position = 0) (fieldAtD position default item) (fieldOutcome item (some default)) :=
  takes_field h (fun rest => Reads.pure default rest) _

/-- What a record means that is written as an array: its fields, with no item left. -/
def allFields (fields : StateT (List Tree) Option α) (items : List Tree) : Option α :=
  (fields items).bind fun p => if p.2.isEmpty then some p.1 else none

theorem Takes.enclosed {r : Reader α} {fields : StateT (List Tree) Option α}
    (h : Takes true r fields) {items : List Tree} {body : List Char}
    (hbody : Listed Spells true items body) (rest : List Char) :
    Reads (enclosed r endArray) (body ++ [']']) rest (allFields fields items) := by
  obtain ⟨taken, left, rfl, hleft, hread⟩ := h hbody
  have hinside := hread rest
  rw [← List.singleton_append, ← List.append_assoc] at hinside
  rw [allFields, List.append_assoc]
  cases heq : fields items with
  | none =>
    rw [heq] at hinside
    exact hinside.enclosed (p := none) fun hne => absurd rfl hne
  | some p =>
    obtain ⟨a, items'⟩ := p
    rw [heq] at hinside
    cases hleft _ heq with
    | done hblank => exact hinside.enclosed (p := some ()) fun _ => reads_endArray hblank rest
    | item hlead htext htail =>
      refine hinside.enclosed (p := none) fun _ => ?_
      rw [List.append_assoc]
      exact reads_endArray_comma hlead _ rest

/-! ### Records -/

section

variable {byMembers inOrder : Nat → Reader α}

theorem means_record_object {o : Nat → Option α} {ms : List (List Symbol × Tree)}
    (h : ∀ depth, ReadsMembers (byMembers depth) ms (o depth)) (name : String) (depth : Nat) :
    Means (record name byMembers inOrder depth) (.object ms) (atDepth depth o) := by
  intro blank text rest hblank htext _
  cases htext with
  | object hinside =>
    exact Reads.piece_bind hblank rfl (reads_inObject (fun depth => h depth hinside rest) depth)

theorem means_record_array {fields : Nat → StateT (List Tree) Option α}
    (h : ∀ depth, Takes true (inOrder depth) (fields depth)) (name : String) (depth : Nat)
    (items : List Tree) :
    Means (record name byMembers inOrder depth) (.array items)
      (atDepth depth fun depth => allFields (fields depth) items) := by
  intro blank text rest hblank htext _
  cases htext with
  | array hinside =>
    exact Reads.piece_bind hblank rfl
      (reads_inArray (fun depth => (h depth).enclosed hinside rest) depth)

theorem settled_record {o : Nat → List (List Symbol × Tree) → Option α}
    {fields : Nat → StateT (List Tree) Option α}
    (hmembers : ∀ depth ms, ReadsMembers (byMembers depth) ms (o depth ms))
    (hitems : ∀ depth, Takes true (inOrder depth) (fields depth)) (name : String) (depth : Nat) :
    Settled (record name byMembers inOrder depth) := by
  refine settled_of_own ['\x7b', '['] ?_ ?_
  · intro c hc
    split
    · rename_i heq
      exact absurd heq (some_ne_of_notMem hc (by decide))
    · rename_i heq
      exact absurd heq (some_ne_of_notMem hc (by decide))
    · exact fails_unexpected _
  · intro t ht
    cases t with
    | object ms => exact ⟨_, means_record_object (fun depth => hmembers depth ms) name depth⟩
    | array items => exact ⟨_, means_record_array hitems name depth items⟩
    | _ => exact absurd ht Bool.false_ne_true

end

end OvsdbModels.Json
