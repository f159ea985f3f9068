/-
  OvsdbModels/Proofs/Json/Ensures.lean
  ====================================
  **What a reader gives, whatever it reads.**

  `Ensures r p` says that everything a reader gives has a property, from any place of any document.  A
  property that is kept by one item, member or field is kept by the whole array, object or record.
-/
import OvsdbModels.Proofs.Json.Typed

namespace OvsdbModels.Json

variable {α β σ : Type}

/-- Everything that a reader gives has a property. -/
def Ensures (r : Reader α) (p : α → Prop) : Prop :=
  ∀ cursor a after, r cursor = .ok a after → p a

theorem Fails.ensures {r : Reader α} (h : Fails r) (p : α → Prop) : Ensures r p := by
  intro cursor a after hr
  obtain ⟨problem, cursor', hfail⟩ := h cursor
  rw [hfail] at hr
  exact nomatch hr

namespace Ensures

variable {p : α → Prop} {q : β → Prop}

/-! ### Sequences -/

theorem pure {a : α} (h : p a) : Ensures (pure a) p := by
  intro cursor b after hr
  cases hr
  exact h

theorem bind {x : Reader β} {f : β → Reader α} (hx : Ensures x q)
    (hf : ∀ b, q b → Ensures (f b) p) : Ensures (x >>= f) p := by
  intro cursor a after hr
  cases hread : x cursor with
  | error problem cursor' =>
    rw [bind_of_error hread] at hr
    exact nomatch hr
  | ok b cursor' =>
    rw [bind_of_ok hread] at hr
    exact hf b (hx cursor b cursor' hread) cursor' a after hr

theorem anything (x : Reader β) : Ensures x fun _ => True := fun _ _ _ _ => trivial

/-- What comes last decides. -/
theorem after {x : Reader β} {f : β → Reader α} (hf : ∀ b, Ensures (f b) p) :
    Ensures (x >>= f) p :=
  bind (anything x) fun b _ => hf b

theorem imp {p' : α → Prop} {r : Reader α} (h : Ensures r p) (himp : ∀ a, p a → p' a) :
    Ensures r p' :=
  fun cursor a after hr => himp a (h cursor a after hr)

theorem map {x : Reader β} {f : β → α} (hx : Ensures x q) (hf : ∀ b, q b → p (f b)) :
    Ensures (x >>= fun b => Pure.pure (f b)) p :=
  bind hx fun b hb => .pure (hf b hb)

/-! ### Containers -/

theorem enclosed {inside : Reader α} {finish : Reader Unit} (h : Ensures inside p) :
    Ensures (enclosed inside finish) p := by
  intro cursor a after hr
  unfold Json.enclosed at hr
  split at hr
  · rename_i b cursor' hinside
    split at hr
    · cases hr
      exact h cursor a cursor' hinside
    · exact nomatch hr
  · exact nomatch hr

theorem deeper {inside : Nat → Reader α} (h : ∀ depth, Ensures (inside depth) p) (depth : Nat) :
    Ensures (deeper depth inside) p := by
  cases depth with
  | zero => exact (fails_failNext _).ensures p
  | succ depth => exact h depth

theorem inArray {inside : Nat → Reader α} (h : ∀ depth, Ensures (inside depth) p) (depth : Nat) :
    Ensures (inArray depth inside) p :=
  deeper (fun depth => after fun _ => enclosed (h depth)) depth

theorem inObject {inside : Nat → Reader α} (h : ∀ depth, Ensures (inside depth) p) (depth : Nat) :
    Ensures (inObject depth inside) p :=
  deeper (fun depth => after fun _ => enclosed (h depth)) depth

theorem itemsLoop {item : Reader α} (h : Ensures item p) (fuel : Nat) {done : List α}
    (hdone : ∀ a ∈ done, p a) : Ensures (itemsLoop item fuel done) fun as => ∀ a ∈ as, p a := by
  induction fuel generalizing done with
  | zero => exact (fails_failHere _).ensures _
  | succ fuel ih =>
    refine after fun more => ?_
    split
    · exact bind h fun a ha => ih (List.forall_mem_cons.mpr ⟨ha, hdone⟩)
    · exact .pure fun a ha => hdone a (List.mem_reverse.mp ha)

theorem items {item : Reader α} (h : Ensures item p) :
    Ensures (items item) fun as => ∀ a ∈ as, p a :=
  after fun fuel => itemsLoop h fuel fun _ ha => absurd ha List.not_mem_nil

/-- What every member keeps, the members together keep. -/
theorem membersLoop {step : σ → String → Reader σ} {p : σ → Prop}
    (h : ∀ state name, p state → Ensures (step state name) p) (fuel : Nat) (first : Bool)
    {state : σ} (hstate : p state) : Ensures (membersLoop step fuel first state) p := by
  induction fuel generalizing first state with
  | zero => exact (fails_failHere _).ensures _
  | succ fuel ih =>
    refine after fun more => ?_
    split
    · exact after fun name => bind (h state name hstate) fun state' hstate' => ih false hstate'
    · exact .pure hstate

theorem members {step : σ → String → Reader σ} {p : σ → Prop}
    (h : ∀ state name, p state → Ensures (step state name) p) {initial : σ} (hinitial : p initial) :
    Ensures (members step initial) p :=
  after fun fuel => membersLoop h fuel true hinitial

theorem memberList {item : Reader α} (h : Ensures item p) :
    Ensures (memberList item) fun members => ∀ m ∈ members, p m.2 := by
  refine bind (q := fun done => ∀ m ∈ done, p m.2) (members ?_ ?_) ?_
  · intro done name hdone
    exact after fun _ => bind h fun a ha => .pure (List.forall_mem_cons.mpr ⟨ha, hdone⟩)
  · exact fun _ hm => absurd hm List.not_mem_nil
  · exact fun done hdone => .pure fun m hm => hdone m (List.mem_reverse.mp hm)

theorem nameMap {item : Nat → Reader α} (h : ∀ depth, Ensures (item depth) p) (depth : Nat) :
    Ensures (nameMap item depth) fun map => ∀ entry ∈ map.entries, p entry.2 := by
  refine after fun c => ?_
  split
  · refine inObject (fun depth => members ?_ ?_) depth
    · intro map name hmap
      refine after fun _ => bind (h depth) fun a ha => .pure fun entry hentry => ?_
      rcases NameMap.mem_insertEntry hentry with rfl | hbefore
      · exact ha
      · exact hmap entry hbefore
    · exact fun _ hentry => absurd hentry List.not_mem_nil
  · exact (fails_unexpected _).ensures _

/-! ### Records -/

theorem record {byMembers inOrder : Nat → Reader α} (name : String)
    (hmembers : ∀ depth, Ensures (byMembers depth) p) (horder : ∀ depth, Ensures (inOrder depth) p)
    (depth : Nat) : Ensures (record name byMembers inOrder depth) p := by
  refine after fun c => ?_
  split
  · exact inObject hmembers depth
  · exact inArray horder depth
  · exact (fails_unexpected _).ensures p

theorem once {item : Reader α} (h : Ensures item p) (name : String) (before : Option α) :
    Ensures (once name before item) fun o => ∀ a ∈ o, p a := by
  cases before with
  | some a => exact (fails_failWhole _).ensures _
  | none => exact after fun _ => map h fun a ha b hb => Option.some.inj hb ▸ ha

theorem required {o : Option α} (h : ∀ a ∈ o, p a) (name : String) :
    Ensures (required name o) p := by
  cases o with
  | none => exact (fails_failWhole _).ensures p
  | some a => exact .pure (h a rfl)

theorem fieldAt {item : Reader α} (h : Ensures item p) (shape : String) (position : Nat) :
    Ensures (fieldAt shape position item) p := by
  refine after fun more => ?_
  split
  · exact h
  · exact (fails_failWhole _).ensures p

end Ensures

/-! ### Documents -/

theorem of_readAll {value : Nat → Reader α} {p : α → Prop} (h : ∀ depth, Ensures (value depth) p)
    {source : String} {a : α} (hread : readAll value source = .ok a) : p a := by
  unfold readAll at hread
  dsimp only at hread
  split at hread
  · rename_i b after hwhole
    obtain rfl := Except.ok.inj hread
    refine Ensures.bind (h maxDepth) (fun b hb => ?_) _ _ _ hwhole
    refine .after fun c => ?_
    split
    · exact .pure hb
    · exact (fails_failNext _).ensures p
  · exact nomatch hread

end OvsdbModels.Json
