/-
  OvsdbModels/Proofs/Attempt.lean
  ===============================
  Computations that may fail, taken apart.
-/
import Mathlib.Data.List.Forall2

namespace OvsdbModels.Attempt

variable {ε ε' α β γ : Type}

theorem ok_bind (a : α) (f : α → Except ε β) : Except.ok a >>= f = f a := rfl

theorem bind_eq_ok_iff {x : Except ε α} {f : α → Except ε β} {b : β} :
    x >>= f = .ok b ↔ ∃ a, x = .ok a ∧ f a = .ok b := by
  cases x with
  | error e => exact ⟨fun h => (nomatch h), fun ⟨_, h, _⟩ => (nomatch h)⟩
  | ok a => exact ⟨fun h => ⟨a, rfl, h⟩, fun ⟨_, h, hf⟩ => Except.ok.inj h ▸ hf⟩

theorem bind_eq_error_iff {x : Except ε α} {f : α → Except ε β} {e : ε} :
    x >>= f = .error e ↔ x = .error e ∨ ∃ a, x = .ok a ∧ f a = .error e := by
  cases x with
  | error e' =>
    constructor
    · intro h
      exact Or.inl (congrArg Except.error (Except.error.inj h))
    · rintro (h | ⟨_, h, _⟩)
      · exact congrArg Except.error (Except.error.inj h)
      · exact nomatch h
  | ok a =>
    constructor
    · intro h
      exact Or.inr ⟨a, rfl, h⟩
    · rintro (h | ⟨a', h, hf⟩)
      · exact nomatch h
      · obtain rfl := Except.ok.inj h
        exact hf

theorem map_bind (x : Except ε α) (f : α → Except ε β) (g : β → γ) :
    (x >>= f).map g = x >>= fun a => (f a).map g := by
  cases x with
  | error e => rfl
  | ok a => rfl

theorem mapError_eq_ok_iff {x : Except ε α} {f : ε → ε'} {a : α} :
    x.mapError f = .ok a ↔ x = .ok a := by
  cases x with
  | error e => exact ⟨fun h => (nomatch h), fun h => (nomatch h)⟩
  | ok a => exact ⟨fun h => congrArg _ (Except.ok.inj h), fun h => congrArg _ (Except.ok.inj h)⟩

theorem exists_of_mapError_eq_error {x : Except ε α} {f : ε → ε'} {e : ε'}
    (h : x.mapError f = .error e) : ∃ cause, x = .error cause := by
  cases x with
  | error cause => exact ⟨cause, rfl⟩
  | ok a => exact nomatch h

theorem toOption_eq_some_iff {x : Except ε α} {a : α} : x.toOption = some a ↔ x = .ok a := by
  cases x with
  | error e => exact ⟨fun h => (nomatch h), fun h => (nomatch h)⟩
  | ok a => exact ⟨fun h => congrArg _ (Option.some.inj h), fun h => congrArg _ (Except.ok.inj h)⟩

/-! ### Lists of attempts -/

/-- Attempts that are translated one by one give what the attempts give, translated. -/
theorem mapM_translate (f : α → Except ε β) (value : β → γ) (error : ε → ε') (items : List α) :
    (items.mapM fun item => ((f item).map value).mapError error) =
      ((items.mapM f).map (List.map value)).mapError error := by
  induction items with
  | nil => rfl
  | cons item items ih =>
    rw [List.mapM_cons, List.mapM_cons, ih]
    cases f item with
    | error e => rfl
    | ok b =>
      cases items.mapM f with
      | error e => rfl
      | ok results => rfl

theorem mapM_mapError (f : α → Except ε β) (error : ε → ε') (items : List α) :
    (items.mapM f).mapError error = items.mapM fun item => (f item).mapError error := by
  have hid : ∀ x : Except ε β, x.map id = x := by
    intro x
    cases x with
    | error e => rfl
    | ok b => rfl
  have htranslate := mapM_translate f id error items
  simp only [hid] at htranslate
  rw [htranslate, List.map_id_fun]
  cases items.mapM f with
  | error e => rfl
  | ok results => rfl

theorem exists_of_forall₂_left {R : α → β → Prop} {items : List α} {results : List β}
    (h : List.Forall₂ R items results) {item : α} (hitem : item ∈ items) :
    ∃ result ∈ results, R item result := by
  induction h with
  | nil => exact absurd hitem List.not_mem_nil
  | cons hhead _ ih =>
    rcases List.mem_cons.mp hitem with rfl | hrest
    · exact ⟨_, List.mem_cons_self, hhead⟩
    · obtain ⟨result, hmem, hresult⟩ := ih hrest
      exact ⟨result, List.mem_cons_of_mem _ hmem, hresult⟩

theorem exists_of_forall₂_right {R : α → β → Prop} {items : List α} {results : List β}
    (h : List.Forall₂ R items results) {result : β} (hresult : result ∈ results) :
    ∃ item ∈ items, R item result :=
  exists_of_forall₂_left h.flip hresult

theorem exists_getLast?_of_forall₂ {R : α → β → Prop} {items : List α}
    {results : List β} {result : β} (h : List.Forall₂ R items results)
    (hlast : results.getLast? = some result) :
    ∃ item, items.getLast? = some item ∧ R item result := by
  induction h with
  | nil => exact nomatch hlast
  | cons hhead hrest ih =>
    cases hrest with
    | nil =>
      obtain rfl := Option.some.inj hlast
      exact ⟨_, rfl, hhead⟩
    | cons hnext hothers => exact ih hlast

/-- Attempts succeed together if each of them does. -/
theorem mapM_eq_ok_iff {f : α → Except ε β} {items : List α} {results : List β} :
    items.mapM f = .ok results ↔
      List.Forall₂ (fun item result => f item = .ok result) items results := by
  induction items generalizing results with
  | nil =>
    rw [List.forall₂_nil_left_iff]
    exact ⟨fun h => (Except.ok.inj h).symm, fun h => congrArg Except.ok h.symm⟩
  | cons item items ih =>
    rw [List.mapM_cons, List.forall₂_cons_left_iff]
    simp only [bind_eq_ok_iff, ih]
    constructor
    · rintro ⟨result, hitem, rest, hrest, h⟩
      exact ⟨result, rest, hitem, hrest, (Except.ok.inj h).symm⟩
    · rintro ⟨result, rest, hitem, hrest, rfl⟩
      exact ⟨result, hitem, rest, hrest, rfl⟩

theorem exists_of_mapM_eq_some {f : α → Option β} {items : List α} {results : List β}
    (h : items.mapM f = some results) {result : β} (hresult : result ∈ results) :
    ∃ item ∈ items, f item = some result := by
  induction items generalizing results with
  | nil =>
    obtain rfl := Option.some.inj h
    exact absurd hresult List.not_mem_nil
  | cons item items ih =>
    simp only [List.mapM_cons, Option.bind_eq_bind, Option.bind_eq_some_iff] at h
    obtain ⟨first, hfirst, rest, hrest, heq⟩ := h
    obtain rfl := Option.some.inj heq
    rcases List.mem_cons.mp hresult with rfl | hmem
    · exact ⟨item, List.mem_cons_self, hfirst⟩
    · obtain ⟨other, hother, hread⟩ := ih hrest hmem
      exact ⟨other, List.mem_cons_of_mem _ hother, hread⟩

theorem exists_of_mapM_eq_error {f : α → Except ε β} {items : List α} {e : ε}
    (h : items.mapM f = .error e) : ∃ item ∈ items, f item = .error e := by
  induction items with
  | nil => exact nomatch h
  | cons item items ih =>
    rw [List.mapM_cons] at h
    cases hitem : f item with
    | error e' =>
      rw [hitem] at h
      obtain rfl := Except.error.inj h
      exact ⟨item, List.mem_cons_self, hitem⟩
    | ok b =>
      cases hitems : items.mapM f with
      | error e' =>
        rw [hitem, hitems] at h
        obtain rfl := Except.error.inj h
        obtain ⟨other, hother, heq⟩ := ih hitems
        exact ⟨other, List.mem_cons_of_mem _ hother, heq⟩
      | ok results =>
        rw [hitem, hitems] at h
        exact nomatch h

theorem mapM_filter {f : α → Except ε β} {keep : α → Bool} {keep' : β → Bool}
    (hkeep : ∀ item result, f item = .ok result → keep' result = keep item) {items : List α}
    {results : List β} (h : items.mapM f = .ok results) :
    (items.filter keep).mapM f = .ok (results.filter keep') := by
  induction items generalizing results with
  | nil =>
    obtain rfl := Except.ok.inj h
    rfl
  | cons item items ih =>
    rw [List.mapM_cons] at h
    obtain ⟨result, hitem, h⟩ := bind_eq_ok_iff.mp h
    obtain ⟨rest, hitems, h⟩ := bind_eq_ok_iff.mp h
    obtain rfl := Except.ok.inj h
    rw [List.filter_cons, List.filter_cons, hkeep item result hitem]
    split
    · rw [List.mapM_cons, hitem, ih hitems]
      rfl
    · exact ih hitems

/-! ### Runs -/

/-- A run fails exactly if a step fails on what the steps before it left; later steps are not tried. -/
theorem foldlM_eq_error_iff {f : β → α → Except ε β} {items : List α} {state : β} {e : ε} :
    items.foldlM f state = .error e ↔
      ∃ earlier item later middle, items = earlier ++ item :: later ∧
        earlier.foldlM f state = .ok middle ∧ f middle item = .error e := by
  constructor
  · intro h
    induction items generalizing state with
    | nil => exact nomatch h
    | cons item items ih =>
      rw [List.foldlM_cons] at h
      rcases bind_eq_error_iff.mp h with hstep | ⟨next, hstep, hrest⟩
      · exact ⟨[], item, items, state, rfl, rfl, hstep⟩
      · obtain ⟨earlier, failing, later, middle, rfl, hearlier, hfailing⟩ := ih hrest
        refine ⟨item :: earlier, failing, later, middle, rfl, ?_, hfailing⟩
        rw [List.foldlM_cons, hstep]
        exact hearlier
  · rintro ⟨earlier, item, later, middle, rfl, hearlier, hitem⟩
    rw [List.foldlM_append, hearlier]
    have hstep : (item :: later).foldlM f middle = .error e := by
      rw [List.foldlM_cons, hitem]
      rfl
    exact hstep

/-- A run that succeeds has succeeded on every part that it began with. -/
theorem exists_foldlM_eq_ok_of_append {f : β → α → Except ε β} {earlier later : List α}
    {state result : β} (h : (earlier ++ later).foldlM f state = .ok result) :
    ∃ middle, earlier.foldlM f state = .ok middle := by
  rw [List.foldlM_append] at h
  obtain ⟨middle, hearlier, -⟩ := bind_eq_ok_iff.mp h
  exact ⟨middle, hearlier⟩

end OvsdbModels.Attempt
