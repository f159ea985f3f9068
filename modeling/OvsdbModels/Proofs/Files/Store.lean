/-
  OvsdbModels/Proofs/Files/Store.lean
  ===================================
  **Files as a map from paths to contents.**

  A store answers for every path, and every write to it succeeds.  Writing a text that may be up to date
  leaves the store as if the text had been written in any case (`writeText_run`): a file that is left
  alone has the text already, byte for byte, since bytes that are no UTF-8 are nobody's text.
-/
import Mathlib.Logic.Function.Basic
import OvsdbModels.Files.Volume

namespace OvsdbModels.Files

/-! ### Texts and bytes -/

theorem fromUTF8?_eq_some_iff {content : ByteArray} {text : String} :
    String.fromUTF8? content = some text ↔ content = text.toUTF8 := by
  unfold String.fromUTF8?
  constructor
  · intro h
    split at h
    · obtain rfl := Option.some.inj h
      rfl
    · exact nomatch h
  · rintro rfl
    exact dif_pos text.isValidUTF8

/-! ### Stores -/

/-- The contents of files by their paths. -/
abbrev Store : Type := String → Option ByteArray

namespace Store

def put (store : Store) (path text : String) : Store :=
  Function.update store path (some text.toUTF8)

theorem put_same (store : Store) (path text : String) :
    store.put path text path = some text.toUTF8 :=
  Function.update_self ..

theorem put_other {path other : String} (h : other ≠ path) (store : Store) (text : String) :
    store.put path text other = store other :=
  Function.update_of_ne h ..

theorem put_of_eq {store : Store} {path text : String} (h : store path = some text.toUTF8) :
    store.put path text = store := by
  rw [put, ← h, Function.update_eq_self]

/-- The volume whose files are a store's. -/
def volume : Volume (StateM Store) where
  read path := return (← get) path
  isFile path := return ((← get) path).isSome
  write path content := do
    modify fun store => Function.update store path (some content)
    return true

/-- Whether writing a text leaves a file alone: it is asked to, and the file has the text. -/
def Keeps (store : Store) (overwrite : Overwrite) (path text : String) : Prop :=
  overwrite = .ifChanged ∧ store path = some text.toUTF8

instance (store : Store) (overwrite : Overwrite) (path text : String) :
    Decidable (store.Keeps overwrite path text) :=
  inferInstanceAs (Decidable (_ ∧ _))

theorem isCurrent_run (store : Store) (overwrite : Overwrite) (path text : String) :
    (volume.isCurrent overwrite path text).run store =
      (decide (store.Keeps overwrite path text), store) := by
  cases overwrite with
  | always =>
    have hkeeps : ¬ store.Keeps .always path text := fun h => nomatch h.1
    rw [decide_eq_false hkeeps]
    rfl
  | ifChanged =>
    have hread : (volume.isCurrent .ifChanged path text).run store =
        ((store path).bind String.fromUTF8? == some text, store) := rfl
    have hiff : (store path).bind String.fromUTF8? = some text ↔
        store.Keeps .ifChanged path text := by
      rw [Option.bind_eq_some_iff]
      constructor
      · rintro ⟨content, hcontent, htext⟩
        exact ⟨rfl, by rw [hcontent, fromUTF8?_eq_some_iff.mp htext]⟩
      · rintro ⟨-, hcontent⟩
        exact ⟨_, hcontent, fromUTF8?_eq_some_iff.mpr rfl⟩
    rw [hread, ← decide_eq_decide.mpr hiff, beq_eq_decide]

def result (store : Store) (overwrite : Overwrite) (path text : String) : WriteResult :=
  if store.Keeps overwrite path text then .unchanged else .written

/-- Writing a text succeeds, and the file has the text afterwards whether or not it was left alone. -/
theorem writeText_run (store : Store) (overwrite : Overwrite) (path text : String) :
    (volume.writeText overwrite path text).run store =
      (some (store.result overwrite path text), store.put path text) := by
  unfold Volume.writeText result
  rw [StateT.run_bind, isCurrent_run]
  by_cases hkeeps : store.Keeps overwrite path text
  · rw [decide_eq_true hkeeps, if_pos hkeeps, put_of_eq hkeeps.2]
    rfl
  · rw [decide_eq_false hkeeps, if_neg hkeeps]
    rfl

end Store

end OvsdbModels.Files
