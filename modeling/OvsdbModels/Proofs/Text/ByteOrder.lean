/-
  OvsdbModels/Proofs/Text/ByteOrder.lean
  ======================================
  **The order of names is the order of their bytes.**

  Maps keep their names ascending by code points.  UTF-8 writes a code point in groups of six bits,
  the highest group first, and a longer encoding begins with a larger byte, so comparing bytes gives
  the same order (`lt_iff_byteLt`).
-/
import Mathlib.Tactic.SplitIfs
import OvsdbModels.NameMap

namespace OvsdbModels.Text

def bytes (s : String) : List UInt8 := s.toUTF8.data.toList

/-- Whether a text comes before another in the order of bytes. -/
def ByteLt (a b : String) : Prop := bytes a < bytes b

theorem bytes_eq_flatMap (s : String) : bytes s = s.toList.flatMap String.utf8EncodeChar := by
  rw [bytes, String.toUTF8_eq_toByteArray, ← String.utf8Encode_toList, List.utf8Encode,
    List.data_toByteArray]

/-! ### One character -/

theorem ofNat_cons_lt_iff {m n : Nat} (hm : m < 256) (hn : n < 256) (u v : List UInt8) :
    UInt8.ofNat m :: u < UInt8.ofNat n :: v ↔ m < n ∨ m = n ∧ u < v := by
  rw [List.cons_lt_cons_iff, UInt8.lt_iff_toNat_lt, ← UInt8.toNat_inj,
    UInt8.toNat_ofNat_of_lt' hm, UInt8.toNat_ofNat_of_lt' hn]

/-- Of two numbers the smaller one is smaller without the last six bits, or equal without them and
smaller in them. -/
theorem div_lt_or_mod_lt {m n : Nat} (h : m < n) :
    m / 64 < n / 64 ∨ m / 64 = n / 64 ∧ m % 64 < n % 64 := by
  omega

/-- A smaller character has the smaller encoding, whatever follows. -/
theorem utf8EncodeChar_append_lt {c d : Char} (h : c < d) (u v : List UInt8) :
    String.utf8EncodeChar c ++ u < String.utf8EncodeChar d ++ v := by
  have hlt : c.val.toNat < d.val.toNat := h
  have hbound : d.val.toNat < 0x110000 := by
    rcases d.valid with hd | hd <;> omega
  unfold String.utf8EncodeChar
  dsimp only
  generalize c.val.toNat = m at *
  generalize d.val.toNat = n at *
  -- the groups of six bits, compared from the last one up
  have hlast := div_lt_or_mod_lt hlt
  have hmiddle : m / 64 < n / 64 → _ := div_lt_or_mod_lt
  have hfirst : m / 64 / 64 < n / 64 / 64 → _ := div_lt_or_mod_lt
  simp only [Nat.div_div_eq_div_mul, Nat.reduceMul] at hlast hmiddle hfirst
  have hm : m / 262144 % 8 = m / 262144 := by omega
  have hn : n / 262144 % 8 = n / 262144 := by omega
  split_ifs <;>
    simp (disch := omega) only [List.cons_append, List.nil_append, ofNat_cons_lt_iff, hm, hn] <;>
    omega

/-! ### Texts -/

theorem flatMap_utf8EncodeChar_lt {s t : List Char} (h : s < t) :
    s.flatMap String.utf8EncodeChar < t.flatMap String.utf8EncodeChar := by
  induction s generalizing t with
  | nil =>
    cases t with
    | nil => exact absurd h (List.lt_irrefl [])
    | cons d t =>
      rw [List.flatMap_nil, List.flatMap_cons]
      cases hd : String.utf8EncodeChar d with
      | nil => exact absurd hd String.utf8EncodeChar_ne_nil
      | cons b bs => exact List.nil_lt_cons _ _
  | cons c s ih =>
    cases t with
    | nil => exact absurd h (List.not_lt_nil _)
    | cons d t =>
      rw [List.flatMap_cons, List.flatMap_cons]
      rcases List.cons_lt_cons_iff.mp h with hcd | ⟨rfl, hst⟩
      · exact utf8EncodeChar_append_lt hcd _ _
      · exact List.append_left_lt (ih hst)

/-- The order of texts is the order of their bytes. -/
theorem lt_iff_byteLt {a b : String} : a < b ↔ ByteLt a b := by
  have himp : ∀ {a b : String}, a < b → ByteLt a b := by
    intro a b h
    rw [ByteLt, bytes_eq_flatMap, bytes_eq_flatMap]
    exact flatMap_utf8EncodeChar_lt (String.lt_iff.mp h)
  constructor
  · exact himp
  · intro h
    rcases Std.lt_trichotomy a b with hlt | heq | hgt
    · exact hlt
    · rw [heq] at h
      exact absurd h (List.lt_irrefl _)
    · exact absurd (himp hgt) (List.lt_asymm h)

end OvsdbModels.Text
