/-
  OvsdbModels/Proofs/Go/Integers.lean
  ===================================
  **Constants of integers.**

  The name of an integer's constant is the alias, `Neg` for a minus sign, and the digits of the magnitude,
  which may be one more than the largest integer.  Nothing of that is left out of the name, so the names
  of different integers differ (`constantName_inj`).

  A table with one column stops at the column's enumeration exactly if that declares a name twice.  The
  alias is shorter than all constants, so for integers this is a value that is listed twice.
-/
import OvsdbModels.Proofs.Go.Identifiers
import OvsdbModels.Proofs.Model.Single

namespace OvsdbModels.Go

open Decimal (IsDigits)

/-! ### Names -/

/-- An integer spelled out: its magnitude, with `Neg` for a minus sign. -/
def spelledInteger (n : Int64) : String :=
  (if n.toInt < 0 then "Neg" else "") ++ toString n.toInt.natAbs

theorem isDigits_toString (n : Nat) : IsDigits (toString n).toList := by
  rw [Nat.toString_eq_ofList_toDigits, String.toList_ofList]
  exact Decimal.isDigits_toDigits n

theorem isNameChar_of_isDigit {c : Char} (h : c.isDigit = true) : isNameChar c = true := by
  have halphanum : c.isAlphanum = true := by rw [Char.isAlphanum, h, Bool.or_true]
  rw [isNameChar, Text.isAlphanumeric_of_ascii (Text.ascii_of_isAlphanum halphanum), halphanum]
  rfl

theorem spelled_of_isDigits {digits : List Char} (h : IsDigits digits) :
    spelled digits = digits := by
  unfold spelled
  split
  · exact absurd (h.2 '-' List.mem_cons_self) (by decide)
  · rfl

/-- The name of an integer's constant: no character of the spelling is left out. -/
theorem constantName_eq (naming : Naming) (enumName : String) (n : Int64) :
    constantName naming enumName (.integer n) = enumName ++ spelledInteger n := by
  have hdigits := Decimal.isDigits_toDigits n.toInt.natAbs
  have hkept : ∀ c ∈ Nat.toDigits 10 n.toInt.natAbs, isNameChar c = true :=
    fun c hc => isNameChar_of_isDigit (hdigits.2 c hc)
  have hsuffix : rawSuffix naming (.integer n) = spelled (toString n.toInt).toList := rfl
  rw [constantName, hsuffix, spelledInteger, Decimal.toString_eq_signed, Decimal.signed,
    String.toList_ofList, Nat.toString_eq_ofList_toDigits]
  apply String.toList_injective
  by_cases hneg : n.toInt < 0
  · have hsign : isNameChar 'N' ∧ isNameChar 'e' ∧ isNameChar 'g' := by decide
    simpa [hneg, spelled, hsign] using hkept
  · simpa [hneg, spelled_of_isDigits hdigits] using hkept

theorem toString_nat_inj {m n : Nat} (h : toString m = toString n) : m = n := by
  rw [Nat.toString_eq_ofList_toDigits, Nat.toString_eq_ofList_toDigits] at h
  have hdigits : Nat.toDigits 10 m = Nat.toDigits 10 n := by
    simpa using congrArg String.toList h
  calc m = Nat.ofDigitChars 10 (Nat.toDigits 10 m) 0 := Nat.ofDigitChars_ten_toDigits.symm
    _ = Nat.ofDigitChars 10 (Nat.toDigits 10 n) 0 := by rw [hdigits]
    _ = n := Nat.ofDigitChars_ten_toDigits

theorem neg_append_ne_toString (s : String) (k : Nat) : "Neg" ++ s ≠ "" ++ toString k := by
  intro heq
  have hmem : 'N' ∈ (toString k).toList := by
    rw [String.empty_append] at heq
    rw [← heq, String.toList_append]
    exact List.mem_append_left _ (by decide)
  exact absurd ((isDigits_toString k).2 'N' hmem) (by decide)

/-- The sign and the magnitude can be told from the spelling. -/
theorem spelledInteger_injective : Function.Injective spelledInteger := by
  intro m n h
  unfold spelledInteger at h
  apply Int64.toInt_inj.mp
  by_cases hm : m.toInt < 0 <;> by_cases hn : n.toInt < 0
  · rw [if_pos hm, if_pos hn, String.append_right_inj] at h
    have habs := toString_nat_inj h
    omega
  · rw [if_pos hm, if_neg hn] at h
    exact absurd h (neg_append_ne_toString _ _)
  · rw [if_neg hm, if_pos hn] at h
    exact absurd h.symm (neg_append_ne_toString _ _)
  · rw [if_neg hm, if_neg hn, String.append_right_inj] at h
    have habs := toString_nat_inj h
    omega

theorem constantName_inj (naming : Naming) (enumName : String) {m n : Int64} :
    constantName naming enumName (.integer m) = constantName naming enumName (.integer n) ↔
      m = n := by
  rw [constantName_eq, constantName_eq, String.append_right_inj, spelledInteger_injective.eq_iff]

/-! ### A column of integers -/

theorem spelledInteger_ne_empty (n : Int64) : spelledInteger n ≠ "" := by
  rw [spelledInteger, ne_eq, String.append_eq_empty_iff]
  rintro ⟨-, hdigits⟩
  apply (isDigits_toString n.toInt.natAbs).1
  rw [hdigits]
  rfl

/-- Every constant is longer than the alias. -/
theorem constantName_ne (naming : Naming) (enumName : String) (n : Int64) :
    constantName naming enumName (.integer n) ≠ enumName := by
  intro heq
  rw [constantName_eq] at heq
  exact spelledInteger_ne_empty n (String.append_eq_left_iff.mp heq)

theorem nodup_declaredNames_iff {naming : Naming} {name column : String} {content : Column}
    {values : List Int64} (hvalues : content.key.allowed = some (values.map .integer)) :
    ((Mapper.mk target naming).declaredNames name (column, content)).Nodup ↔ values.Nodup := by
  have hinjective : Function.Injective fun n : Int64 =>
      constantName naming (naming.enumAlias name column) (.integer n) :=
    fun _ _ h => (constantName_inj naming _).mp h
  have hnames : (Mapper.mk target naming).declaredNames name (column, content) =
      naming.enumAlias name column ::
        values.map fun n => constantName naming (naming.enumAlias name column) (.integer n) := by
    simp only [Mapper.declaredNames, hvalues, List.map_map]
    rfl
  rw [hnames, List.nodup_cons, List.nodup_map_iff hinjective]
  apply and_iff_right
  rw [List.mem_map]
  rintro ⟨n, -, heq⟩
  exact constantName_ne naming _ n heq

theorem usable_iff {naming : Naming} {column : String} {content : Column}
    (hkey : content.key.atomic = .integer) :
    (Mapper.mk target naming).Usable (column, content) ↔
      naming.normalize column ≠ "" ∧
        ∀ base ∈ content.value, (target.atomic base.atomic).isSome := by
  rw [Mapper.Usable, Mapper.unmapped?_eq_none_iff, hkey]
  exact and_congr_right fun _ => and_iff_right rfl

/-- Constants of integers have the same name exactly if the integers are the same; the name is the
alias, `Neg` for a minus sign and digits.  So a table whose only column is restricted to integers stops
at a constant exactly if one of them is listed twice, unless it stops before the constants: where
the table or the column has no name, or the values of a map have no type. -/
theorem constants_of_integers (naming : Naming) :
    (∀ enumName m n, constantName naming enumName (.integer m) =
        constantName naming enumName (.integer n) ↔ m = n) ∧
    (∀ enumName n, ∃ digits : String, IsDigits digits.toList ∧
      constantName naming enumName (.integer n) =
        enumName ++ (if n < 0 then "Neg" else "") ++ digits) ∧
    ∀ package name column content table (values : List Int64),
      table.columns.entries = [(column, content)] →
      content.key.atomic = .integer → content.key.allowed = some (values.map .integer) →
      (DeclaresTwice name column ((Mapper.mk target naming).model package name table) ↔
        (Naming.typeName name ≠ "" ∧ naming.normalize column ≠ "" ∧
          ∀ base ∈ content.value, (target.atomic base.atomic).isSome) ∧ ¬ values.Nodup) := by
  refine ⟨fun enumName m n => constantName_inj naming enumName, ?_, ?_⟩
  · intro enumName n
    have hsign : n < 0 ↔ n.toInt < 0 := Int64.lt_iff_toInt_lt
    refine ⟨toString n.toInt.natAbs, isDigits_toString _, ?_⟩
    rw [constantName_eq, spelledInteger, if_congr hsign rfl rfl, String.append_assoc]
  · intro package name column content table values hcolumns hkey hvalues
    have hidentity : (Mapper.mk target naming).target.atomic .uuid = some "string" := rfl
    rw [Mapper.declaresTwice_model_iff hidentity hcolumns, nodup_declaredNames_iff hvalues,
      usable_iff hkey]
    simp only [and_assoc]

/-- A column that is restricted to the given integers. -/
def levelColumn (values : List Int64) : Column :=
  Sample.columnOf (.scalar ((BaseType.plain .integer).withAllowed (values.map .integer)))

/-- The least integer is the one whose magnitude is no integer; listed twice it stops the table, and
listed with its neighbour it does not. -/
theorem constants_of_integers_least :
    DeclaresTwice "T" "level" ((Mapper.mk target .ovsdb).model "p" "T"
      (.ofColumns [("level", levelColumn [Int64.minValue, 3, Int64.minValue])])) ∧
    ¬ DeclaresTwice "T" "level" ((Mapper.mk target .ovsdb).model "p" "T"
      (.ofColumns [("level", levelColumn [Int64.minValue, 3, Int64.minValue + 1])])) := by
  have hstops := fun values : List Int64 => (constants_of_integers .ovsdb).2.2 "p" "T" "level"
    (levelColumn values) (.ofColumns [("level", levelColumn values)]) values rfl rfl rfl
  have hbase : ∀ values, (levelColumn values).value = none := fun _ => rfl
  constructor
  · refine (hstops [Int64.minValue, 3, Int64.minValue]).mpr ⟨⟨by decide, by decide, ?_⟩, by decide⟩
    simp [hbase]
  · intro htwice
    exact ((hstops [Int64.minValue, 3, Int64.minValue + 1]).mp htwice).2 (by decide)

end OvsdbModels.Go
