/-
  OvsdbModels/Source/LineDiff.lean
  ================================
  Comparing two texts line by line.
-/
import OvsdbModels.Source.Writer

namespace OvsdbModels.Source

/-- The report on lines from the given number on: every place where two texts differ. -/
def differences (number : Nat) : List String → List String → List String
  | [], [] => []
  | e :: es, [] => entry number e "<missing>" ++ differences (number + 1) es []
  | [], a :: as => entry number "<missing>" a ++ differences (number + 1) [] as
  | e :: es, a :: as => entry number e a ++ differences (number + 1) es as
where
  /-- The report on one line, where it differs. -/
  entry (number : Nat) (expected actual : String) : List String :=
    if expected = actual then []
    else
      ["Line " ++ toString number ++ ":\n  expected: " ++ expected ++ "\n  actual:   " ++ actual ++
        "\n"]

/-- What a text has other than expected; nothing if the texts are equal.  Texts that differ only in
how their lines end have a report without lines. -/
def mismatch? (expected actual : String) : Option String :=
  if expected = actual then none
  else some ("Content mismatch:\n" ++
    String.join (differences 1 (textLines expected) (textLines actual)))

end OvsdbModels.Source
