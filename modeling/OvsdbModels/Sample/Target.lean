/-
  OvsdbModels/Sample/Target.lean
  ==============================
  A small target language, Go-like in its types, for trying out what does not depend on a language.
-/
import OvsdbModels.Target

namespace OvsdbModels.Sample

/-- A target language whose literals are plain text and whose constants are named like columns. -/
def target : Target where
  language := "stub"
  atomic := Target.goAtomic
  sequence := Target.goSequence
  mapping := Target.goMapping
  literal := fun
    | .string s => Target.enquote s
    | atom => atom.text
  constantName := fun naming enumName value => enumName ++ naming.normalize value.text

end OvsdbModels.Sample
