import WireTypes.Settings.Basic
import WireTypes.TypeExpr

/-! Options: what the two sides of a conversion take from the settings. -/

namespace WireTypes

open Text

/-- What reading and writing a declaration follow. -/
structure Options where
  /-- The names of base types. -/
  vocabulary : Vocabulary := .default
  /-- Whether an interface is exported. -/
  exported : Bool := false
  /-- The folder of templates that replace the built-in ones, as the settings give it. -/
  templateFolder : Json := .null

namespace Options

/-- The vocabulary that settings give. Only names can be overridden, so other keys
have no effect. -/
def vocabularyOf (s : Settings) : Except Json.EntryFault Vocabulary := do
  let toInterface ← s.structOverrides.entriesIfSet
  let toStruct ← s.interfaceOverrides.entriesIfSet
  return Vocabulary.default.extend toInterface.texts toStruct.texts

/-- The options that settings give with a vocabulary. -/
def withVocabulary (s : Settings) (v : Vocabulary) : Options :=
  ⟨v, s.exported.isSet, s.templateFolder⟩

/-- The options that settings give. -/
def ofSettings (s : Settings) : Except Json.EntryFault Options := do
  return withVocabulary s (← vocabularyOf s)

end Options

end WireTypes
