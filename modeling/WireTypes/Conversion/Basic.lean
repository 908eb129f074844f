import WireTypes.Conversion.Emission
import WireTypes.Declaration.Reader
import WireTypes.Struct.TagRepair

/-! Conversion: a text is rejected, given tags, or written in the other notation. -/

namespace WireTypes

open Text

/-- What became of a text. -/
inductive Conversion where
  /-- It opens no declaration. -/
  | rejected (cause : Rejection)
  /-- It is a struct that was given tags. -/
  | tagged (result : Text) (names : List Text)
  /-- It was read from a notation and written in the other one. -/
  | converted (source : Notation) (d : Declaration) (result : Text)
deriving Repr

namespace Conversion

/-- The text that came out. -/
def result : Conversion → Text
  | rejected _ => []
  | tagged result _ => result
  | converted _ _ result => result

/-- Why nothing came out. -/
def rejection? : Conversion → Option Rejection
  | rejected cause => some cause
  | _ => none

/-- What the user should know. -/
def warnings : Conversion → List Text
  | converted _ d _ => d.warnings
  | _ => []

/-- What was done, by property. -/
def metadata : Conversion → Table Json
  | rejected _ => []
  | tagged _ names =>
    [("action".toList, .string "add_tags".toList),
     ("source".toList, .string Notation.struct.name),
     ("target".toList, .string Notation.struct.name),
     ("tagged_fields".toList, .list (names.map .string))]
  | converted source d _ =>
    [("action".toList, .string "convert".toList),
     ("source".toList, .string source.name),
     ("target".toList, .string source.target.name),
     ("name".toList, .string d.name),
     ("field_count".toList, .whole d.fields.length),
     ("complete".toList, .bool d.complete),
     ("file_extension".toList, .string source.target.extension)]

/-- What is to be done with a text. -/
inductive Plan where
  | reject (cause : Rejection)
  | addTags
  | convert (source : Notation)
deriving DecidableEq, Repr

/-- The plan for a text: with the tag check, a struct that lacks tags is given tags. -/
def plan (tagCheck : Bool) (t : Text) : Plan :=
  match classify t with
  | .error cause => .reject cause
  | .ok .struct =>
    if tagCheck && !(TagRepair.missing (trim t)).isEmpty then .addTags else .convert .struct
  | .ok .interface => .convert .interface

/-- Why a text cannot be converted. -/
inductive Fault where
  /-- The settings give no vocabulary. -/
  | settings (cause : Json.EntryFault)
  | template (cause : Template.Fault)
deriving Repr

/-- Writes a declaration that was read in the other notation. -/
def ofDeclaration (fs : Files) (o : Options) (source : Notation) (d : Declaration) :
    Except Fault Conversion :=
  match d.emit fs o source.target with
  | .error cause => .error (.template cause)
  | .ok result => .ok (.converted source d result)

/-- Reads a trimmed text and writes it in the other notation. -/
def carryOver (fs : Files) (s : Settings) (source : Notation) (t : Text) :
    Except Fault Conversion :=
  match Options.ofSettings s with
  | .error cause => .error (.settings cause)
  | .ok o =>
    match Declaration.read o.vocabulary source t with
    | .error cause => .ok (.rejected cause)
    | .ok d => ofDeclaration fs o source d

/-- What is worth reporting when a trimmed text is carried over. -/
def carryOverEvents (fs : Files) (s : Settings) (source : Notation) (t : Text) : List Event :=
  match Options.ofSettings s with
  | .error _ => []
  | .ok o =>
    Declaration.readEvents o.vocabulary source t ++
      match carryOver fs s source t with
      | .ok (.converted source d _) => [.converted source d.name d.fields.length]
      | _ => []

/-- Converts a text. The settings matter only as far as the text needs them. -/
def ofText (fs : Files) (s : Settings) (t : Text) : Except Fault Conversion :=
  match plan s.tagCheck.isSet t with
  | .reject cause => .ok (.rejected cause)
  | .addTags => .ok (.tagged (TagRepair.repair (trim t)) (TagRepair.missing (trim t)))
  | .convert source => carryOver fs s source (trim t)

/-- What is worth reporting when a text is converted. -/
def events (fs : Files) (s : Settings) (t : Text) : List Event :=
  match plan s.tagCheck.isSet t with
  | .reject cause => [.rejected cause]
  | .addTags => TagRepair.events (trim t)
  | .convert source => carryOverEvents fs s source (trim t)

end Conversion

end WireTypes
