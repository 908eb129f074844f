import WireTypes.Proofs.Conversion.AnyType
import WireTypes.Proofs.Name.Collisions

/-!
# Conversion — Names in an emitted struct

The lines of an emitted struct start with the Pascal forms of the names of
the properties, one by one (`map_writtenName`). No line looks at another,
so the names are distinct exactly when these forms are, and properties
that are the same spelled out share a name in the struct.
-/

namespace WireTypes.Conversion

open Text Emission

variable {line t : Text} {f : Field} {d : Declaration}

theorem name_of_interfaceField? {v : Vocabulary} (h : interfaceField? v line = some f) :
    f.name = f.jsonName := by
  obtain ⟨p, -, rfl⟩ := Option.map_eq_some_iff.mp h
  rfl

/-- The names on the lines of a struct are the Pascal forms, in order. -/
theorem map_writtenName (h : ∀ f ∈ d.fields, IsProperty f ∧ f.name = f.jsonName) :
    (d.fields.map (memberLine .default .struct)).map writtenName
      = d.fieldNames.map Name.pascal := by
  rw [Declaration.fieldNames, List.map_map, List.map_map]
  refine List.map_congr_left fun f hf => ?_
  obtain ⟨hproperty, hname⟩ := h f hf
  rw [Function.comp_apply, Function.comp_apply, hname]
  exact writtenName_memberLine hproperty.key_ne_nil hproperty.key_word

/-- **The names in the struct of an interface.** Every interface is
converted to a header, a line per property and a brace, and the names on
the lines are the Pascal forms of the names of the properties, in order.
They are distinct exactly if the names are distinct spelled out, as
distinct names of one spelling are. -/
theorem exists_struct_with_names (fs : Files) (check : Bool) (h : classify t = .ok .interface) :
    ∃ d out body, Declaration.read .default .interface (trim t) = .ok d ∧
      ofText fs { tagCheck := .bool check } t = .ok (.converted .interface d out) ∧
      lines out = headerLine {} d.name .struct :: (body ++ [['}']]) ∧
      body.map writtenName = d.fieldNames.map Name.pascal ∧
      ((body.map writtenName).Nodup ↔ (d.fieldNames.map Name.spelledOut).Nodup) ∧
      ∀ k : Name.Spelling, (∀ name ∈ d.fieldNames, k.Admits name) → d.fieldNames.Nodup →
        (body.map writtenName).Nodup := by
  have hproperty : ∀ line ∈ Block.body .interface (trim t), ∀ f,
      interfaceField? .default line = some f → IsProperty f := fun line hline f hf =>
    isProperty_of_interfaceField? (Block.not_newline_mem_of_mem_body hline) hf
  obtain ⟨d, hread, hsource, hconverted, hlayout, -⟩ := exists_block_of_lines fs check h
    (fun hn => nomatch hn) fun line hline f hf =>
      ⟨(hproperty line hline f hf).not_newline_mem, (hproperty line hline f hf).endsOutside⟩
  have hnames : (d.fields.map (memberLine .default .struct)).map writtenName
      = d.fieldNames.map Name.pascal := by
    refine map_writtenName fun f hf => ?_
    obtain ⟨line, hline, hfield⟩ := hsource f hf
    exact ⟨hproperty line hline f hfield, name_of_interfaceField? hfield⟩
  refine ⟨d, _, d.fields.map (memberLine .default .struct), hread, hconverted, hlayout, hnames,
    ?_, fun k hadmits hdistinct => ?_⟩
  · rw [hnames]
    exact Name.nodup_map_pascal_iff
  · rw [hnames]
    exact hdistinct.map_on fun name hname name' hname' hpascal =>
      Name.Spelling.pascal_injOn k (hadmits name hname) (hadmits name' hname') hpascal

/-- An interface with one spelling of its names. -/
def session : Text :=
  "interface Session \x7b\n  userId: number;\n  user_ID?: string;\n  token: string;\n\x7d".toList

theorem exists_struct_with_names_session :
    classify session = .ok .interface ∧
    ∃ d out body, Declaration.read .default .interface (trim session) = .ok d ∧
      ofText [] { tagCheck := .bool true } session = .ok (.converted .interface d out) ∧
      lines out = headerLine {} d.name .struct :: (body ++ [['}']]) ∧
      body.map writtenName = ["UserId".toList, "User_ID".toList, "Token".toList] ∧
      (body.map writtenName).Nodup := by
  have hinterface : classify session = .ok .interface := by decide +kernel
  obtain ⟨d, out, body, hread, hconverted, hlayout, hnames, -, hspelling⟩ :=
    exists_struct_with_names [] true hinterface
  have hfields : d.fieldNames = ["userId".toList, "user_ID".toList, "token".toList] := by
    have hdeclared : (Declaration.read .default .interface (trim session)).toOption.map
        (·.fieldNames) = some ["userId".toList, "user_ID".toList, "token".toList] := by
      decide +kernel
    rw [hread] at hdeclared
    exact Option.some.inj hdeclared
  refine ⟨hinterface, d, out, body, hread, hconverted, hlayout, ?_, ?_⟩
  · rw [hnames, hfields]
    decide +kernel
  · exact hspelling .camel (by rw [hfields]; decide +kernel) (by rw [hfields]; decide)

/-- An interface with both spellings of one name. -/
def login : Text :=
  "interface Account \x7b\n  user_name: string;\n  userName: string;\n\x7d".toList

def loginDeclaration : Declaration where
  name := "Account".toList
  kind := .interface
  fields :=
    [{ name := "user_name".toList, type := .known "string".toList,
       jsonName := "user_name".toList },
     { name := "userName".toList, type := .known "string".toList, jsonName := "userName".toList }]

/-- The lines between the header and the brace of the struct. -/
def loginBody : List Text :=
  ["\tUserName string `json:\"user_name\"`".toList, "\tUserName string `json:\"userName\"`".toList]

/-- **Different properties may have one name in the struct.** -/
theorem shared_name_login :
    classify login = .ok .interface ∧
    Declaration.read .default .interface (trim login) = .ok loginDeclaration ∧
    loginDeclaration.fieldNames.Nodup ∧
    ∃ out, ofText [] {} login = .ok (.converted .interface loginDeclaration out) ∧
      lines out = "type Account struct \x7b".toList :: (loginBody ++ [['}']]) ∧
      loginBody.map writtenName = ["UserName".toList, "UserName".toList] ∧
      ¬ (loginBody.map writtenName).Nodup := by
  have hinterface : classify login = .ok .interface := by decide +kernel
  have hread : Declaration.read .default .interface (trim login) = .ok loginDeclaration := by
    decide +kernel
  have hsettings : Settings.UsesBuiltIn [] {} := Settings.usesBuiltIn_of_noFolder [] rfl rfl rfl
  have hconverted := ofText_eq_converted hsettings (o := {}) rfl hinterface
    (fun hn => nomatch hn) hread
  have hlines : lines (tidy (block {} .struct loginDeclaration))
      = "type Account struct \x7b".toList :: (loginBody ++ [['}']]) := by decide +kernel
  have hnames : loginBody.map writtenName = ["UserName".toList, "UserName".toList] := by
    decide +kernel
  refine ⟨hinterface, hread, by decide, _, hconverted, hlines, hnames, ?_⟩
  rw [hnames]
  decide

end WireTypes.Conversion
