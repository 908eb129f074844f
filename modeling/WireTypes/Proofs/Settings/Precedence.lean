import WireTypes.Proofs.Json.Equality
import WireTypes.Proofs.Json.Objects
import WireTypes.Proofs.Settings.Loading

/-!
# Settings — Which source a setting comes from

Members are merged by key before settings are made of them: overrides win
over the file, and the file over the defaults (`get?_given`). For the fields
that is all. Members without a meaning go to the custom settings only then,
when it is no longer known where they came from: they replace the entries of
a custom object, so a member of the file without a meaning beats an entry of
the custom object of the overrides (`load_precedence`).
-/

namespace WireTypes

open Text

/-! ## Lookups in entries -/

namespace Entries

variable {es : Entries} {t : Table Json} {key : Text} {value : Json}

/-- A text equals no scalar but itself. -/
theorem sameScalar_string_iff {k : Json} : k.sameScalar (.string key) = true ↔ k = .string key := by
  cases k with
  | string t =>
      have hsame : Json.sameScalar (.string t) (.string key) = (t == key) := rfl
      rw [hsame, beq_iff_eq, Json.string.injEq]
  | float x => cases h : x.toRat? <;> simp [Json.sameScalar, Json.toRat?, h]
  | _ => simp [Json.sameScalar, Json.toRat?]

theorem get?_insert_string (es : Entries) (key : Text) (value : Json) (other : Text) :
    (es.insert (.string key) value).get? (.string other)
      = if key = other then some value else es.get? (.string other) := by
  have hsame : Json.sameScalar (.string key) (.string other) = (key == other) := rfl
  induction es with
  | nil => simp [insert, get?, hsame]
  | cons head rest ih =>
      obtain ⟨k, v⟩ := head
      rw [insert]
      split
      · rename_i hk
        obtain rfl := sameScalar_string_iff.mp hk
        rw [get?, get?, hsame]
        by_cases hkey : key = other <;> simp [hkey]
      · rename_i hk
        rw [get?, get?, ih]
        by_cases hkey : key = other
        · subst hkey
          rw [if_neg hk, if_pos rfl, if_pos rfl]
        · rw [if_neg hkey, if_neg hkey]

/-- A merge has the values of the table, and at other keys those of the
entries. -/
theorem get?_merge_ofTable (h : t.keys.Nodup) (key : Text) :
    (es.merge (ofTable t)).get? (.string key) = (t.get? key).or (es.get? (.string key)) := by
  induction t generalizing es with
  | nil => rfl
  | cons head rest ih =>
      obtain ⟨k, v⟩ := head
      simp only [Table.keys, List.map_cons, List.nodup_cons] at h
      have hstep : es.merge (ofTable ((k, v) :: rest))
          = (es.insert (.string k) v).merge (ofTable rest) := rfl
      rw [hstep, ih h.2, get?_insert_string, Table.get?]
      by_cases hk : k = key
      · subst hk
        have hnone : Table.get? rest k = none := Table.get?_eq_none_iff.mpr h.1
        simp [hnone]
      · simp [hk]

end Entries

/-- Custom settings made of entries have these entries. -/
theorem Custom.toEntries_ofEntries (es : Entries) : (Custom.ofEntries es).toEntries = .ok es := by
  rw [ofEntries]
  split
  · rename_i htexts
    rw [toEntries, Entries.eq_ofTable_texts htexts, Entries.toJson_ofTable]
    rfl
  · rfl

namespace Settings

variable {fs : Files} {file : Option Path} {p : Path} {s : Settings}
  {ofFile overrides members own : Table Json} {key : Text} {value : Json}

/-! ## The merge by key -/

theorem nodup_keys_of_membersOfText {t : Text} (h : membersOfText p t = .ok members) :
    members.keys.Nodup := by
  cases hread : Json.ofText (unifyNewlines t) with
  | error fault =>
      simp only [membersOfText, hread] at h
      split at h <;> cases h
  | ok value =>
      simp only [membersOfText, hread] at h
      split at h
      · rename_i heq
        cases heq
        cases h
        exact Json.nodup_keys_of_ofText hread
      · cases h
      · contradiction

/-- The members of a file have distinct keys. -/
theorem nodup_keys_of_fileMembers (h : fileMembers fs file = .ok members) :
    members.keys.Nodup := by
  cases file with
  | none =>
      cases h
      exact List.nodup_nil
  | some p =>
      rw [fileMembers, membersOfFile] at h
      split at h
      · cases h
      · cases h
      · split at h
        · cases h
        · split at h
          · cases h
          · cases h
          · exact nodup_keys_of_membersOfText h

/-- Overrides win over the file, and the file over the defaults. -/
theorem get?_given (hfile : ofFile.keys.Nodup) (hoverrides : overrides.keys.Nodup) (key : Text) :
    (given ofFile overrides).get? key =
      (overrides.get? key).or ((ofFile.get? key).or (Table.get? (fixedMembers {}) key)) := by
  rw [given, Table.get?_merge hoverrides, Table.get?_merge hfile]

/-- A key without a meaning has no default. -/
theorem get?_given_of_unknown (hfile : ofFile.keys.Nodup) (hoverrides : overrides.keys.Nodup)
    (hkey : key ∉ knownKeys) :
    (given ofFile overrides).get? key = (overrides.get? key).or (ofFile.get? key) := by
  have hdefault : Table.get? (fixedMembers {}) key = none :=
    Table.get?_eq_none_iff.mpr fun hmem => hkey (List.dropLast_subset _ hmem)
  rw [get?_given hfile hoverrides, hdefault, Option.or_none]

theorem get?_otherMembers (t : Table Json) (key : Text) :
    (otherMembers t).get? key = if key ∈ knownKeys then none else t.get? key := by
  split
  · rename_i hkey
    rw [Table.get?_eq_none_iff]
    intro hmem
    obtain ⟨m, hm, rfl⟩ := List.mem_map.mp hmem
    have hother := (List.mem_filter.mp hm).2
    simp [hkey] at hother
  · rename_i hkey
    exact Table.get?_filter (p := fun k => !knownKeys.contains k) (by simpa using hkey) t

/-! ## What settings are made of -/

/-- Fields come from the overrides, else from the file, else they have their
defaults. -/
theorem fixedMembers_of_given (hfile : ofFile.keys.Nodup) (hoverrides : overrides.keys.Nodup)
    (hmade : ofMembers (Entries.ofTable (given ofFile overrides)) = .ok s) :
    s.fixedMembers = (fixedMembers {}).map fun m =>
      (m.1, ((overrides.get? m.1).or (ofFile.get? m.1)).getD m.2) := by
  rw [fixedMembers_of_ofMembers (nodup_given _ _) hmade, fieldsOf,
    (ofKnown_spec (nodup_given _ _)).1]
  refine List.map_congr_left fun m hm => ?_
  have hdefault := Table.get?_of_mem (nodup_keys_fixedMembers {}) hm
  rw [Table.getD, get?_given hfile hoverrides, hdefault]
  cases overrides.get? m.1 <;> cases ofFile.get? m.1 <;> rfl

/-- A member without a meaning is a custom setting. -/
theorem exists_custom_of_member (hdistinct : members.keys.Nodup)
    (hmade : ofMembers (Entries.ofTable members) = .ok s) (hkey : key ∉ knownKeys)
    (hget : members.get? key = some value) :
    ∃ es, s.custom.toEntries = .ok es ∧ es.get? (.string key) = some value := by
  have hother : (otherMembers members).get? key = some value := by
    rw [get?_otherMembers, if_neg hkey, hget]
  have hsome : otherMembers members ≠ [] := by
    intro hnil
    rw [hnil] at hother
    cases hother
  rw [ofMembers_ofTable hdistinct, if_neg hsome] at hmade
  cases hentries : (members.getD customKey (.object [])).entries with
  | error cause =>
      rw [hentries] at hmade
      cases hmade
  | ok es =>
      rw [hentries] at hmade
      cases hmade
      refine ⟨_, Custom.toEntries_ofEntries _, ?_⟩
      rw [Entries.get?_merge_ofTable (nodup_otherMembers hdistinct), hother]
      rfl

/-- Members without a meaning are merged into a custom object. -/
theorem custom_of_object (hdistinct : members.keys.Nodup)
    (hmade : ofMembers (Entries.ofTable members) = .ok s)
    (hcustom : members.get? customKey = some (.object own)) :
    s.custom = .value (.object (own.merge (otherMembers members))) := by
  have hobject : members.getD customKey (.object []) = .object own := by
    rw [Table.getD, hcustom]
    rfl
  rw [ofMembers_ofTable hdistinct, hobject] at hmade
  split at hmade
  · rename_i hnone
    cases hmade
    rw [fieldsOf, (ofKnown_spec hdistinct).2, hobject, hnone]
    rfl
  · cases hmade
    show Custom.ofEntries ((Entries.ofTable own).merge _) = _
    rw [Entries.merge_ofTable, Custom.ofEntries_ofTable]

/-- **Where loaded settings come from.** A field has the value of the
overrides, else that of the file, else its default. A member of the
overrides without a meaning is a custom setting. If the overrides have a
custom object, what stands at a key without a meaning is the member of the
overrides, else the member of the file, and only then the entry of the
object: an entry gives way to a member of the file. -/
theorem load_precedence (hoverrides : overrides.keys.Nodup)
    (h : load fs (.object overrides) file = .ok s) :
    ∃ ofFile, fileMembers fs file = .ok ofFile ∧
      s.fixedMembers = (fixedMembers {}).map (fun m =>
        (m.1, ((overrides.get? m.1).or (ofFile.get? m.1)).getD m.2)) ∧
      (∀ key value, overrides.get? key = some value → key ∉ knownKeys →
        ∃ es, s.custom.toEntries = .ok es ∧ es.get? (.string key) = some value) ∧
      ∀ own : Table Json, overrides.get? customKey = some (.object own) →
        ∃ members : Table Json, s.custom = .value (.object members) ∧
          ∀ key, members.get? key =
            if key ∈ knownKeys then own.get? key
            else ((overrides.get? key).or (ofFile.get? key)).or (own.get? key) := by
  rw [load_eq (entriesIfSet_object overrides)] at h
  cases hfile : fileMembers fs file with
  | error fault =>
      rw [hfile] at h
      cases h
  | ok ofFile =>
      rw [hfile] at h
      have hmade := (made_eq_ok_iff.mp h).1
      have hdistinct := nodup_keys_of_fileMembers hfile
      refine ⟨ofFile, rfl, fixedMembers_of_given hdistinct hoverrides hmade, ?_, ?_⟩
      · intro key value hget hkey
        refine exists_custom_of_member (nodup_given _ _) hmade hkey ?_
        rw [get?_given hdistinct hoverrides, hget]
        rfl
      · intro own hown
        have hcustom : (given ofFile overrides).get? customKey = some (.object own) := by
          rw [get?_given hdistinct hoverrides, hown]
          rfl
        refine ⟨_, custom_of_object (nodup_given _ _) hmade hcustom, fun key => ?_⟩
        rw [Table.get?_merge (nodup_otherMembers (nodup_given _ _)), get?_otherMembers]
        split
        · rfl
        · rename_i hkey
          rw [get?_given_of_unknown hdistinct hoverrides hkey]

/-- A folder with one file, which holds an object as it is saved. -/
def fileOf (name : Text) (members : Table Json) : Files :=
  Files.create [] [name] (.file (.text ((Json.object members).indented 0)))

theorem fileMembers_fileOf (hstorable : (Json.object members).Storable) :
    fileMembers (fileOf "c.json".toList members) (some ⟨[], ["c.json".toList]⟩) = .ok members := by
  rw [fileMembers, membersOfFile_eq rfl (by decide)]
  show membersOfText _ ((Json.object members).indented 0) = _
  simp only [membersOfText, Json.ofText_unifyNewlines_indented hstorable]

/-- Loading from such a file makes settings of its members and of the
overrides. -/
theorem load_fileOf (hstorable : (Json.object members).Storable) (overrides : Table Json) :
    load (fileOf "c.json".toList members) (.object overrides) (some ⟨[], ["c.json".toList]⟩)
      = made (fileOf "c.json".toList members) (given members overrides) := by
  rw [load_eq (entriesIfSet_object overrides), fileMembers_fileOf hstorable]
  rfl

/-- Overrides and a file that both have a field and a custom setting; one
custom setting stands in the custom object of the overrides, and there the
file wins. -/
theorem load_precedence_ledger :
    let p : Path := ⟨[], ["c.json".toList]⟩
    let ofFile : Table Json := [(exportedKey, .bool true), ("indent".toList, .whole 2),
      ("owner".toList, .string ['b'])]
    let own : Table Json := [("owner".toList, .string ['a']), ("depth".toList, .whole 1)]
    let overrides : Table Json :=
      [(exportedKey, .bool false), ("indent".toList, .whole 4), (customKey, .object own)]
    overrides.keys.Nodup ∧
      ∃ s, load (fileOf "c.json".toList ofFile) (.object overrides) (some p) = .ok s ∧
        s.exported = .bool false ∧
        (∃ es, s.custom.toEntries = .ok es ∧
          es.get? (.string "indent".toList) = some (.whole 4)) ∧
        ∃ members : Table Json, s.custom = .value (.object members) ∧
          members.get? "depth".toList = some (.whole 1) ∧
          members.get? "owner".toList = some (.string ['b']) := by
  intro p ofFile own overrides
  have hdistinct : overrides.keys.Nodup := by decide
  have hstorable : (Json.object ofFile).Storable := by
    refine .object (by decide) fun m hm => ?_
    simp only [ofFile, List.mem_cons, List.not_mem_nil, or_false] at hm
    rcases hm with rfl | rfl | rfl
    · exact .bool true
    · exact .whole (by decide)
    · exact .string _
  obtain ⟨s, hmade⟩ : ∃ s, made (fileOf "c.json".toList ofFile) (given ofFile overrides) = .ok s :=
    ⟨_, rfl⟩
  have hload := (load_fileOf hstorable overrides).trans hmade
  obtain ⟨found, hfile, hfields, hmember, hcustom⟩ := load_precedence hdistinct hload
  rw [fileMembers_fileOf hstorable] at hfile
  cases hfile
  have hexported : some s.exported = some (.bool false) :=
    congrArg (fun t : Table Json => t.get? exportedKey) hfields
  obtain ⟨members, hmembers, hget⟩ := hcustom own rfl
  exact ⟨hdistinct, s, hload, Option.some.inj hexported, hmember _ _ rfl (by decide), members,
    hmembers, hget _, hget _⟩

/-- **An entry of the custom object of the overrides gives way to the
file**, although overrides come last: once merged, a member of the file
without a meaning looks like one of the overrides. -/
theorem load_custom_from_file :
    let p : Path := ⟨[], ["c.json".toList]⟩
    let ofFile : Table Json := [("owner".toList, .string ['b'])]
    let own : Table Json := [("owner".toList, .string ['a'])]
    let overrides : Table Json := [(customKey, .object own)]
    ∃ s, load (fileOf "c.json".toList ofFile) (.object overrides) (some p) = .ok s ∧
      own.get? "owner".toList = some (.string ['a']) ∧ overrides.get? "owner".toList = none ∧
      ¬ ∃ es, s.custom.toEntries = .ok es ∧
        es.get? (.string "owner".toList) = some (.string ['a']) := by
  intro p ofFile own overrides
  have hstorable : (Json.object ofFile).Storable := by
    refine .object (by decide) fun m hm => ?_
    obtain rfl := List.mem_singleton.mp hm
    exact .string _
  refine ⟨_, (load_fileOf hstorable overrides).trans rfl, rfl, rfl, ?_⟩
  rintro ⟨es, hes, hget⟩
  cases hes
  have hvalue : some (Json.string ['b']) = some (.string ['a']) := hget
  injection hvalue with hvalue
  injection hvalue with hvalue
  exact absurd hvalue (by decide)

end Settings

end WireTypes
