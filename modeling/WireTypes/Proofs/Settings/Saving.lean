import WireTypes.Proofs.Files.Writing
import WireTypes.Proofs.Json.Equality
import WireTypes.Proofs.Settings.Loading

/-!
# Settings — Saving and loading again

Custom settings are saved beside the others, under keys of their own. When
the file is loaded, the keys that have a meaning become fields and all others
become custom settings again. So nothing is lost as long as no custom setting
has a key with a meaning (`ofMembers_reloaded`). One that has is lost, or comes back
in the place of a field; and where it is the key of the custom settings
themselves, what comes back cannot hold it, since it would have to go as deep
as what it was made from (`not_same_of_customKey`).
-/

namespace WireTypes

open Text

/-- The keys of an object are distinct. -/
def Json.DistinctKeys : Json → Prop
  | .object members => (Table.keys members).Nodup
  | _ => True

namespace Settings

variable {fs fs' : Files} {p : Path} {s s' : Settings} {members t : Table Json} {v : Json}
  {key : Text}

/-! ## Settings without problems -/

theorem problems_eq_nil_iff : s.problems fs = .ok [] ↔
    folderProblems fs templateFolderKey s.templateFolder = .ok [] ∧
      boolProblems tagCheckKey s.tagCheck = [] ∧ boolProblems exportedKey s.exported = [] ∧
      overrideProblems structOverridesKey s.structOverrides = [] ∧
      overrideProblems interfaceOverridesKey s.interfaceOverrides = [] := by
  rw [problems]
  cases folderProblems fs templateFolderKey s.templateFolder with
  | error cause => simp [bind, Except.bind]
  | ok folder =>
      simp only [bind, Except.bind, pure, Except.pure, Except.ok.injEq, List.append_eq_nil_iff,
        flagProblems]
      constructor
      · rintro ⟨⟨⟨⟨htagCheck, hexported⟩, hfolder⟩, hstruct⟩, hinterface⟩
        exact ⟨hfolder, htagCheck, hexported, hstruct, hinterface⟩
      · rintro ⟨hfolder, htagCheck, hexported, hstruct, hinterface⟩
        exact ⟨⟨⟨⟨htagCheck, hexported⟩, hfolder⟩, hstruct⟩, hinterface⟩

theorem storable_of_boolProblems (h : boolProblems key v = []) : v.Storable := by
  cases v with
  | bool b => exact .bool b
  | _ => cases h

theorem storable_of_folderProblems (h : folderProblems fs key v = .ok []) : v.Storable := by
  cases v with
  | null => exact .null
  | string t => exact .string t
  | _ => cases h

theorem storable_of_overrideProblems (h : overrideProblems key v = []) (hkeys : v.DistinctKeys) :
    v.Storable := by
  cases v with
  | object members =>
      refine .object hkeys fun m hm => ?_
      have hnone := List.filterMap_eq_nil_iff.mp h m hm
      obtain ⟨name, value⟩ := m
      cases value with
      | string t => exact .string t
      | _ => cases hnone
  | _ => cases h

/-- Settings without problems can be stored. -/
theorem storable_fixedMembers (hvalid : s.problems fs = .ok [])
    (hkeys : ∀ m ∈ s.fixedMembers, m.2.DistinctKeys) : ∀ m ∈ s.fixedMembers, m.2.Storable := by
  obtain ⟨hfolder, htagCheck, hexported, hstruct, hinterface⟩ := problems_eq_nil_iff.mp hvalid
  simp only [fixedMembers, List.forall_mem_cons, List.not_mem_nil, IsEmpty.forall_iff,
    implies_true, and_true] at hkeys ⊢
  exact ⟨storable_of_boolProblems htagCheck, storable_of_overrideProblems hstruct hkeys.2.1,
    storable_of_overrideProblems hinterface hkeys.2.2.1, storable_of_boolProblems hexported,
    storable_of_folderProblems hfolder⟩

/-- Settings have no problems where all folders still are. -/
theorem problems_eq_nil_of_hasFolder
    (hfolders : ∀ q, fs.hasFolder q = .ok true → fs'.hasFolder q = .ok true)
    (h : s.problems fs = .ok []) : s.problems fs' = .ok [] := by
  obtain ⟨hfolder, hrest⟩ := problems_eq_nil_iff.mp h
  refine problems_eq_nil_iff.mpr ⟨?_, hrest⟩
  cases hvalue : s.templateFolder with
  | string t =>
      rw [hvalue, folderProblems] at hfolder
      have hthere : fs.hasFolder (Path.ofText t) = .ok true := by
        cases hfound : fs.hasFolder (Path.ofText t) with
        | error cause =>
            rw [hfound] at hfolder
            cases hfolder
        | ok found =>
            rw [hfound] at hfolder
            cases found with
            | false => cases hfolder
            | true => rfl
      rw [folderProblems, hfolders _ hthere]
      rfl
  | _ =>
      rw [hvalue] at hfolder
      exact hfolder

/-! ## The saved file -/

/-- The members of the saved file. -/
def savedTable (s : Settings) (members : Table Json) : Table Json := s.fixedMembers.merge members

theorem nodup_savedTable (s : Settings) (members : Table Json) :
    (savedTable s members).keys.Nodup :=
  Table.nodup_keys_merge (nodup_keys_fixedMembers s)

theorem storable_savedTable (hvalid : s.problems fs = .ok [])
    (hkeys : ∀ m ∈ s.fixedMembers, m.2.DistinctKeys) (hstorable : (Json.object members).Storable) :
    (Json.object (savedTable s members)).Storable := by
  cases hstorable with
  | object distinct each =>
      refine .object (nodup_savedTable s members) fun m hm => ?_
      rcases Table.mem_of_mem_merge hm with hfixed | hcustom
      · exact storable_fixedMembers hvalid hkeys m hfixed
      · exact each m hcustom

theorem savedMembers_eq (hcustom : s.custom = .value (.object members)) :
    s.savedMembers = .ok (Entries.ofTable (savedTable s members)) := by
  rw [savedMembers, hcustom, savedTable, ← Entries.merge_ofTable]
  rfl

/-- Settings are saved to a writable path, and the members of the file are
then those that were saved. -/
theorem exists_save (hvalid : s.problems fs = .ok [])
    (hcustom : s.custom = .value (.object members)) (hstorable : (Json.object members).Storable)
    (hkeys : ∀ m ∈ s.fixedMembers, m.2.DistinctKeys)
    (hname : lower p.extension = ".json".toList) (hwritable : fs.Writable p) :
    ∃ fs', s.save fs p = .ok fs' ∧ fileMembers fs' (some p) = .ok (savedTable s members) ∧
      s.problems fs' = .ok [] := by
  obtain ⟨fs', hwrite, hpresent, hread, hfolders⟩ :=
    Files.exists_write hwritable ((Json.object (savedTable s members)).indented 0)
  refine ⟨fs', ?_, ?_, problems_eq_nil_of_hasFolder hfolders hvalid⟩
  · simp only [save, savedMembers_eq hcustom, Entries.toJson_ofTable, hwrite]
  · rw [fileMembers, membersOfFile_eq hpresent hname, hread]
    simp only [membersOfText,
      Json.ofText_unifyNewlines_indented (storable_savedTable hvalid hkeys hstorable)]

/-! ## Settings from the saved file -/

/-- All members when the saved file is loaded. -/
abbrev reloaded (s : Settings) (members : Table Json) : Table Json :=
  given (savedTable s members) []

theorem otherMembers_fixedMembers (s : Settings) : otherMembers s.fixedMembers = [] :=
  otherMembers_eq_nil_iff.mpr fun _ hkey => List.dropLast_subset _ (keys_fixedMembers s ▸ hkey)

theorem otherMembers_merge_of_eq_nil (h : otherMembers t = []) (hdistinct : members.keys.Nodup) :
    otherMembers (t.merge members) = otherMembers members := by
  have hmerge : otherMembers (t.merge members) = (otherMembers t).merge (otherMembers members) :=
    Table.filter_merge (p := fun key => !knownKeys.contains key) t members
  rw [hmerge, h]
  exact Table.ofPairs_of_nodup (nodup_otherMembers hdistinct)

/-- What becomes custom settings are the custom settings without a meaning. -/
theorem otherMembers_reloaded (hdistinct : members.keys.Nodup) :
    otherMembers (reloaded s members) = otherMembers members :=
  (otherMembers_merge_of_eq_nil (otherMembers_fixedMembers {}) (nodup_savedTable s members)).trans
    (otherMembers_merge_of_eq_nil (otherMembers_fixedMembers s) hdistinct)

/-- A key has the value that it has among the custom settings, and else that
of its field. -/
theorem get?_reloaded (hdistinct : members.keys.Nodup) (key : Text) :
    Table.get? (reloaded s members) key = ((members.get? key).or (s.fixedMembers.get? key)).or
      (Table.get? (fixedMembers {}) key) := by
  have hmerge : reloaded s members = (fixedMembers {}).merge (savedTable s members) := rfl
  rw [hmerge, Table.get?_merge (nodup_savedTable s members), savedTable, Table.get?_merge hdistinct]

/-- Loading makes settings of these members and checks them. -/
theorem load_reloaded (hfile : fileMembers fs (some p) = .ok (savedTable s members)) :
    load fs .null (some p) = .ok s' ↔
      ofMembers (Entries.ofTable (reloaded s members)) = .ok s' ∧ s'.problems fs = .ok [] := by
  have hnone : Json.null.entriesIfSet = .ok (Entries.ofTable []) := rfl
  rw [load_eq hnone, hfile]
  exact made_eq_ok_iff

/-! ## Keys without a meaning -/

/-- New members behind custom settings without entries are the custom
settings. -/
theorem ofEntries_merge_nil (h : t.keys.Nodup) :
    Custom.ofEntries (Entries.merge [] (Entries.ofTable t)) = .value (.object t) := by
  have hmerge : Entries.merge [] (Entries.ofTable t) = Entries.ofTable (Table.ofPairs t) :=
    Entries.merge_ofTable [] t
  rw [hmerge, Table.ofPairs_of_nodup h, Custom.ofEntries_ofTable]

theorem getD_reloaded_of_not_mem (hdistinct : members.keys.Nodup)
    (hcustom : customKey ∉ members.keys) :
    Table.getD (reloaded s members) customKey (.object []) = .object [] := by
  rw [Table.getD, get?_reloaded hdistinct, Table.get?_eq_none_iff.mpr hcustom]
  rfl

/-- Without one under the key of the custom settings, those without a
meaning are all that come back. -/
theorem custom_of_not_mem (hdistinct : members.keys.Nodup) (hcustom : customKey ∉ members.keys)
    (h : ofMembers (Entries.ofTable (reloaded s members)) = .ok s') :
    s'.custom = .value (.object (otherMembers members)) := by
  rw [ofMembers_ofTable (nodup_given _ _), otherMembers_reloaded hdistinct,
    getD_reloaded_of_not_mem hdistinct hcustom] at h
  split at h
  · rename_i hothers
    cases h
    rw [fieldsOf, (ofKnown_spec (nodup_given _ _)).2, getD_reloaded_of_not_mem hdistinct hcustom,
      hothers]
  · cases h
    exact ofEntries_merge_nil (nodup_otherMembers hdistinct)

/-- Fields come back unless a custom setting has their key. -/
theorem fixedMembers_of_not_mem (hdistinct : members.keys.Nodup)
    (hnew : ∀ key ∈ knownKeys, key ∉ members.keys) :
    (fieldsOf (reloaded s members)).fixedMembers = s.fixedMembers := by
  have hfields : (fixedMembers {}).map (fun m => (m.1, s.fixedMembers.getD m.1 m.2))
      = s.fixedMembers := rfl
  rw [fieldsOf, (ofKnown_spec (nodup_given _ _)).1, ← hfields]
  refine List.map_congr_left fun m hm => ?_
  obtain ⟨k, v⟩ := m
  have hdefault := Table.get?_of_mem (nodup_keys_fixedMembers {}) hm
  have hnone := Table.get?_eq_none_iff.mpr (hnew k (mem_knownKeys_of_mem_fixedMembers hm))
  simp only [Table.getD, get?_reloaded hdistinct, hnone, hdefault]
  cases s.fixedMembers.get? k <;> rfl

/-- **Nothing is lost.** Settings whose custom settings have keys without a
meaning come back as they were. -/
theorem ofMembers_reloaded (hcustom : s.custom = .value (.object members))
    (hdistinct : members.keys.Nodup) (hnew : ∀ key ∈ knownKeys, key ∉ members.keys) :
    ofMembers (Entries.ofTable (reloaded s members)) = .ok s := by
  have hmeta : customKey ∉ members.keys := hnew customKey (by simp [knownKeys])
  have hothers : otherMembers members = members :=
    List.filter_eq_self.mpr fun m hm => by
      simpa using fun hkey => hnew m.1 hkey (List.mem_map_of_mem hm)
  cases hmade : ofMembers (Entries.ofTable (reloaded s members)) with
  | error cause =>
      obtain ⟨-, hentries⟩ := (ofMembers_eq_error_iff (nodup_given _ _)).mp hmade
      rw [getD_reloaded_of_not_mem hdistinct hmeta] at hentries
      cases hentries
  | ok s' =>
      have hfields : s'.fixedMembers = s.fixedMembers :=
        (fixedMembers_of_ofMembers (nodup_given _ _) hmade).trans
          (fixedMembers_of_not_mem hdistinct hnew)
      rw [eq_of_fixedMembers hfields]
      rw [custom_of_not_mem hdistinct hmeta hmade, hothers, hcustom]

/-! ## Keys with a meaning -/

/-- Custom settings that hold one with a meaning have more members than what
comes back. -/
theorem not_same_of_fieldKey (hkey : ∃ key ∈ knownKeys, key ∈ members.keys) :
    (Json.object (otherMembers members)).same (.object members) = false := by
  obtain ⟨key, hknown, hmem⟩ := hkey
  obtain ⟨m, hm, rfl⟩ := List.mem_map.mp hmem
  have hlt : (otherMembers members).length < members.length :=
    List.length_filter_lt_length_iff_exists.mpr ⟨m, hm, by simpa using hknown⟩
  have hlength : ((otherMembers members).length == members.length) = false :=
    beq_false_of_ne hlt.ne
  rw [Json.same, hlength, Bool.false_and]

theorem eq_ofTable_of_ofEntries {es : Entries}
    (h : Custom.ofEntries es = .value (.object members)) : es = Entries.ofTable members := by
  rw [Custom.ofEntries] at h
  split at h
  · rename_i htexts
    have heq := Entries.eq_ofTable_texts htexts
    rw [heq, Entries.toJson_ofTable] at h
    cases h
    exact heq
  · cases h

/-- Among members without a meaning there is no entry for the custom
settings. -/
theorem customKey_not_of_otherMembers {q : Json × Json}
    (hq : q ∈ Entries.ofTable (otherMembers t)) :
    ¬ (Json.string customKey = q.1 ∨ (Json.string customKey).sameScalar q.1 = true) := by
  obtain ⟨m, hm, rfl⟩ := List.mem_map.mp hq
  have hother : m.1 ∉ knownKeys := by simpa using (List.mem_filter.mp hm).2
  have hne : customKey ≠ m.1 := fun heq => hother (heq ▸ by simp [knownKeys])
  rintro (heq | hsame)
  · exact hne (Json.string.inj heq)
  · exact hne (beq_iff_eq.mp hsame)

/-- An object of custom settings that was made with a value for them holds
only parts of that value under their key. -/
theorem parts_of_made (hv : v.Storable) (hdistinct : t.keys.Nodup)
    (hget : t.get? customKey = some v) (hmade : ofMembers (Entries.ofTable t) = .ok s')
    (hobject : s'.custom = .value (.object members)) :
    members.keys.Nodup ∧ ∀ u, (customKey, u) ∈ members → u.Storable ∧ u.depth < v.depth := by
  have hvalue : t.getD customKey (.object []) = v := by rw [Table.getD, hget, Option.getD_some]
  rw [ofMembers_ofTable hdistinct, hvalue] at hmade
  split at hmade
  · -- Nothing goes behind the value, so it is the object.
    cases hmade
    rw [fieldsOf, (ofKnown_spec hdistinct).2, hvalue] at hobject
    cases hobject
    cases hv with
    | object hmembers each =>
        exact ⟨hmembers, fun u hu => ⟨each _ hu, Json.depth_lt_object hu⟩⟩
  · cases hentries : v.entries with
    | error cause =>
        rw [hentries] at hmade
        cases hmade
    | ok es =>
        rw [hentries] at hmade
        cases hmade
        obtain ⟨hes, hparts⟩ := hv.entries_parts hentries
        have hmerge := eq_ofTable_of_ofEntries hobject
        refine ⟨Entries.nodup_keys_of_distinct (hmerge ▸ hes.merge), fun u hu => ?_⟩
        have hmem : (Json.string customKey, u) ∈ es.merge (Entries.ofTable (otherMembers t)) := by
          rw [hmerge]
          exact List.mem_map.mpr ⟨(customKey, u), hu, rfl⟩
        rcases Entries.mem_of_mem_merge hmem with hold | ⟨q, hq, -, hkey⟩
        · exact hparts _ hold
        · exact absurd hkey (customKey_not_of_otherMembers hq)

/-- **What is made of a custom setting under the key of the custom settings
cannot hold it.** An equal value in its place would be a part of it. -/
theorem not_same_of_customKey (hv : v.Storable) (hdistinct : t.keys.Nodup)
    (hget : t.get? customKey = some v) (hmade : ofMembers (Entries.ofTable t) = .ok s')
    (hmembers : members.keys.Nodup) (hmem : (customKey, v) ∈ members) :
    s'.custom.same (.value (.object members)) = false := by
  rw [Bool.eq_false_iff]
  intro hsame
  cases hcustom : s'.custom with
  | entries es =>
      rw [hcustom] at hsame
      cases hsame
  | value w =>
      rw [hcustom, Custom.same] at hsame
      obtain ⟨made, rfl, hlength, hequal⟩ := Json.exists_of_same_object hsame
      obtain ⟨hnodup, hparts⟩ := parts_of_made hv hdistinct hget hmade hcustom
      obtain ⟨u, hu, huv⟩ := Json.exists_member_of_same hnodup hmembers hlength hequal hmem
      obtain ⟨hstorable, hdepth⟩ := hparts u hu
      exact absurd (hv.depth_le_of_same hstorable huv) (Nat.not_le_of_lt hdepth)

/-- Custom settings that hold one with a meaning do not come back. -/
theorem not_same_of_mem (hstorable : (Json.object members).Storable)
    (hkey : ∃ key ∈ knownKeys, key ∈ members.keys)
    (hmade : ofMembers (Entries.ofTable (reloaded s members)) = .ok s') :
    s'.custom.same (.value (.object members)) = false := by
  cases hstorable with
  | object distinct each =>
      by_cases hcustom : customKey ∈ members.keys
      · obtain ⟨m, hm, hname⟩ := List.mem_map.mp hcustom
        obtain ⟨k, v⟩ := m
        obtain rfl : k = customKey := hname
        have hget : Table.get? (reloaded s members) customKey = some v := by
          rw [get?_reloaded distinct, Table.get?_of_mem distinct hm]
          rfl
        exact not_same_of_customKey (each _ hm) (nodup_given _ _) hget hmade distinct hm
      · rw [custom_of_not_mem distinct hcustom hmade]
        exact not_same_of_fieldKey hkey

/-! ## Loading what was saved -/

/-- Settings without problems equal themselves. -/
theorem same_self (hvalid : s.problems fs = .ok []) (hcustom : s.custom = .value (.object members))
    (hstorable : (Json.object members).Storable)
    (hkeys : ∀ m ∈ s.fixedMembers, m.2.DistinctKeys) : s.same s = true := by
  have hfixed := storable_fixedMembers hvalid hkeys
  simp only [fixedMembers, List.forall_mem_cons, List.not_mem_nil, IsEmpty.forall_iff,
    implies_true, and_true] at hfixed
  obtain ⟨htagCheck, hstruct, hinterface, hexported, hfolder⟩ := hfixed
  simp only [same, hcustom, Custom.same, htagCheck.same_self, hstruct.same_self,
    hinterface.same_self, hexported.same_self, hfolder.same_self, hstorable.same_self,
    Bool.and_self]

/-- **Saving loses nothing exactly when no custom setting has a key with a
meaning.** Settings without problems are saved to a writable path of a JSON
file, and loading that file gives equal settings if and only if none of the
keys with a meaning, that of the custom settings included, is a key of a
custom setting. That keys of an object are distinct is true of every object
that was ever read; here it is asked for, since an object is a list. -/
theorem load_save_iff (hvalid : s.problems fs = .ok [])
    (hcustom : s.custom = .value (.object members)) (hstorable : (Json.object members).Storable)
    (hkeys : ∀ m ∈ s.fixedMembers, m.2.DistinctKeys)
    (hname : lower p.extension = ".json".toList) (hwritable : fs.Writable p) :
    ∃ fs', s.save fs p = .ok fs' ∧
      ((∃ s', load fs' .null (some p) = .ok s' ∧ s'.same s = true) ↔
        ∀ key ∈ knownKeys, key ∉ members.keys) := by
  obtain ⟨fs', hsave, hfile, hvalid'⟩ := exists_save hvalid hcustom hstorable hkeys hname hwritable
  refine ⟨fs', hsave, ?_⟩
  constructor
  · rintro ⟨s', hload, hsame⟩ key hknown hmem
    obtain ⟨hmade, -⟩ := (load_reloaded hfile).mp hload
    have hnot := not_same_of_mem hstorable ⟨key, hknown, hmem⟩ hmade
    simp only [same, Bool.and_eq_true, hcustom, hnot, Bool.false_eq_true, and_false] at hsame
  · intro hnew
    have hsame := same_self hvalid hcustom hstorable hkeys
    cases hstorable with
    | object distinct each =>
        have hmade := ofMembers_reloaded hcustom distinct hnew
        exact ⟨s, (load_reloaded hfile).mpr ⟨hmade, hvalid'⟩, hsame⟩

/-- Custom settings of several kinds come back. -/
theorem load_save_iff_nested :
    let members : Table Json :=
      [("indent".toList, .whole 2), ("owner".toList, .object [("ids".toList, .list [.null])])]
    let s : Settings :=
      { exported := .bool true, structOverrides := .object [("UUID".toList, .string "Id".toList)],
        custom := .value (.object members) }
    let p : Path := ⟨[], ["c.json".toList]⟩
    s.problems [] = .ok [] ∧ Files.Writable [] p ∧
      ∃ fs', s.save [] p = .ok fs' ∧ ∃ s', load fs' .null (some p) = .ok s' ∧ s'.same s = true := by
  intro members s p
  have hvalid : s.problems [] = .ok [] := rfl
  have hstorable : (Json.object members).Storable := by
    refine .object (by decide) fun m hm => ?_
    rcases List.mem_pair.mp hm with rfl | rfl
    · exact .whole (by decide)
    · refine .object (by decide) fun m hm => ?_
      obtain rfl := List.mem_singleton.mp hm
      refine .list fun item hitem => ?_
      obtain rfl := List.mem_singleton.mp hitem
      exact .null
  have hkeys : ∀ m ∈ s.fixedMembers, m.2.DistinctKeys := by
    simp [s, fixedMembers, Json.DistinctKeys, Table.keys]
  have hwritable : Files.Writable [] p := ⟨⟨.above 0, p.names⟩, rfl, by decide⟩
  obtain ⟨fs', hsave, hload⟩ := load_save_iff hvalid rfl hstorable hkeys (by decide) hwritable
  exact ⟨hvalid, hwritable, fs', hsave, hload.mpr (by decide)⟩

end Settings

end WireTypes
