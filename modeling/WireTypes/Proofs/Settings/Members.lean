import WireTypes.Proofs.Table.Merging
import WireTypes.Settings.Basic

/-!
# Settings — Settings from members

Settings are made from members by key: what has a meaning becomes a field,
and the rest goes to the custom settings (`ofMembers_ofTable`). Of the
fields only `fixedMembers` and the custom settings are ever looked at, so
everything is said for all fields at once.
-/

namespace WireTypes

variable {t t' : Table Json} {key : Text} {value : Json}

/-! ## Entries with text keys -/

namespace Entries

theorem insert_ofTable (t : Table Json) (key : Text) (value : Json) :
    (ofTable t).insert (.string key) value = ofTable (t.insert key value) := by
  induction t with
  | nil => rfl
  | cons head rest ih =>
      obtain ⟨k, v⟩ := head
      have hsame : Json.sameScalar (.string k) (.string key) = (k == key) := rfl
      rw [ofTable, List.map_cons, insert, hsame, Table.insert]
      by_cases hk : k = key
      · simp [hk, ofTable]
      · simp only [beq_iff_eq, hk, if_false, ofTable, List.map_cons]
        rw [← ofTable, ih, ofTable]

/-- Entries with text keys are merged as tables are. -/
theorem merge_ofTable (t t' : Table Json) :
    (ofTable t).merge (ofTable t') = ofTable (t.merge t') := by
  induction t' generalizing t with
  | nil => rfl
  | cons head rest ih =>
      have hstep : (ofTable t).merge (ofTable (head :: rest))
          = ((ofTable t).insert (.string head.1) head.2).merge (ofTable rest) := rfl
      rw [hstep, insert_ofTable, ih]
      rfl

theorem texts_ofTable (t : Table Json) : (ofTable t).texts = t := by
  rw [texts, ofTable, List.filterMap_map]
  exact List.filterMap_some

theorem toJson_ofTable (t : Table Json) : (ofTable t).toJson = .object t := by
  rw [toJson, ofTable, List.map_map]
  exact congrArg Json.object (List.map_id t)

end Entries

theorem Custom.ofEntries_ofTable (t : Table Json) :
    Custom.ofEntries (Entries.ofTable t) = .value (.object t) := by
  have htexts : (Entries.ofTable t).allTexts = true := by
    rw [Entries.allTexts, Entries.texts_ofTable]
    simp [Entries.ofTable]
  rw [ofEntries, if_pos htexts, Entries.toJson_ofTable]

namespace Settings

variable {s s' : Settings}

/-! ## Fields by key -/

theorem eq_of_fixedMembers (h : s.fixedMembers = s'.fixedMembers) (hcustom : s.custom = s'.custom) :
    s = s' := by
  cases s
  cases s'
  simp_all [fixedMembers]

theorem nodup_knownKeys : knownKeys.Nodup := by decide

theorem keys_fixedMembers (s : Settings) : s.fixedMembers.keys = knownKeys.dropLast := rfl

theorem nodup_keys_fixedMembers (s : Settings) : s.fixedMembers.keys.Nodup := by
  rw [keys_fixedMembers]
  exact nodup_knownKeys.sublist (List.dropLast_sublist _)

theorem mem_knownKeys_of_mem_fixedMembers {m : Text × Json} (h : m ∈ s.fixedMembers) :
    m.1 ∈ knownKeys :=
  List.dropLast_subset _ (keys_fixedMembers s ▸ List.mem_map_of_mem h)

/-- A key with a meaning sets its own field and no other. -/
theorem set_spec (s : Settings) (key : Text) (value : Json) :
    (s.set key value).fixedMembers
      = s.fixedMembers.map (fun m => (m.1, if key = m.1 then value else m.2)) ∧
    (s.set key value).custom = if key = customKey then .value value else s.custom := by
  have hdistinct := nodup_knownKeys
  simp only [knownKeys, List.nodup_cons, List.mem_cons, List.not_mem_nil, or_false,
    not_or] at hdistinct
  rw [set]
  repeat' split
  all_goals simp_all [fixedMembers]

/-- Each field has the value of its key among members with distinct keys,
or the one it had before. -/
theorem foldl_set_spec (h : t.keys.Nodup) (s : Settings) :
    (t.foldl (fun s (key, value) => s.set key value) s).fixedMembers
      = s.fixedMembers.map (fun m => (m.1, t.getD m.1 m.2)) ∧
    (t.foldl (fun s (key, value) => s.set key value) s).custom
      = ((t.get? customKey).map Custom.value).getD s.custom := by
  induction t generalizing s with
  | nil => exact ⟨(List.map_id _).symm, rfl⟩
  | cons head rest ih =>
      obtain ⟨key, value⟩ := head
      simp only [Table.keys, List.map_cons, List.nodup_cons] at h
      have habsent : Table.get? rest key = none := Table.get?_eq_none_iff.mpr h.1
      obtain ⟨hfixed, hcustom⟩ := set_spec s key value
      obtain ⟨hfields, hothers⟩ := ih h.2 (s.set key value)
      rw [List.foldl_cons, hfields, hothers, hfixed, hcustom, List.map_map]
      constructor
      · refine List.map_congr_left fun pair _ => ?_
        by_cases hkey : key = pair.1
        · subst hkey
          simp [Table.getD, Table.get?, habsent]
        · simp [Table.getD, Table.get?, hkey]
      · rw [Table.get?]
        by_cases hkey : key = customKey
        · subst hkey
          simp [habsent]
        · simp [hkey]

/-! ## Known keys and others -/

/-- The members whose keys have a meaning. -/
def knownMembers (t : Table Json) : Table Json := t.filter (knownKeys.contains ·.1)

/-- The members whose keys have none. -/
def otherMembers (t : Table Json) : Table Json := t.filter (!knownKeys.contains ·.1)

theorem nodup_otherMembers (h : t.keys.Nodup) : (otherMembers t).keys.Nodup :=
  h.sublist (List.Sublist.map _ List.filter_sublist)

theorem ofKnown_spec (h : t.keys.Nodup) :
    (ofKnown (knownMembers t)).fixedMembers
      = (fixedMembers {}).map (fun m => (m.1, t.getD m.1 m.2)) ∧
    (ofKnown (knownMembers t)).custom = .value (t.getD customKey (.object [])) := by
  have hget : ∀ key ∈ knownKeys, Table.get? (knownMembers t) key = t.get? key := fun key hkey =>
    Table.get?_filter (by simpa using hkey) t
  have hdistinct : (knownMembers t).keys.Nodup := h.sublist (List.Sublist.map _ List.filter_sublist)
  obtain ⟨hfixed, hcustom⟩ := foldl_set_spec hdistinct {}
  refine ⟨hfixed.trans (List.map_congr_left fun pair hpair => ?_), ?_⟩
  · simp only [Table.getD, hget _ (mem_knownKeys_of_mem_fixedMembers hpair)]
  · rw [ofKnown, hcustom, hget customKey (by simp [knownKeys]), Table.getD]
    cases t.get? customKey <;> rfl

/-- The settings of some members with distinct keys, apart from the custom
ones. -/
def fieldsOf (t : Table Json) : Settings := ofKnown (knownMembers t)

theorem partition_ofTable (t : Table Json) :
    (Entries.ofTable t).partition (fun (key, _) => isKnown key)
      = (Entries.ofTable (knownMembers t), Entries.ofTable (otherMembers t)) := by
  rw [List.partition_eq_filter_filter, Entries.ofTable, List.filter_map, List.filter_map]
  rfl

/-- **What settings are made from.** Members without a meaning go behind
the entries of the custom settings, which have to have entries then. -/
theorem ofMembers_ofTable (h : t.keys.Nodup) :
    ofMembers (Entries.ofTable t) =
      if otherMembers t = [] then .ok (fieldsOf t)
      else (t.getD customKey (.object [])).entries.map fun es =>
        { fieldsOf t with custom := .ofEntries (es.merge (Entries.ofTable (otherMembers t))) } := by
  have hcustom : (fieldsOf t).custom = .value (t.getD customKey (.object [])) := (ofKnown_spec h).2
  rw [ofMembers, partition_ofTable]
  simp only [Entries.texts_ofTable]
  rw [← fieldsOf, hcustom]
  by_cases hnone : otherMembers t = []
  · rw [if_pos hnone, hnone]
    rfl
  · have hsome : (Entries.ofTable (otherMembers t)).isEmpty = false := by
      simpa [Entries.ofTable] using hnone
    rw [hsome, if_neg (by simp), if_neg hnone, Custom.toEntries]
    cases (t.getD customKey (.object [])).entries <;> rfl

/-- The fields do not depend on what goes to the custom settings. -/
theorem fixedMembers_of_ofMembers (h : t.keys.Nodup)
    (hmade : ofMembers (Entries.ofTable t) = .ok s) :
    s.fixedMembers = (fieldsOf t).fixedMembers := by
  rw [ofMembers_ofTable h] at hmade
  split at hmade
  · cases hmade
    rfl
  · cases hentries : (t.getD customKey (.object [])).entries with
    | error cause =>
        rw [hentries] at hmade
        cases hmade
    | ok es =>
        rw [hentries] at hmade
        cases hmade
        rfl

end Settings

end WireTypes
