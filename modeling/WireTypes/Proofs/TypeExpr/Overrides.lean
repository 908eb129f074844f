import WireTypes.Conversion.Options
import WireTypes.Proofs.Settings.Loading
import WireTypes.Proofs.TypeExpr.Marks

/-!
# Types — Overrides that take effect

Settings can give base types other names. Marks are read before any name is
looked up, so only what is left behind them is ever a key: an override of
such a base type takes effect, and an override of anything else changes no
type at all (`override_takes_effect`).

Every text is a spelling, and its base type is the only key that its
translation looks up. So two vocabularies that agree on base types translate
all types alike (`ofStruct_congr`, `ofInterface_congr`).
-/

namespace WireTypes.TypeExpr

open Text Canonical

variable {v v' : Vocabulary} {key : Text} {value : Json} {names : Table Json} {s : Settings}

/-! ## Keys of the two tables -/

/-- A base type of a struct, as it is looked up. -/
structure IsStructKey (key : Text) : Prop where
  trimmed : trim key = key
  noStar : ¬ "*".toList <+: key
  noBrackets : ¬ "[]".toList <+: key
  noMap : ¬ "map[".toList <+: key

/-- A base type of an interface, as it is looked up. -/
structure IsInterfaceKey (key : Text) : Prop where
  trimmed : trim key = key
  noBrackets : ¬ "[]".toList <:+ key

instance : Decidable (IsStructKey key) :=
  decidable_of_iff (trim key = key ∧ ¬ "*".toList <+: key ∧ ¬ "[]".toList <+: key ∧
      ¬ "map[".toList <+: key)
    ⟨fun ⟨htrim, hstar, hbrackets, hmap⟩ => ⟨htrim, hstar, hbrackets, hmap⟩,
      fun h => ⟨h.trimmed, h.noStar, h.noBrackets, h.noMap⟩⟩

instance : Decidable (IsInterfaceKey key) :=
  decidable_of_iff (trim key = key ∧ ¬ "[]".toList <:+ key)
    ⟨fun ⟨htrim, hbrackets⟩ => ⟨htrim, hbrackets⟩, fun h => ⟨h.trimmed, h.noBrackets⟩⟩

/-- A key with an entry stands for what the entry has. -/
theorem IsStructKey.interfaceValue (h : IsStructKey key)
    (hget : v.toInterface.get? key = some value) :
    (ofStruct v key).interfaceValue v = value := by
  have hknown : v.toInterface.contains key = true := Table.contains_eq_true_iff.mpr ⟨_, hget⟩
  rw [ofStruct_of_trimmed h.trimmed h.noStar h.noBrackets, structBase_of_not_map h.noMap,
    if_pos hknown, TypeExpr.interfaceValue, Table.getD, hget]
  rfl

theorem IsInterfaceKey.structValue (h : IsInterfaceKey key)
    (hget : v.toStruct.get? key = some value) :
    (ofInterface v key).structValue v = value := by
  have hknown : v.toStruct.contains key = true := Table.contains_eq_true_iff.mpr ⟨_, hget⟩
  rw [ofInterface_of_trimmed h.trimmed h.noBrackets, interfaceBase, if_pos hknown,
    TypeExpr.structValue, Table.getD, hget]
  rfl

/-! ## Only keys are looked up -/

/-- What stands behind the marks decides what is written in front of or
behind them. -/
theorem interfaceValue_foldr_wrap {e : TypeExpr} (marks : List Mark)
    (h : e.interfaceValue v = e.interfaceValue v') :
    (marks.foldr Mark.wrap e).interfaceValue v = (marks.foldr Mark.wrap e).interfaceValue v' := by
  induction marks with
  | nil => exact h
  | cons m marks ih =>
      cases m with
      | star => exact ih
      | brackets => exact congrArg (fun w : Json => Json.string (w.plain ++ "[]".toList)) ih

theorem structValue_arrays {e : TypeExpr} (k : Nat) (h : e.structValue v = e.structValue v') :
    (arrays k e).structValue v = (arrays k e).structValue v' := by
  induction k with
  | zero => exact h
  | succ k ih => exact congrArg (fun w : Json => Json.string ("[]".toList ++ w.plain)) ih

/-- Two vocabularies that agree on the base types of structs read and write
every type of a struct alike. -/
theorem ofStruct_congr
    (h : ∀ key, IsStructKey key → v.toInterface.get? key = v'.toInterface.get? key) (t : Text) :
    ofStruct v t = ofStruct v' t ∧
      (ofStruct v t).interfaceValue v = (ofStruct v' t).interfaceValue v' := by
  obtain ⟨s, rfl⟩ := StructSpelling.exists_toText_eq t
  have hbase : structBase v s.base = structBase v' s.base ∧
      (structBase v s.base).interfaceValue v = (structBase v s.base).interfaceValue v' := by
    by_cases hmap : "map[".toList <+: s.base
    · rw [structBase_of_map hmap, structBase_of_map hmap]
      exact ⟨rfl, rfl⟩
    · have hget := h s.base ⟨s.trimmed, s.noStar, s.noBrackets, hmap⟩
      rw [structBase_of_not_map hmap, structBase_of_not_map hmap, Table.contains,
        Table.contains, hget]
      refine ⟨rfl, ?_⟩
      split
      · rw [interfaceValue, interfaceValue, Table.getD, Table.getD, hget]
      · rfl
  rw [s.ofStruct_toText, s.ofStruct_toText, ← hbase.1]
  exact ⟨rfl, interfaceValue_foldr_wrap _ hbase.2⟩

/-- Two vocabularies that agree on the base types of interfaces read and
write every type of an interface alike. -/
theorem ofInterface_congr
    (h : ∀ key, IsInterfaceKey key → v.toStruct.get? key = v'.toStruct.get? key) (t : Text) :
    ofInterface v t = ofInterface v' t ∧
      (ofInterface v t).structValue v = (ofInterface v' t).structValue v' := by
  obtain ⟨s, rfl⟩ := InterfaceSpelling.exists_toText_eq t
  have hget := h s.base ⟨s.trimmed, s.noBrackets⟩
  have hbase : interfaceBase v s.base = interfaceBase v' s.base ∧
      (interfaceBase v s.base).structValue v = (interfaceBase v s.base).structValue v' := by
    rw [interfaceBase, interfaceBase, Table.contains, Table.contains, hget]
    refine ⟨rfl, ?_⟩
    split
    · rw [structValue, structValue, Table.getD, Table.getD, hget]
    · rfl
  rw [s.ofInterface_toText, s.ofInterface_toText, ← hbase.1]
  exact ⟨rfl, structValue_arrays _ hbase.2⟩

/-! ## Vocabularies of settings -/

/-- The overrides that take effect. -/
def structKeysOf (names : Table Json) : Table Json :=
  names.filter fun e => decide (IsStructKey e.1)

/-- The overrides that take effect. -/
def interfaceKeysOf (names : Table Json) : Table Json :=
  names.filter fun e => decide (IsInterfaceKey e.1)

theorem vocabularyOf_eq_ok_iff : Options.vocabularyOf s = .ok v ↔
    ∃ es es', s.structOverrides.entriesIfSet = .ok es ∧
      s.interfaceOverrides.entriesIfSet = .ok es' ∧
      v = Vocabulary.default.extend es.texts es'.texts := by
  rw [Options.vocabularyOf]
  cases s.structOverrides.entriesIfSet with
  | error cause => simp [bind, Except.bind]
  | ok es =>
      cases s.interfaceOverrides.entriesIfSet with
      | error cause => simp [bind, Except.bind]
      | ok es' => simp [bind, Except.bind, pure, Except.pure, eq_comm]

theorem texts_of_entriesIfSet_object {es : Entries}
    (h : (Json.object names).entriesIfSet = .ok es) : es.texts = names := by
  rw [Settings.entriesIfSet_object] at h
  cases h
  exact Entries.texts_ofTable names

/-- The entries of overrides stand in the extended table. -/
theorem get?_merge_of_mem {t : Table Json} (hdistinct : names.keys.Nodup)
    (hmem : (key, value) ∈ names) : (t.merge names).get? key = some value := by
  rw [Table.get?_merge hdistinct, Table.get?_of_mem hdistinct hmem]
  rfl

/-- Entries of other keys do not matter to the keys of one kind. -/
theorem get?_merge_filter {p : Text → Bool} (t : Table Json) (hdistinct : names.keys.Nodup)
    (hkey : p key = true) :
    (t.merge names).get? key = (t.merge (names.filter (p ·.1))).get? key := by
  have hkept : (Table.keys (names.filter (p ·.1))).Nodup :=
    hdistinct.sublist (List.Sublist.map _ List.filter_sublist)
  rw [Table.get?_merge hdistinct, Table.get?_merge hkept, Table.get?_filter hkey]

/-- **An override takes effect exactly if it is one of a base type.** An
override of a struct type that is trimmed and starts with neither a star
nor brackets nor `map[` is what an interface writes for that type, and an
override of an interface type that is trimmed and does not end in brackets
is what a struct writes for it. All other overrides might as well be
missing: no type is read or written differently with them. -/
theorem override_takes_effect (h : Options.vocabularyOf s = .ok v) :
    (∀ names : Table Json, s.structOverrides = .object names → names.keys.Nodup →
      (∀ key value, (key, value) ∈ names → IsStructKey key →
        (ofStruct v key).interfaceValue v = value) ∧
      ∃ v', Options.vocabularyOf { s with structOverrides := .object (structKeysOf names) }
          = .ok v' ∧
        ∀ t, ofStruct v t = ofStruct v' t ∧
          (ofStruct v t).interfaceValue v = (ofStruct v' t).interfaceValue v') ∧
    ∀ names : Table Json, s.interfaceOverrides = .object names → names.keys.Nodup →
      (∀ key value, (key, value) ∈ names → IsInterfaceKey key →
        (ofInterface v key).structValue v = value) ∧
      ∃ v', Options.vocabularyOf { s with interfaceOverrides := .object (interfaceKeysOf names) }
          = .ok v' ∧
        ∀ t, ofInterface v t = ofInterface v' t ∧
          (ofInterface v t).structValue v = (ofInterface v' t).structValue v' := by
  obtain ⟨es, es', hstruct, hinterface, rfl⟩ := vocabularyOf_eq_ok_iff.mp h
  constructor
  · intro names hnames hdistinct
    rw [hnames] at hstruct
    obtain rfl := texts_of_entriesIfSet_object hstruct
    refine ⟨fun key value hmem hkey => hkey.interfaceValue (get?_merge_of_mem hdistinct hmem),
      _, vocabularyOf_eq_ok_iff.mpr ⟨_, _, Settings.entriesIfSet_object _, hinterface, rfl⟩,
      ofStruct_congr fun key hkey => ?_⟩
    rw [Entries.texts_ofTable]
    exact get?_merge_filter (p := fun k => decide (IsStructKey k)) _ hdistinct
      (decide_eq_true hkey)
  · intro names hnames hdistinct
    rw [hnames] at hinterface
    obtain rfl := texts_of_entriesIfSet_object hinterface
    refine ⟨fun key value hmem hkey => hkey.structValue (get?_merge_of_mem hdistinct hmem),
      _, vocabularyOf_eq_ok_iff.mpr ⟨_, _, hstruct, Settings.entriesIfSet_object _, rfl⟩,
      ofInterface_congr fun key hkey => ?_⟩
    rw [Entries.texts_ofTable]
    exact get?_merge_filter (p := fun k => decide (IsInterfaceKey k)) _ hdistinct
      (decide_eq_true hkey)

/-- Overrides of base types in both tables, and one of a slice. -/
theorem override_takes_effect_uuid :
    let names : Table Json := [("uuid.UUID".toList, .string "string".toList),
      ("[]byte".toList, .string "string".toList)]
    let names' : Table Json := [("Date".toList, .string "time.Time".toList)]
    let s : Settings := { structOverrides := .object names, interfaceOverrides := .object names' }
    ∃ v, Options.vocabularyOf s = .ok v ∧ names.keys.Nodup ∧ names'.keys.Nodup ∧
      IsStructKey "uuid.UUID".toList ∧ IsInterfaceKey "Date".toList ∧
      (ofStruct v "uuid.UUID".toList).interfaceValue v = .string "string".toList ∧
      (ofInterface v "Date".toList).structValue v = .string "time.Time".toList ∧
      ∃ v', Options.vocabularyOf { s with structOverrides := .object (structKeysOf names) }
          = .ok v' ∧
        (ofStruct v "[]byte".toList).interfaceValue v
          = (ofStruct v' "[]byte".toList).interfaceValue v' := by
  intro names names' s
  have hnames : names.keys.Nodup := by decide
  have hnames' : names'.keys.Nodup := by decide
  have hstruct : IsStructKey "uuid.UUID".toList := by decide
  have hinterface : IsInterfaceKey "Date".toList := by decide
  have hvocabulary : Options.vocabularyOf s = .ok (Vocabulary.default.extend names names') := rfl
  obtain ⟨hstructs, hinterfaces⟩ := override_takes_effect hvocabulary
  obtain ⟨hvalue, v', hv', hsame⟩ := hstructs names rfl hnames
  have hvalue' := (hinterfaces names' rfl hnames').1
  exact ⟨_, hvocabulary, hnames, hnames', hstruct, hinterface,
    hvalue _ _ (by simp [names]) hstruct, hvalue' _ _ (by simp [names']) hinterface, v', hv',
    (hsame _).2⟩

/-- **An override of a slice is accepted and has no effect**: an interface
writes an array where the override has a base type. -/
theorem override_out_of_reach :
    let key : Text := "[]byte".toList
    let s : Settings := { structOverrides := .object [(key, .string "string".toList)] }
    s.problems [] = .ok [] ∧ key ≠ [] ∧ (∀ c ∈ key, isBlank c = false) ∧
      (∀ c ∈ key, isStructTypeChar c = true) ∧
      ∃ v, Options.vocabularyOf s = .ok v ∧
        (ofStruct v key).interfaceValue v ≠ .string "string".toList := by
  intro key s
  have hblank : key.all (!isBlank ·) = true := by decide
  refine ⟨rfl, by decide, fun c hc => ?_, List.all_eq_true.mp (by decide), _, rfl, fun hvalue => ?_⟩
  · simpa using List.all_eq_true.mp hblank c hc
  have htext := congrArg Json.plain hvalue
  exact absurd htext (by decide)

end WireTypes.TypeExpr
