import Mathlib.Data.List.Nodup
import WireTypes.Table

/-!
# Table — Keys, insertions and merges

What an insertion does to a table it does key by key, so a merge is
described by its lookups (`get?_merge`), by the keys of one kind
(`filter_merge`), and by its order where all keys are new
(`merge_eq_append`).
-/

namespace WireTypes.Table

variable {α : Type} {t t' : Table α} {key : Text} {value : α} {p : Text → Bool}

/-! ## Distinct keys -/

/-- Inserting keeps the keys distinct. -/
theorem nodup_keys_insert (h : t.keys.Nodup) : (t.insert key value).keys.Nodup := by
  induction t with
  | nil => simp [insert, keys]
  | cons head rest ih =>
      obtain ⟨k, v⟩ := head
      simp only [keys, List.map_cons, List.nodup_cons] at h
      rw [insert]
      split
      · simpa [keys] using h
      · rename_i hkey
        have hrest : (insert rest key value).keys.Nodup := ih h.2
        simp only [keys, List.map_cons, List.nodup_cons]
        refine ⟨fun hmem => ?_, hrest⟩
        obtain ⟨pair, hpair, hname⟩ := List.mem_map.mp hmem
        rcases mem_of_mem_insert hpair with rfl | hold
        · exact hkey hname.symm
        · exact h.1 (hname ▸ List.mem_map_of_mem hold)

theorem nodup_keys_merge (h : t.keys.Nodup) : (t.merge t').keys.Nodup := by
  induction t' generalizing t with
  | nil => exact h
  | cons head rest ih => exact ih (nodup_keys_insert h)

/-- Merging brings in pairs of the second table and no others. -/
theorem mem_of_mem_merge {pair : Text × α} (h : pair ∈ t.merge t') : pair ∈ t ∨ pair ∈ t' := by
  induction t' generalizing t with
  | nil => exact Or.inl h
  | cons head rest ih =>
      rcases ih (t := t.insert head.1 head.2) h with hinsert | hrest
      · rcases mem_of_mem_insert hinsert with rfl | hold
        · exact Or.inr List.mem_cons_self
        · exact Or.inl hold
      · exact Or.inr (List.mem_cons_of_mem _ hrest)

/-- Of distinct keys each has the value it stands with. -/
theorem get?_of_mem (h : t.keys.Nodup) (hmem : (key, value) ∈ t) : t.get? key = some value := by
  induction t with
  | nil => cases hmem
  | cons head rest ih =>
      obtain ⟨k, v⟩ := head
      simp only [keys, List.map_cons, List.nodup_cons] at h
      rw [get?]
      rcases List.mem_cons.mp hmem with heq | hrest
      · obtain ⟨rfl, rfl⟩ := Prod.mk.inj heq
        rw [if_pos rfl]
      · have hne : k ≠ key := fun heq => h.1 (heq ▸ List.mem_map_of_mem hrest)
        rw [if_neg hne]
        exact ih h.2 hrest

theorem get?_eq_none_iff : t.get? key = none ↔ key ∉ t.keys := by
  rw [mem_keys_iff, contains, Bool.not_eq_true, Option.isSome_eq_false_iff,
    Option.isNone_iff_eq_none]

theorem getD_of_not_contains (h : ¬ t.contains key = true) : t.getD key value = value := by
  rw [← mem_keys_iff, ← get?_eq_none_iff] at h
  rw [getD, h]
  rfl

/-! ## Lookups in a merge -/

/-- A merge has the values of the second table, and at other keys those of
the first. -/
theorem get?_merge (h : t'.keys.Nodup) (key : Text) :
    (t.merge t').get? key = (t'.get? key).or (t.get? key) := by
  induction t' generalizing t with
  | nil => rfl
  | cons head rest ih =>
      obtain ⟨k, v⟩ := head
      simp only [keys, List.map_cons, List.nodup_cons] at h
      have hstep : (t.merge ((k, v) :: rest)) = (t.insert k v).merge rest := rfl
      rw [hstep, ih h.2, get?_insert, get?]
      by_cases hk : k = key
      · subst hk
        have hnone : Table.get? rest k = none := get?_eq_none_iff.mpr h.1
        simp [hnone]
      · simp [hk]

/-! ## Keys of one kind -/

theorem get?_filter (hkey : p key = true) (t : Table α) :
    Table.get? (t.filter (p ·.1)) key = t.get? key := by
  induction t with
  | nil => rfl
  | cons head rest ih =>
      obtain ⟨k, v⟩ := head
      rw [get?, List.filter_cons]
      by_cases hk : k = key
      · subst hk
        simp [hkey, get?]
      · cases h : p k <;> simp [get?, hk, ih]

theorem filter_insert (t : Table α) (key : Text) (value : α) :
    (t.insert key value).filter (p ·.1)
      = if p key then Table.insert (t.filter (p ·.1)) key value else t.filter (p ·.1) := by
  induction t with
  | nil => cases h : p key <;> simp [insert, h]
  | cons head rest ih =>
      obtain ⟨k, v⟩ := head
      rw [insert]
      by_cases hk : k = key
      · subst hk
        cases h : p k <;> simp [insert, h]
      · rw [if_neg hk, List.filter_cons, ih, List.filter_cons]
        cases hkey : p key <;> cases hother : p k <;> simp [insert, hk]

/-- The keys of one kind are merged among themselves. -/
theorem filter_merge (t t' : Table α) :
    (t.merge t').filter (p ·.1) = Table.merge (t.filter (p ·.1)) (t'.filter (p ·.1)) := by
  induction t' generalizing t with
  | nil => rfl
  | cons head rest ih =>
      obtain ⟨k, v⟩ := head
      have hstep : (t.merge ((k, v) :: rest)) = (t.insert k v).merge rest := rfl
      rw [hstep, ih, filter_insert, List.filter_cons]
      cases p k <;> simp [merge]

/-! ## New keys -/

theorem insert_eq_append (h : key ∉ t.keys) : t.insert key value = t ++ [(key, value)] := by
  induction t with
  | nil => rfl
  | cons head rest ih =>
      obtain ⟨k, v⟩ := head
      simp only [keys, List.map_cons, List.mem_cons, not_or] at h
      rw [insert, if_neg (Ne.symm h.1), ih h.2, List.cons_append]

/-- Distinct keys that are new come behind those that are there. -/
theorem merge_eq_append (h : t'.keys.Nodup) (hnew : ∀ key ∈ t'.keys, key ∉ t.keys) :
    t.merge t' = t ++ t' := by
  induction t' generalizing t with
  | nil => exact (List.append_nil t).symm
  | cons head rest ih =>
      obtain ⟨k, v⟩ := head
      simp only [keys, List.map_cons, List.nodup_cons] at h
      have hk : k ∉ t.keys := hnew k (by simp [keys])
      have hstep : (t.merge ((k, v) :: rest)) = (t.insert k v).merge rest := rfl
      rw [hstep, insert_eq_append hk, ih h.2 fun key hkey hmem => ?_, List.append_assoc,
        List.singleton_append]
      have hmem' : key ∈ t.keys ∨ key = k := by simpa [keys] using hmem
      rcases hmem' with hold | rfl
      · exact hnew key (by simpa [keys] using Or.inr hkey) hold
      · exact h.1 hkey

/-- Pairs with distinct keys are a table as they stand. -/
theorem ofPairs_of_nodup (h : t.keys.Nodup) : ofPairs t = t :=
  (merge_eq_append h (by simp [keys])).trans (List.nil_append t)

end WireTypes.Table
