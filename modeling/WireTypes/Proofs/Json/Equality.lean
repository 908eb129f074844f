import Mathlib.Data.List.Perm.Subperm
import WireTypes.Proofs.Json.Indented
import WireTypes.Json.Entries

/-!
# JSON — Equal values and their parts

Values that can be stored equal themselves (`Storable.same_self`). Equal
objects have the same keys, so every part of one value has an equal part in
the other (`exists_member_of_same`), and equal values are equally deep: no
value equals one that it is a part of (`Storable.depth_le_of_same`).

The second half is about entries: those of a value are parts of it
(`Storable.entries_parts`), and merging keeps their keys distinct.
-/

namespace WireTypes

open Text

namespace Json

variable {x y : Json} {xs ys items : List Json} {ms ns members : Table Json} {key : Text}

/-! ## Equality by parts -/

theorem sameScalar_list (x : Json) (ys : List Json) : x.sameScalar (.list ys) = false := by
  cases x with
  | float value => cases h : value.toRat? <;> simp [sameScalar, toRat?, h]
  | _ => rfl

theorem sameScalar_object (x : Json) (ns : Table Json) : x.sameScalar (.object ns) = false := by
  cases x with
  | float value => cases h : value.toRat? <;> simp [sameScalar, toRat?, h]
  | _ => rfl

theorem exists_of_same_list (h : x.same (.list ys) = true) :
    ∃ xs, x = .list xs ∧ sameItems xs ys = true := by
  cases x with
  | list xs => exact ⟨xs, rfl, by simpa only [same] using h⟩
  | _ => simp [same, sameScalar_list] at h

theorem exists_of_same_object (h : x.same (.object ns) = true) :
    ∃ ms, x = .object ms ∧ ms.length = ns.length ∧ sameMembers ms ns = true := by
  cases x with
  | object ms => exact ⟨ms, rfl, by simpa [same] using h⟩
  | _ => simp [same, sameScalar_object] at h

theorem sameItems_self (h : ∀ x ∈ xs, x.same x = true) : sameItems xs xs = true := by
  induction xs with
  | nil => simp [sameItems]
  | cons x xs ih =>
      rw [sameItems, h x (by simp), ih fun x hx => h x (by simp [hx])]
      rfl

theorem exists_item_of_sameItems (h : sameItems xs ys = true) (hy : y ∈ ys) :
    ∃ x ∈ xs, x.same y = true := by
  induction ys generalizing xs with
  | nil => cases hy
  | cons y' ys ih =>
      cases xs with
      | nil => simp [sameItems] at h
      | cons x xs =>
          simp only [sameItems, Bool.and_eq_true] at h
          rcases List.mem_cons.mp hy with rfl | hrest
          · exact ⟨x, by simp, h.1⟩
          · obtain ⟨x', hx', hsame⟩ := ih h.2 hrest
            exact ⟨x', by simp [hx'], hsame⟩

theorem sameMembers_iff : sameMembers ms ns = true ↔
    ∀ m ∈ ms, ∃ y, Table.get? ns m.1 = some y ∧ m.2.same y = true := by
  induction ms with
  | nil => simp [sameMembers]
  | cons m ms ih =>
      obtain ⟨k, x⟩ := m
      rw [sameMembers, Bool.and_eq_true, ih, List.forall_mem_cons]
      cases Table.get? ns k <;> simp

/-- Each member of the second of two equal objects has an equal one in the
first: there are as many keys, and distinct ones. -/
theorem exists_member_of_same (hms : ms.keys.Nodup) (hns : ns.keys.Nodup)
    (hlength : ms.length = ns.length) (h : sameMembers ms ns = true) (hy : (key, y) ∈ ns) :
    ∃ x, (key, x) ∈ ms ∧ x.same y = true := by
  have hsame := sameMembers_iff.mp h
  have hsub : ms.keys ⊆ ns.keys := by
    intro k hk
    obtain ⟨m, hm, rfl⟩ := List.mem_map.mp hk
    obtain ⟨y, hy, -⟩ := hsame m hm
    exact List.mem_map.mpr ⟨_, Table.mem_of_get? hy, rfl⟩
  have hperm : ms.keys.Perm ns.keys :=
    (List.subperm_of_subset hms hsub).perm_of_length_le (by simp [Table.keys, hlength])
  obtain ⟨⟨k, x⟩, hx, rfl⟩ := List.mem_map.mp (hperm.mem_iff.mpr (List.mem_map_of_mem hy))
  obtain ⟨y', hy', hxy⟩ := hsame _ hx
  obtain rfl : y = y' := Option.some.inj ((Table.get?_of_mem hns hy).symm.trans hy')
  exact ⟨x, hx, hxy⟩

/-- **What can be stored equals itself.** -/
theorem Storable.same_self (h : Storable x) : x.same x = true := by
  induction h with
  | null => rfl
  | bool b => cases b <;> rfl
  | whole short => simp [same, sameScalar, toRat?]
  | string t => simp [same, sameScalar, toRat?]
  | list each ih =>
      rw [same]
      exact sameItems_self ih
  | object distinct each ih =>
      simp only [same, beq_self_eq_true, Bool.true_and]
      exact sameMembers_iff.mpr fun m hm => ⟨m.2, Table.get?_of_mem distinct hm, ih m hm⟩

/-! ## Depth -/

mutual

/-- How many lists and objects are inside each other. -/
def depth : Json → Nat
  | list items => depthItems items + 1
  | object members => depthMembers members + 1
  | _ => 0

/-- The depth of the deepest item. -/
def depthItems : List Json → Nat
  | [] => 0
  | x :: xs => max x.depth (depthItems xs)

/-- The depth of the deepest member. -/
def depthMembers : List (Text × Json) → Nat
  | [] => 0
  | (_, x) :: rest => max x.depth (depthMembers rest)

end

theorem depthItems_le_iff {n : Nat} : depthItems items ≤ n ↔ ∀ x ∈ items, x.depth ≤ n := by
  induction items with
  | nil => simp [depthItems]
  | cons x xs ih => rw [depthItems, Nat.max_le, ih, List.forall_mem_cons]

theorem depthMembers_le_iff {n : Nat} :
    depthMembers members ≤ n ↔ ∀ m ∈ members, m.2.depth ≤ n := by
  induction members with
  | nil => simp [depthMembers]
  | cons m ms ih =>
      obtain ⟨k, x⟩ := m
      rw [depthMembers, Nat.max_le, ih, List.forall_mem_cons]

theorem depth_lt_list (h : x ∈ items) : x.depth < (list items).depth := by
  rw [depth]
  exact Nat.lt_succ_of_le (depthItems_le_iff.mp (Nat.le_refl _) x h)

theorem depth_lt_object (h : (key, x) ∈ members) : x.depth < (object members).depth := by
  rw [depth]
  exact Nat.lt_succ_of_le (depthMembers_le_iff.mp (Nat.le_refl _) (key, x) h)

/-- **No value equals one that goes deeper.** Every part of the second has an
equal part in the first. -/
theorem Storable.depth_le_of_same (hy : Storable y) (hx : Storable x) (h : x.same y = true) :
    y.depth ≤ x.depth := by
  induction hy generalizing x with
  | list each ih =>
      obtain ⟨xs, rfl, hsame⟩ := exists_of_same_list h
      cases hx with
      | list hxs =>
          rw [depth, depth, Nat.add_le_add_iff_right, depthItems_le_iff]
          intro y hy
          obtain ⟨x, hx, hxy⟩ := exists_item_of_sameItems hsame hy
          exact (ih y hy (hxs x hx) hxy).trans (depthItems_le_iff.mp (Nat.le_refl _) x hx)
  | object distinct each ih =>
      obtain ⟨ms, rfl, hlength, hsame⟩ := exists_of_same_object h
      cases hx with
      | object hms hxs =>
          rw [depth, depth, Nat.add_le_add_iff_right, depthMembers_le_iff]
          intro m hm
          obtain ⟨x, hx, hxy⟩ := exists_member_of_same hms distinct hlength hsame hm
          exact (ih m hm (hxs _ hx) hxy).trans (depthMembers_le_iff.mp (Nat.le_refl _) _ hx)
  | _ => exact Nat.zero_le _

end Json

/-! ## Entries -/

namespace Entries

variable {es others : Entries} {k key value : Json} {pair : Json × Json} {t : Table Json}

/-- The keys in their order. -/
def keys (es : Entries) : List Json := es.map (·.1)

/-- No key equals an earlier one. -/
def Distinct (es : Entries) : Prop := es.keys.Pairwise fun k key => k.sameScalar key = false

/-- What is in the entries after an insertion: what was there, or the new
value, at its own key or at an equal one. -/
theorem mem_of_mem_insert (h : pair ∈ es.insert key value) :
    pair ∈ es ∨ pair.2 = value ∧ (pair.1 = key ∨ pair.1.sameScalar key = true) := by
  induction es with
  | nil =>
      obtain rfl := List.mem_singleton.mp h
      exact Or.inr ⟨rfl, Or.inl rfl⟩
  | cons head rest ih =>
      obtain ⟨k, v⟩ := head
      rw [insert] at h
      split at h
      · rename_i hsame
        rcases List.mem_cons.mp h with rfl | hrest
        · exact Or.inr ⟨rfl, Or.inr hsame⟩
        · exact Or.inl (List.mem_cons_of_mem _ hrest)
      · rcases List.mem_cons.mp h with rfl | hrest
        · exact Or.inl List.mem_cons_self
        · exact (ih hrest).imp_left (List.mem_cons_of_mem _)

theorem mem_of_mem_merge (h : pair ∈ es.merge others) : pair ∈ es ∨
    ∃ p ∈ others, pair.2 = p.2 ∧ (pair.1 = p.1 ∨ pair.1.sameScalar p.1 = true) := by
  induction others generalizing es with
  | nil => exact Or.inl h
  | cons p others ih =>
      have hmerge : pair ∈ (es.insert p.1 p.2).merge others := h
      rcases ih hmerge with hinsert | ⟨p', hp', hpair⟩
      · exact (mem_of_mem_insert hinsert).imp_right fun hpair => ⟨p, by simp, hpair⟩
      · exact Or.inr ⟨p', by simp [hp'], hpair⟩

theorem keys_insert (es : Entries) (key value : Json) : (es.insert key value).keys =
    if es.keys.any (·.sameScalar key) then es.keys else es.keys ++ [key] := by
  induction es with
  | nil => rfl
  | cons head rest ih =>
      obtain ⟨k, v⟩ := head
      have hcons : ∀ es : Entries, keys ((k, v) :: es) = k :: es.keys := fun _ => rfl
      cases hsame : k.sameScalar key with
      | true => simp [insert, keys, hsame]
      | false =>
          rw [insert, hsame, if_neg Bool.false_ne_true, hcons, hcons, ih, List.any_cons, hsame,
            Bool.false_or]
          cases (keys rest).any (·.sameScalar key) <;> rfl

theorem Distinct.insert (h : es.Distinct) : (es.insert key value).Distinct := by
  rw [Distinct, keys_insert]
  split
  · exact h
  · rename_i hnew
    refine List.pairwise_append.mpr ⟨h, List.pairwise_singleton _ _, fun k hk key' hkey => ?_⟩
    obtain rfl := List.mem_singleton.mp hkey
    rw [List.any_eq_true, not_exists] at hnew
    exact Bool.eq_false_iff.mpr fun hsame => hnew k ⟨hk, hsame⟩

/-- Merging keeps the keys distinct. -/
theorem Distinct.merge (h : es.Distinct) : (es.merge others).Distinct := by
  induction others generalizing es with
  | nil => exact h
  | cons p others ih => exact ih h.insert

theorem distinct_ofTable (h : t.keys.Nodup) : (ofTable t).Distinct := by
  have hkeys : (ofTable t).keys = t.keys.map Json.string := by simp [ofTable, keys, Table.keys]
  rw [Distinct, hkeys, List.pairwise_map]
  exact h.imp fun hne => beq_false_of_ne hne

/-- Entries whose keys are all texts are those of a table. -/
theorem eq_ofTable_texts (h : es.allTexts = true) : es = ofTable es.texts := by
  induction es with
  | nil => rfl
  | cons head rest ih =>
      have hle : (texts rest).length ≤ rest.length := List.length_filterMap_le _ _
      obtain ⟨k, v⟩ := head
      cases k with
      | string t =>
          have htexts : texts ((.string t, v) :: rest) = (t, v) :: texts rest := rfl
          have hrest : allTexts rest = true := by simpa [allTexts, htexts] using h
          rw [htexts, ofTable, List.map_cons, ← ofTable, ← ih hrest]
      | _ =>
          have hlength : (texts rest).length = rest.length + 1 := by simpa [allTexts, texts] using h
          omega

theorem nodup_keys_of_distinct (h : (ofTable t).Distinct) : t.keys.Nodup := by
  have hkeys : (ofTable t).keys = t.keys.map Json.string := by simp [ofTable, keys, Table.keys]
  rw [Distinct, hkeys, List.pairwise_map] at h
  exact h.imp fun hne => ne_of_beq_false hne

end Entries

namespace Json

variable {x y item : Json} {items : List Json} {es : Entries} {pair : Json × Json}

/-- An entry of two parts has its value from inside the item, or a text. -/
theorem Storable.of_entry (h : Storable item) (hentry : item.entry = .ok pair) :
    Storable pair.2 ∧ pair.2.depth ≤ item.depth := by
  rw [entry.eq_def] at hentry
  split at hentry
  · rename_i k v
    split at hentry <;> cases hentry
    cases h with
    | list each => exact ⟨each v (by simp), (depth_lt_list (by simp)).le⟩
  · cases hentry
    exact ⟨.string _, Nat.zero_le _⟩
  · cases hentry
    exact ⟨.string _, Nat.zero_le _⟩
  all_goals cases hentry

theorem exists_of_mem_mapM_entry {pairs : List (Json × Json)} (h : items.mapM entry = .ok pairs)
    (hpair : pair ∈ pairs) : ∃ item ∈ items, item.entry = .ok pair := by
  induction items generalizing pairs with
  | nil =>
      cases h
      cases hpair
  | cons item items ih =>
      rw [List.mapM_cons] at h
      cases hentry : item.entry with
      | error cause =>
          rw [hentry] at h
          cases h
      | ok first =>
          rw [hentry] at h
          cases hrest : items.mapM entry with
          | error cause =>
              rw [hrest] at h
              cases h
          | ok rest =>
              rw [hrest] at h
              cases h
              rcases List.mem_cons.mp hpair with rfl | htail
              · exact ⟨item, by simp, hentry⟩
              · obtain ⟨found, hfound, hpairs⟩ := ih hrest htail
                exact ⟨found, by simp [hfound], hpairs⟩

/-- **Entries are parts of their value.** They can be stored with it and do
not go as deep, and their keys are distinct. -/
theorem Storable.entries_parts (h : Storable x) (hentries : x.entries = .ok es) :
    es.Distinct ∧ ∀ pair ∈ es, Storable pair.2 ∧ pair.2.depth < x.depth := by
  rw [entries.eq_def] at hentries
  split at hentries
  · rename_i members
    cases hentries
    cases h with
    | object distinct each =>
        refine ⟨Entries.distinct_ofTable distinct, fun pair hpair => ?_⟩
        obtain ⟨m, hm, rfl⟩ := List.mem_map.mp hpair
        exact ⟨each m hm, depth_lt_object hm⟩
  · rename_i items
    cases hpairs : items.mapM entry with
    | error cause =>
        rw [hpairs] at hentries
        cases hentries
    | ok pairs =>
        rw [hpairs] at hentries
        cases hentries
        cases h with
        | list each =>
            refine ⟨Entries.Distinct.merge List.Pairwise.nil, fun pair hpair => ?_⟩
            rcases Entries.mem_of_mem_merge hpair with hnil | ⟨p, hp, hvalue, -⟩
            · cases hnil
            · obtain ⟨item, hitem, hentry⟩ := exists_of_mem_mapM_entry hpairs hp
              obtain ⟨hstorable, hdepth⟩ := (each item hitem).of_entry hentry
              rw [hvalue]
              exact ⟨hstorable, hdepth.trans_lt (depth_lt_list hitem)⟩
  · cases hentries
    exact ⟨List.Pairwise.nil, fun pair hpair => nomatch hpair⟩
  all_goals cases hentries

end Json

end WireTypes
