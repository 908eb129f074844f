import WireTypes.Proofs.Table.Merging
import WireTypes.Proofs.Text.Runs
import WireTypes.TypeExpr

/-!
# Types — One step of reading

A type of a struct is read from its start and a type of an interface from
its end. Each step takes off a blank or a mark. When no mark is left in
front, or no brackets behind, the rest without the blanks around it is the
base type, whatever the vocabulary is.
-/

namespace WireTypes.TypeExpr

open Text

variable {v : Vocabulary} {t base gap : Text} {c : Char}

/-! ## Base types -/

theorem structBase_of_map (h : "map[".toList <+: base) : structBase v base = mapping base := by
  rw [structBase, if_pos (List.isPrefixOf_iff_prefix.mpr h)]

theorem structBase_of_not_map (h : ¬ "map[".toList <+: base) :
    structBase v base = if v.toInterface.contains base then known base else named base := by
  rw [structBase, if_neg (List.isPrefixOf_iff_prefix.not.mpr h)]

theorem isNullable_structBase (v : Vocabulary) (base : Text) :
    (structBase v base).isNullable = false := by
  rw [structBase]
  split
  · rfl
  · split <;> rfl

/-- A base type is looked up, unless it is a map. -/
theorem toInterface_structBase (v : Vocabulary) (base : Text) :
    (structBase v base).toInterface v =
      if "map[".toList <+: base then base
      else (v.toInterface.getD base (.string base)).plain := by
  split
  · rename_i hmap
    rw [structBase_of_map hmap]
    rfl
  · rename_i hmap
    rw [structBase_of_not_map hmap]
    split
    · rfl
    · rename_i hunknown
      rw [Table.getD_of_not_contains hunknown]
      rfl

theorem toStruct_interfaceBase (v : Vocabulary) (base : Text) :
    (interfaceBase v base).toStruct v = (v.toStruct.getD base (.string base)).plain := by
  rw [interfaceBase]
  split
  · rfl
  · rename_i hunknown
    rw [Table.getD_of_not_contains hunknown]
    rfl

/-! ## From the start of a type of a struct -/

theorem ofStruct_cons_blank (hc : isBlank c = true) (t : Text) :
    ofStruct v (c :: t) = ofStruct v t := by
  rw [ofStruct, if_pos hc]
  · rintro rfl
    exact absurd hc (by decide)
  · rintro rest rfl
    exact absurd hc (by decide)

/-- Blanks in front of a type of a struct do not count. -/
theorem ofStruct_gap_append (hgap : ∀ c ∈ gap, isBlank c = true) (t : Text) :
    ofStruct v (gap ++ t) = ofStruct v t := by
  induction gap with
  | nil => rfl
  | cons c gap ih =>
      rw [List.cons_append, ofStruct_cons_blank (hgap c (by simp)),
        ih fun d hd => hgap d (by simp [hd])]

/-- A trimmed text that no mark stands in front of is a base type, and
blanks behind it do not count. -/
theorem ofStruct_append_gap (htrim : trim base = base) (hstar : ¬ "*".toList <+: base)
    (hbrackets : ¬ "[]".toList <+: base) (hgap : ∀ c ∈ gap, isBlank c = true) :
    ofStruct v (base ++ gap) = structBase v base := by
  cases base with
  | nil =>
      have hread : ofStruct v (gap ++ []) = ofStruct v [] := ofStruct_gap_append hgap []
      rwa [List.append_nil] at hread
  | cons c rest =>
      have hc : isBlank c = false := startsOutside_cons.mp (htrim ▸ startsOutside_trim (c :: rest))
      have hend : EndsOutside isBlank (c :: rest) := htrim ▸ endsOutside_trim (c :: rest)
      rw [List.cons_append, ofStruct, if_neg (by simp [hc]), ← List.cons_append,
        trimEnd_append hgap, trimEnd_of_endsOutside hend]
      · rintro rfl
        exact hstar ⟨rest, rfl⟩
      · -- the second bracket cannot come from the blanks
        rintro more rfl hmore
        cases rest with
        | nil =>
            have hbracket : isBlank ']' = true := hgap ']' (by simp at hmore; simp [hmore])
            exact absurd hbracket (by decide)
        | cons d rest =>
            obtain ⟨rfl, -⟩ := List.cons.inj hmore
            exact hbrackets ⟨rest, rfl⟩

theorem ofStruct_of_trimmed (htrim : trim base = base) (hstar : ¬ "*".toList <+: base)
    (hbrackets : ¬ "[]".toList <+: base) : ofStruct v base = structBase v base := by
  have hread : ofStruct v (base ++ []) = structBase v base :=
    ofStruct_append_gap htrim hstar hbrackets (by simp)
  rwa [List.append_nil] at hread

/-! ## From the end of a type of an interface -/

theorem ofInterfaceReversed_gap_append (hgap : ∀ c ∈ gap, isBlank c = true) (t : Text) :
    ofInterfaceReversed v (gap ++ t) = ofInterfaceReversed v t := by
  induction gap with
  | nil => rfl
  | cons c gap ih =>
      have hc : isBlank c = true := hgap c (by simp)
      rw [List.cons_append, ofInterfaceReversed, if_pos hc, ih fun d hd => hgap d (by simp [hd])]
      rintro rest rfl
      exact absurd hc (by decide)

/-- Blanks behind a type of an interface do not count. -/
theorem ofInterface_append_gap (hgap : ∀ c ∈ gap, isBlank c = true) (t : Text) :
    ofInterface v (t ++ gap) = ofInterface v t := by
  rw [ofInterface, List.reverse_append, ofInterfaceReversed_gap_append (by simpa using hgap),
    ofInterface]

/-- Brackets behind a type of an interface make an array. -/
theorem ofInterface_append_brackets (t : Text) :
    ofInterface v (t ++ "[]".toList) = array (ofInterface v t) := by
  have hreverse : (t ++ "[]".toList).reverse = ']' :: '[' :: t.reverse := by simp
  rw [ofInterface, hreverse, ofInterfaceReversed, ofInterface]

/-- A trimmed text that no brackets stand behind is a base type, and blanks
in front of it do not count. -/
theorem ofInterface_gap_append (htrim : trim base = base) (hbrackets : ¬ "[]".toList <:+ base)
    (hgap : ∀ c ∈ gap, isBlank c = true) :
    ofInterface v (gap ++ base) = interfaceBase v base := by
  have hstart : StartsOutside isBlank base := htrim ▸ startsOutside_trim base
  have hend : EndsOutside isBlank base := htrim ▸ endsOutside_trim base
  rw [ofInterface, List.reverse_append]
  cases hreverse : base.reverse with
  | nil =>
      obtain rfl := List.reverse_eq_nil_iff.mp hreverse
      have hread : ofInterfaceReversed v (gap.reverse ++ []) = ofInterfaceReversed v [] :=
        ofInterfaceReversed_gap_append (by simpa using hgap) []
      rwa [List.append_nil] at hread
  | cons c rest =>
      have hbase : base = rest.reverse ++ [c] := by
        rw [← List.reverse_reverse base, hreverse, List.reverse_cons]
      have hc : isBlank c = false := endsOutside_concat.mp (hbase ▸ hend)
      have hwhole : (c :: (rest ++ gap.reverse)).reverse = gap ++ base := by simp [hbase]
      rw [List.cons_append, ofInterfaceReversed, if_neg (by simp [hc]), hwhole,
        trimStart_append hgap, trimStart_of_startsOutside hstart]
      -- the opening bracket cannot come from the blanks
      rintro more rfl hmore
      cases rest with
      | nil =>
          have hbracket : isBlank '[' = true := hgap '[' (by simp at hmore; simp [hmore])
          exact absurd hbracket (by decide)
      | cons d rest =>
          obtain ⟨rfl, -⟩ := List.cons.inj hmore
          exact hbrackets ⟨rest.reverse, by simp [hbase]⟩

theorem ofInterface_of_trimmed (htrim : trim base = base) (hbrackets : ¬ "[]".toList <:+ base) :
    ofInterface v base = interfaceBase v base := by
  have hread : ofInterface v ([] ++ base) = interfaceBase v base :=
    ofInterface_gap_append htrim hbrackets (by simp)
  exact hread

end WireTypes.TypeExpr
