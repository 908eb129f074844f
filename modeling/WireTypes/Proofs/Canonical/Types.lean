import WireTypes.Proofs.Canonical.Basic
import WireTypes.Proofs.TypeExpr.Reading
import WireTypes.Conversion.Emission

/-!
# Canonical — Types

The type of a canonical member is read from either spelling and written
in the other one. Brackets stand in front of a base type in a struct and
behind it in an interface, so each of the four functions has its own law
for them; base types go through the default tables.
-/

namespace WireTypes

open Text

namespace Canonical

variable {v : Vocabulary} {k : Nat} {t : Text}

/-! ## Characters of a base type -/

theorem isStructTypeChar_of_isBaseChar {c : Char} (h : isBaseChar c = true) :
    isStructTypeChar c = true := by
  rw [isBaseChar, Bool.or_eq_true, beq_iff_eq] at h
  rcases h with h | rfl
  · exact isStructTypeChar_of_isWord h
  · decide

theorem isBlank_of_isBaseChar {c : Char} (h : isBaseChar c = true) : isBlank c = false :=
  isBlank_of_isStructTypeChar (isStructTypeChar_of_isBaseChar h)

namespace Base

theorem inStruct_ne_nil (b : Base) : b.inStruct ≠ [] := by
  cases b with
  | foreign name => exact name.ne_nil
  | _ => decide

theorem inInterface_ne_nil (b : Base) : b.inInterface ≠ [] := by
  cases b with
  | foreign name => exact name.ne_nil
  | _ => decide

theorem inStruct_chars (b : Base) : ∀ c ∈ b.inStruct, isBaseChar c = true := by
  cases b with
  | foreign name => exact name.chars
  | _ => exact List.all_eq_true.mp (by decide)

theorem inInterface_chars (b : Base) : ∀ c ∈ b.inInterface, isBaseChar c = true := by
  cases b with
  | foreign name => exact name.chars
  | _ => exact List.all_eq_true.mp (by decide)

theorem isNull_inInterface (b : Base) : Union.isNull b.inInterface = false := by
  cases b with
  | foreign name => exact name.notNull
  | _ => decide

/-- The base type as it is read from a struct. -/
def structExpr : Base → TypeExpr
  | foreign name => .named name.text
  | b => .known b.inStruct

/-- The base type as it is read from an interface. -/
def interfaceExpr : Base → TypeExpr
  | foreign name => .named name.text
  | b => .known b.inInterface

theorem toInterface_structExpr (b : Base) :
    b.structExpr.toInterface .default = b.inInterface := by
  cases b <;> rfl

theorem toStruct_interfaceExpr (b : Base) : b.interfaceExpr.toStruct .default = b.inStruct := by
  cases b <;> rfl

/-- A name without an entry is read as itself. -/
theorem structBase_of_not_contains (hmap : "map[".toList.isPrefixOf t = false)
    (h : v.toInterface.contains t = false) : TypeExpr.structBase v t = .named t := by
  rw [TypeExpr.structBase, hmap, h]
  rfl

theorem interfaceBase_of_not_contains (h : v.toStruct.contains t = false) :
    TypeExpr.interfaceBase v t = .named t := by
  rw [TypeExpr.interfaceBase, h]
  rfl

theorem structBase_inStruct (b : Base) :
    TypeExpr.structBase .default b.inStruct = b.structExpr := by
  cases b with
  | foreign name =>
      have hmap : "map[".toList.isPrefixOf name.text = false := by
        rw [Bool.eq_false_iff, Ne, List.isPrefixOf_iff_prefix]
        intro hprefix
        have hbracket : '[' ∈ name.text := hprefix.subset (by decide)
        exact not_mem_of_class name.chars (by decide) hbracket
      exact structBase_of_not_contains hmap name.notInStructs
  | _ => rfl

theorem interfaceBase_inInterface (b : Base) :
    TypeExpr.interfaceBase .default b.inInterface = b.interfaceExpr := by
  cases b with
  | foreign name => exact interfaceBase_of_not_contains name.notInInterfaces
  | _ => rfl

end Base

/-! ## Brackets -/

/-- A type under as many slices. -/
def arrays : Nat → TypeExpr → TypeExpr
  | 0, e => e
  | k + 1, e => .array (arrays k e)

theorem arrays_arrays (k j : Nat) (e : TypeExpr) : arrays k (arrays j e) = arrays (k + j) e := by
  induction k with
  | zero => rw [Nat.zero_add]; rfl
  | succ k ih =>
      rw [Nat.add_right_comm, arrays, arrays, ih]

theorem brackets_succ (k : Nat) : brackets (k + 1) = '[' :: ']' :: brackets k := rfl

theorem brackets_succ_append (k : Nat) : brackets (k + 1) = brackets k ++ ['[', ']'] := by
  induction k with
  | zero => rfl
  | succ k ih =>
      rw [brackets_succ (k + 1)]
      conv => lhs; rw [ih]
      rw [brackets_succ k]
      rfl

theorem brackets_chars (k : Nat) : ∀ c ∈ brackets k, isStructTypeChar c = true := by
  induction k with
  | zero => simp [brackets]
  | succ k ih =>
      intro c hc
      rw [brackets_succ, List.mem_cons, List.mem_cons] at hc
      rcases hc with rfl | rfl | hc
      · decide
      · decide
      · exact ih c hc

theorem ofStruct_brackets (k : Nat) (t : Text) :
    TypeExpr.ofStruct v (brackets k ++ t) = arrays k (TypeExpr.ofStruct v t) := by
  induction k with
  | zero => rfl
  | succ k ih =>
      rw [brackets_succ, List.cons_append, List.cons_append, TypeExpr.ofStruct, ih]
      rfl

theorem ofInterface_brackets (k : Nat) (t : Text) :
    TypeExpr.ofInterface v (t ++ brackets k) = arrays k (TypeExpr.ofInterface v t) := by
  induction k with
  | zero => rw [brackets, List.replicate_zero, List.flatten_nil, List.append_nil]; rfl
  | succ k ih =>
      have hreverse : (t ++ brackets (k + 1)).reverse
          = ']' :: '[' :: (t ++ brackets k).reverse := by
        rw [brackets_succ_append, ← List.append_assoc, List.reverse_append]
        rfl
      rw [TypeExpr.ofInterface, hreverse, TypeExpr.ofInterfaceReversed]
      exact congrArg TypeExpr.array ih

-- Both writers go through the outermost bracket first. An interface puts it last, so the brackets
-- are taken off their end there and off their start in a struct.
theorem toInterface_arrays (k : Nat) (e : TypeExpr) :
    (arrays k e).toInterface v = e.toInterface v ++ brackets k := by
  induction k with
  | zero => simp [arrays, brackets]
  | succ k ih =>
      rw [brackets_succ_append, ← List.append_assoc, ← ih]
      rfl

theorem toStruct_arrays (k : Nat) (e : TypeExpr) :
    (arrays k e).toStruct v = brackets k ++ e.toStruct v := by
  induction k with
  | zero => rfl
  | succ k ih =>
      rw [brackets_succ, List.cons_append, List.cons_append, ← ih]
      rfl

theorem isNullable_arrays (k : Nat) (b : Base) : (arrays k b.structExpr).isNullable = false := by
  induction k with
  | zero => cases b <;> rfl
  | succ k ih => exact ih

/-! ## A base type by itself -/

theorem ofStruct_inStruct (b : Base) :
    TypeExpr.ofStruct .default b.inStruct = b.structExpr := by
  have hchars := b.inStruct_chars
  rw [TypeExpr.ofStruct_of_trimmed, b.structBase_inStruct]
  · exact trim_of_not_blank fun c hc => isBlank_of_isBaseChar (hchars c hc)
  · intro hstar
    exact not_mem_of_class hchars (d := '*') (by decide) (hstar.subset (by simp))
  · intro hbrackets
    exact not_mem_of_class hchars (d := '[') (by decide) (hbrackets.subset (by simp))

/-- Without blanks and brackets all of a type of an interface is its
base. -/
theorem ofInterface_of_not_bracket (hblank : ∀ c ∈ t, isBlank c = false) (hbracket : ']' ∉ t) :
    TypeExpr.ofInterface v t = TypeExpr.interfaceBase v t :=
  TypeExpr.ofInterface_of_trimmed (trim_of_not_blank hblank)
    fun hbrackets => hbracket (hbrackets.subset (by simp))

theorem ofInterface_inInterface (b : Base) :
    TypeExpr.ofInterface .default b.inInterface = b.interfaceExpr := by
  have hchars := b.inInterface_chars
  rw [ofInterface_of_not_bracket (fun c hc => isBlank_of_isBaseChar (hchars c hc))
    (not_mem_of_class hchars (by decide))]
  exact b.interfaceBase_inInterface

/-! ## Unions -/

theorem isNull_plain (b : Base) (k : Nat) :
    Union.isNull (b.inInterface ++ brackets k) = false := by
  cases k with
  | zero =>
      rw [brackets, List.replicate_zero, List.flatten_nil, List.append_nil]
      exact b.isNull_inInterface
  | succ k =>
      have hbracket : ']' ∈ b.inInterface ++ brackets (k + 1) := by
        rw [brackets_succ_append]
        simp
      have hne : ∀ word : Text, ']' ∉ word → b.inInterface ++ brackets (k + 1) ≠ word := by
        rintro word hword rfl
        exact hword hbracket
      rw [Union.isNull, beq_eq_false_iff_ne.mpr (hne _ (by decide)),
        beq_eq_false_iff_ne.mpr (hne _ (by decide))]
      rfl

theorem plain_chars (b : Base) (k : Nat) :
    ∀ c ∈ b.inInterface ++ brackets k, isStructTypeChar c = true := by
  intro c hc
  rcases List.mem_append.mp hc with hc | hc
  · exact isStructTypeChar_of_isBaseChar (b.inInterface_chars c hc)
  · exact brackets_chars k c hc

section Members

variable (hne : t ≠ []) (ht : ∀ c ∈ t, isStructTypeChar c = true)

include ht in
theorem not_bar_mem : '|' ∉ t := not_mem_of_class ht (by decide)

include ht in
theorem startsOutside_of_typeChars : StartsOutside isBlank t :=
  startsOutside_of_forall fun c hc => isBlank_of_isStructTypeChar (ht c hc)

include ht in
theorem endsOutside_of_typeChars : EndsOutside isBlank t :=
  endsOutside_of_forall fun c hc => isBlank_of_isStructTypeChar (ht c hc)

include hne ht in
theorem members_of_typeChars : Union.members t = [t] := by
  have htrim : trim t = t :=
    trim_of_outside (startsOutside_of_typeChars ht) (endsOutside_of_typeChars ht)
  rw [Union.members, splitOn_of_not_mem (not_bar_mem ht), List.map_singleton, htrim]
  simp [hne]

include hne ht in
theorem members_orNull : Union.members (t ++ " | null".toList) = [t, "null".toList] := by
  have hstart : StartsOutside isBlank (t ++ [' ']) :=
    (startsOutside_append hne).mpr (startsOutside_of_typeChars ht)
  have hspace : trim (t ++ [' ']) = t := by
    rw [trim, trimStart_of_startsOutside hstart, trimEnd_append (by simp [isBlank_space]),
      trimEnd_of_endsOutside (endsOutside_of_typeChars ht)]
  have hbar : '|' ∉ t ++ [' '] := by
    rw [List.mem_append, not_or]
    exact ⟨not_bar_mem ht, by decide⟩
  have hsplit : splitOn '|' (t ++ " | null".toList) = [t ++ [' '], " null".toList] := by
    rw [show t ++ " | null".toList = (t ++ [' ']) ++ '|' :: " null".toList by simp,
      splitOn_append_cons hbar]
    rfl
  have hnull : trim " null".toList = "null".toList := by decide
  rw [Union.members, hsplit, List.map_cons, List.map_singleton, hspace, hnull]
  simp [hne]

end Members

theorem toType_of_members_one {u : Text} (optional : Bool) (h : Union.members t = [u])
    (hu : Union.isNull u = false) :
    Union.toType v optional t = TypeExpr.ofInterface v u := by
  simp [Union.toType, Union.hasNull, Union.valueType, Union.values, h, hu]

theorem toType_of_members_two {u absent : Text} (optional : Bool)
    (h : Union.members t = [u, absent]) (hu : Union.isNull u = false)
    (habsent : Union.isNull absent = true) :
    Union.toType v optional t
      = if optional then TypeExpr.ofInterface v u else .nullable (TypeExpr.ofInterface v u) := by
  cases optional <;>
    simp [Union.toType, Union.hasNull, Union.valueType, Union.values, h, hu, habsent]

/-! ## The type of a member -/

namespace Member

variable (m : Member)

/-- The type as it is read from a struct. -/
def structExpr : TypeExpr :=
  if m.presence = .nullable then .nullable (arrays m.depth m.base.structExpr)
  else arrays m.depth m.base.structExpr

/-- The type as it is read from an interface. -/
def interfaceExpr : TypeExpr :=
  if m.presence = .nullable then .nullable (arrays m.depth m.base.interfaceExpr)
  else arrays m.depth m.base.interfaceExpr

theorem ofStruct_structType : TypeExpr.ofStruct .default m.structType = m.structExpr := by
  have harrays : TypeExpr.ofStruct .default (brackets m.depth ++ m.base.inStruct)
      = arrays m.depth m.base.structExpr := by rw [ofStruct_brackets, ofStruct_inStruct]
  rw [structType, structExpr]
  split
  · show TypeExpr.ofStruct .default ('*' :: (brackets m.depth ++ m.base.inStruct)) = _
    rw [TypeExpr.ofStruct, harrays]
  · exact harrays

theorem toStruct_interfaceExpr : m.interfaceExpr.toStruct .default = m.structType := by
  have harrays : (arrays m.depth m.base.interfaceExpr).toStruct .default
      = brackets m.depth ++ m.base.inStruct := by
    rw [toStruct_arrays, Base.toStruct_interfaceExpr]
  rw [structType, interfaceExpr]
  split
  · show '*' :: (arrays m.depth m.base.interfaceExpr).toStruct .default = _
    rw [harrays]
    rfl
  · exact harrays

/-- The type without the mark of absence. -/
def plainType : Text := m.base.inInterface ++ brackets m.depth

theorem interfaceType_eq : m.interfaceType
    = m.plainType ++ (if m.presence = .required then [] else " | null".toList) := by
  rw [interfaceType, plainType, List.append_assoc]

theorem plainType_ne_nil : m.plainType ≠ [] := by
  simp [plainType, m.base.inInterface_ne_nil]

theorem ofInterface_plainType :
    TypeExpr.ofInterface .default m.plainType = arrays m.depth m.base.interfaceExpr := by
  rw [plainType, ofInterface_brackets, ofInterface_inInterface]

theorem toInterface_structExpr : m.structExpr.toInterface .default = m.plainType := by
  have harrays : (arrays m.depth m.base.structExpr).toInterface .default = m.plainType := by
    rw [toInterface_arrays, Base.toInterface_structExpr, plainType]
  rw [structExpr]
  split
  · exact harrays
  · exact harrays

/-- **The union of a canonical member is read as its type**: `null` makes
the type nullable unless the member can be left out. -/
theorem toType_interfaceType :
    Union.toType .default (m.presence = .omittable) m.interfaceType = m.interfaceExpr := by
  have hchars := plain_chars m.base m.depth
  have hplain : Union.isNull m.plainType = false := isNull_plain m.base m.depth
  have hnull : Union.isNull "null".toList = true := by decide
  have hone : Union.members m.plainType = [m.plainType] :=
    members_of_typeChars m.plainType_ne_nil hchars
  have htwo : Union.members (m.plainType ++ " | null".toList) = [m.plainType, "null".toList] :=
    members_orNull m.plainType_ne_nil hchars
  rw [interfaceType_eq, interfaceExpr, ← ofInterface_plainType]
  cases m.presence with
  | required =>
      rw [if_pos rfl, List.append_nil, toType_of_members_one _ hone hplain]
      rfl
  | nullable =>
      rw [if_neg (by decide), toType_of_members_two _ htwo hplain hnull]
      rfl
  | omittable =>
      rw [if_neg (by decide), toType_of_members_two _ htwo hplain hnull]
      rfl

end Member

end Canonical

end WireTypes
