import WireTypes.Proofs.Canonical.Types

/-!
# Types — Spellings that settle

A type of a struct that is written in an interface, read there and written
in a struct again need not be the type that it was: a number narrows, a
pointer moves to the front, a type that is nothing but `null` becomes
`any`. After one such way there and back it is a base type under brackets
and perhaps a star (`exists_settled`). From then on only its base type can
change, and the two tables bring that to rest: what an interface writes
for it stays the same (`unionText_returned_returned`).
-/

namespace WireTypes.TypeExpr

open Text Canonical

variable {v : Vocabulary} {t base : Text} {k : Nat}

/-! ## Base types and the two tables -/

/-- What an interface calls a base type of a struct. -/
def interfaceName (base : Text) : Text := (structBase .default base).toInterface .default

/-- What a struct calls a base type of an interface. -/
def structName (base : Text) : Text := (interfaceBase .default base).toStruct .default

/-- A base type has an entry, or its name passes through. -/
theorem interfaceName_cases (base : Text) : interfaceName base = base ∨
    ∃ e ∈ Vocabulary.defaultToInterface, interfaceName base = e.2.plain := by
  rw [interfaceName, structBase]
  split
  · exact Or.inl rfl
  · split
    · rename_i hknown
      obtain ⟨value, hvalue⟩ := Option.isSome_iff_exists.mp hknown
      refine Or.inr ⟨(base, value), Table.mem_of_get? hvalue, ?_⟩
      rw [toInterface, interfaceValue, Table.getD, hvalue]
      rfl
    · exact Or.inl rfl

theorem structName_cases (base : Text) : structName base = base ∨
    ∃ e ∈ Vocabulary.defaultToStruct, structName base = e.2.plain := by
  rw [structName, interfaceBase]
  split
  · rename_i hknown
    obtain ⟨value, hvalue⟩ := Option.isSome_iff_exists.mp hknown
    refine Or.inr ⟨(base, value), Table.mem_of_get? hvalue, ?_⟩
    rw [toStruct, structValue, Table.getD, hvalue]
    rfl
  · exact Or.inl rfl

/-- What neither table destroys holds of the names they give. -/
theorem interfaceName_induction {P : Text → Prop}
    (htable : ∀ e ∈ Vocabulary.defaultToInterface, P e.2.plain) (h : P base) :
    P (interfaceName base) := by
  rcases interfaceName_cases base with heq | ⟨e, he, heq⟩
  · rwa [heq]
  · rw [heq]
    exact htable e he

theorem structName_induction {P : Text → Prop}
    (htable : ∀ e ∈ Vocabulary.defaultToStruct, P e.2.plain) (h : P base) :
    P (structName base) := by
  rcases structName_cases base with heq | ⟨e, he, heq⟩
  · rwa [heq]
  · rw [heq]
    exact htable e he

private theorem interfaceName_toStruct_values : ∀ e ∈ Vocabulary.defaultToStruct,
    interfaceName (structName (interfaceName e.2.plain)) = interfaceName e.2.plain := by
  decide +kernel

private theorem interfaceName_toInterface_values : ∀ e ∈ Vocabulary.defaultToInterface,
    interfaceName (structName e.2.plain) = e.2.plain := by
  decide +kernel

/-- **The two tables come to rest after one way there and back.** -/
theorem interfaceName_structName_twice (base : Text) :
    interfaceName (structName (interfaceName (structName base)))
      = interfaceName (structName base) := by
  rcases structName_cases base with hsame | ⟨e, he, hentry⟩
  · rw [hsame]
    rcases interfaceName_cases base with hname | ⟨e, he, hentry⟩
    · rw [hname, hsame, hname]
    · rw [hentry]
      exact interfaceName_toInterface_values e he
  · rw [hentry]
    exact interfaceName_toStruct_values e he

/-- A name in a struct that no star and no brackets stand in front of. -/
structure IsStructBase (base : Text) : Prop where
  chars : ∀ c ∈ base, isStructTypeChar c = true
  noStar : base.head? ≠ some '*'
  noBrackets : ¬ "[]".toList <+: base

/-- A name that is a base type in both notations: there are no brackets
behind it either. -/
structure IsBase (base : Text) : Prop extends IsStructBase base where
  noBracketsBehind : ¬ "[]".toList <:+ base

instance : Decidable (IsBase base) :=
  decidable_of_iff ((base.all isStructTypeChar = true ∧ base.head? ≠ some '*' ∧
      ¬ "[]".toList <+: base) ∧ ¬ "[]".toList <:+ base)
    ⟨fun ⟨⟨hchars, hstar, hfront⟩, hbehind⟩ =>
        ⟨⟨List.all_eq_true.mp hchars, hstar, hfront⟩, hbehind⟩,
      fun h => ⟨⟨List.all_eq_true.mpr h.chars, h.noStar, h.noBrackets⟩, h.noBracketsBehind⟩⟩

private theorem isBase_toInterface_values :
    ∀ e ∈ Vocabulary.defaultToInterface, IsBase e.2.plain ∧ e.2.plain ≠ [] ∧
      Union.isNull e.2.plain = false := by
  decide +kernel

private theorem isBase_toStruct_values :
    ∀ e ∈ Vocabulary.defaultToStruct, IsBase e.2.plain ∧ e.2.plain ≠ [] ∧
      Union.isNull e.2.plain = false := by
  decide +kernel

theorem IsStructBase.interfaceName (h : IsStructBase base) : IsStructBase (interfaceName base) :=
  interfaceName_induction (fun e he => (isBase_toInterface_values e he).1.toIsStructBase) h

theorem IsBase.interfaceName (h : IsBase base) : IsBase (interfaceName base) :=
  interfaceName_induction (fun e he => (isBase_toInterface_values e he).1) h

theorem IsBase.structName (h : IsBase base) : IsBase (structName base) :=
  structName_induction (fun e he => (isBase_toStruct_values e he).1) h

theorem structName_chars (h : ∀ c ∈ base, isStructTypeChar c = true) :
    ∀ c ∈ structName base, isStructTypeChar c = true :=
  structName_induction (P := fun w => ∀ c ∈ w, isStructTypeChar c = true)
    (fun e he => (isBase_toStruct_values e he).1.chars) h

theorem interfaceName_ne_nil (h : base ≠ []) : interfaceName base ≠ [] :=
  interfaceName_induction (P := (· ≠ [])) (fun e he => (isBase_toInterface_values e he).2.1) h

theorem structName_ne_nil (h : base ≠ []) : structName base ≠ [] :=
  structName_induction (P := (· ≠ [])) (fun e he => (isBase_toStruct_values e he).2.1) h

theorem isNull_interfaceName (h : Union.isNull base = false) :
    Union.isNull (interfaceName base) = false :=
  interfaceName_induction (P := (Union.isNull · = false))
    (fun e he => (isBase_toInterface_values e he).2.2) h

theorem isNull_structName (h : Union.isNull base = false) :
    Union.isNull (structName base) = false :=
  structName_induction (P := (Union.isNull · = false))
    (fun e he => (isBase_toStruct_values e he).2.2) h

/-- The start of a base type is one. -/
theorem IsStructBase.ofStart (h : IsStructBase base) (hstart : t <+: base) : IsStructBase t where
  chars := fun c hc => h.chars c (hstart.subset hc)
  noStar := by
    intro hstar
    obtain ⟨rest, rfl⟩ := hstart
    refine h.noStar ?_
    rw [List.head?_append, hstar]
    rfl
  noBrackets := fun hbrackets => h.noBrackets (hbrackets.trans hstart)

/-! ## Types taken apart -/

theorem brackets_eq_nil_iff : brackets k = [] ↔ k = 0 := by
  cases k with
  | zero => simp [brackets]
  | succ k => simp [brackets_succ]

/-- A base type by itself is read as one. -/
theorem IsStructBase.ofStruct_eq (h : IsStructBase base) : ofStruct v base = structBase v base := by
  refine ofStruct_of_trimmed ?_ ?_ h.noBrackets
  · exact trim_of_not_blank fun c hc => isBlank_of_isStructTypeChar (h.chars c hc)
  · rintro ⟨rest, rfl⟩
    exact h.noStar rfl

/-- **A type of a struct is a base type under stars and brackets**: an
interface puts the brackets behind the base type. Nothing at all is
written only for pointers to nothing. -/
theorem exists_ofStruct_eq (h : ∀ c ∈ t, isStructTypeChar c = true) :
    ∃ base k, IsStructBase base ∧
      (ofStruct v t).toInterface v = (structBase v base).toInterface v ++ brackets k ∧
      (t ≠ [] → base = [] → k = 0 → (ofStruct v t).isNullable = true) := by
  -- along the reading of the type: a star is forgotten, brackets are counted
  fun_induction ofStruct v t with
  | case1 =>
      refine ⟨[], 0, ⟨h, by simp, by decide⟩, ?_, fun hne => absurd rfl hne⟩
      rw [brackets_eq_nil_iff.mpr rfl, List.append_nil]
  | case2 rest ih =>
      obtain ⟨base, k, hbase, hwritten, -⟩ := ih fun c hc => h c (by simp [hc])
      exact ⟨base, k, hbase, hwritten, fun _ _ _ => rfl⟩
  | case3 rest ih =>
      obtain ⟨base, k, hbase, hwritten, -⟩ := ih fun c hc => h c (by simp [hc])
      have harray : (array (ofStruct v rest)).toInterface v
          = (ofStruct v rest).toInterface v ++ "[]".toList := rfl
      refine ⟨base, k + 1, hbase, ?_, fun _ _ hk => absurd hk (by simp)⟩
      rw [harray, hwritten, brackets_succ_append, List.append_assoc]
      rfl
  | case4 c rest _ _ hblank ih =>
      rw [isBlank_of_isStructTypeChar (h c (by simp))] at hblank
      exact absurd hblank (by decide)
  | case5 c rest hstar hbrackets hblank =>
      have hend : trimEnd (c :: rest) = c :: rest :=
        trimEnd_of_endsOutside (endsOutside_of_forall fun d hd =>
          isBlank_of_isStructTypeChar (h d hd))
      rw [hend]
      refine ⟨c :: rest, 0, ⟨h, ?_, ?_⟩, ?_, fun _ hnil => absurd hnil (by simp)⟩
      · intro heq
        exact hstar (Option.some.inj heq)
      · rintro ⟨more, heq⟩
        obtain ⟨rfl, rfl⟩ := List.cons.inj heq
        exact hbrackets more rfl rfl
      · rw [brackets_eq_nil_iff.mpr rfl, List.append_nil]

/-- How a type of an interface comes apart: a base type under brackets. -/
structure Unbracketed (t base : Text) (k : Nat) : Prop where
  mem : ∀ c ∈ base, c ∈ t
  starts : StartsOutside isBlank base
  ends : EndsOutside isBlank base
  noBracketsBehind : ¬ "[]".toList <:+ base
  /-- Without blanks, these are all its parts. -/
  eq_append : (∀ c ∈ t, isBlank c = false) → t = base ++ brackets k
  present : trim t ≠ [] → base = [] → 0 < k

/-- **A type of an interface is a base type under brackets.** -/
theorem exists_ofInterface_eq (v : Vocabulary) (t : Text) :
    ∃ base k, ofInterface v t = arrays k (interfaceBase v base) ∧ Unbracketed t base k := by
  have hreversed : ∀ r : Text, ∃ base k,
      ofInterfaceReversed v r = arrays k (interfaceBase v base) ∧
        Unbracketed r.reverse base k := by
    intro r
    fun_induction ofInterfaceReversed v r with
    | case1 =>
        exact ⟨[], 0, rfl, by simp, by decide, by decide, by decide, fun _ => rfl,
          fun hne => absurd rfl hne⟩
    | case2 rest ih =>
        obtain ⟨base, k, heq, h⟩ := ih
        have hshape : (']' :: '[' :: rest).reverse = rest.reverse ++ "[]".toList := by
          simp
        refine ⟨base, k + 1, by rw [heq]; rfl, ?_⟩
        rw [hshape]
        refine ⟨fun c hc => List.mem_append_left _ (h.mem c hc), h.starts, h.ends,
          h.noBracketsBehind, fun hblank => ?_, fun _ _ => Nat.succ_pos k⟩
        have hrest := h.eq_append fun c hc => hblank c (List.mem_append_left _ hc)
        rw [brackets_succ_append, ← List.append_assoc, ← hrest]
        rfl
    | case3 c rest _ hblank ih =>
        obtain ⟨base, k, heq, h⟩ := ih
        have hc : ∀ d ∈ [c], isBlank d = true := by simpa using hblank
        rw [List.reverse_cons]
        refine ⟨base, k, heq, fun d hd => List.mem_append_left _ (h.mem d hd), h.starts, h.ends,
          h.noBracketsBehind, fun hall => ?_, fun hne => h.present ?_⟩
        · rw [hall c (by simp)] at hblank
          exact absurd hblank (by decide)
        · have htrim : trim ([] ++ (rest.reverse ++ [c])) = trim rest.reverse :=
            trim_between_blanks (by simp) hc rest.reverse
          rwa [← htrim]
    | case4 c rest hbrackets hblank =>
        obtain ⟨gap, hgap, hblanks⟩ := exists_trimStart_append (c :: rest).reverse
        have hsuffix : trimStart (c :: rest).reverse <:+ (c :: rest).reverse := ⟨gap, hgap.symm⟩
        have hc : isBlank c = false := by simpa using hblank
        have hne : trimStart (c :: rest).reverse ≠ [] :=
          trimStart_ne_nil (c := c) (by simp) hc
        refine ⟨_, 0, rfl, fun d hd => hsuffix.subset hd, startsOutside_trimStart _, ?_, ?_,
          fun hall => ?_, fun _ hnil => absurd hnil hne⟩
        · have hends : EndsOutside isBlank (c :: rest).reverse := by
            rw [endsOutside_iff_reverse, List.reverse_reverse, startsOutside_cons]
            exact hc
          rw [hgap, endsOutside_append hne] at hends
          exact hends
        · -- brackets at the end would have been taken off
          intro hbehind
          have hfront := List.reverse_prefix.mpr (hbehind.trans hsuffix)
          rw [List.reverse_reverse] at hfront
          obtain ⟨more, heq⟩ := hfront
          obtain ⟨rfl, rfl⟩ := List.cons.inj heq
          exact hbrackets more rfl rfl
        · rw [trimStart_of_startsOutside (startsOutside_of_forall hall),
            brackets_eq_nil_iff.mpr rfl, List.append_nil]
  obtain ⟨base, k, heq, h⟩ := hreversed t.reverse
  rw [List.reverse_reverse] at h
  exact ⟨base, k, heq, h⟩

/-- As many brackets and perhaps a star in front of a base type. -/
theorem toStruct_arrays_base (isNullable : Bool) (k : Nat) (base : Text) :
    (if isNullable then nullable (arrays k (interfaceBase .default base))
      else arrays k (interfaceBase .default base)).toStruct .default
      = (if isNullable then ['*'] else []) ++ (brackets k ++ structName base) := by
  have harrays : (arrays k (interfaceBase .default base)).toStruct .default
      = brackets k ++ structName base := toStruct_arrays k _
  cases isNullable with
  | false => exact harrays
  | true =>
      show '*' :: (arrays k (interfaceBase .default base)).toStruct .default = _
      rw [harrays]
      rfl

/-- These are type characters. -/
theorem starred_chars (isNullable : Bool) (k : Nat) (h : ∀ c ∈ base, isStructTypeChar c = true) :
    ∀ c ∈ (if isNullable then ['*'] else []) ++ (brackets k ++ base),
      isStructTypeChar c = true := by
  intro c hc
  rw [List.mem_append, List.mem_append] at hc
  rcases hc with hc | hc | hc
  · split at hc
    · rw [List.mem_singleton] at hc
      subst hc
      decide
    · simp at hc
  · exact brackets_chars k c hc
  · exact h c hc

/-! ## Unions -/

/-- The union that an interface writes for the type of a member. -/
def unionText (optional : Bool) (e : TypeExpr) : Text :=
  e.toInterface .default ++ if optional || e.isNullable then " | null".toList else []

/-- A type with brackets is no word for the absence of a value. -/
theorem isNull_of_bracket_mem (h : ']' ∈ t) : Union.isNull t = false := by
  have hne : ∀ word : Text, ']' ∉ word → t ≠ word := by
    rintro word hword rfl
    exact hword h
  rw [Union.isNull, beq_eq_false_iff_ne.mpr (hne _ (by decide)),
    beq_eq_false_iff_ne.mpr (hne _ (by decide))]
  rfl

/-- A union of a type and perhaps `null` is read as the type. -/
theorem toType_orNull (hne : t ≠ []) (hchars : ∀ c ∈ t, isStructTypeChar c = true)
    (hvalue : Union.isNull t = false) (optional absent : Bool) :
    Union.toType v optional (trimStart (t ++ if absent then " | null".toList else []))
      = if absent && !optional then nullable (ofInterface v t) else ofInterface v t := by
  have hstart : StartsOutside isBlank t := startsOutside_of_typeChars hchars
  have hnull : Union.isNull "null".toList = true := by decide
  rw [trimStart_of_startsOutside ((startsOutside_append hne).mpr hstart)]
  cases absent with
  | false =>
      rw [if_neg (by decide), List.append_nil,
        toType_of_members_one optional (members_of_typeChars hne hchars) hvalue]
      rfl
  | true =>
      rw [if_pos rfl, toType_of_members_two optional (members_orNull hne hchars) hvalue hnull]
      cases optional <;> rfl

/-- A union without a value is read as unknown. -/
theorem toType_of_values_nil (hvalues : Union.values t = []) (hnull : Union.hasNull t = true)
    (optional : Bool) : Union.toType v optional t
      = if optional then ofInterface v "unknown".toList
        else nullable (ofInterface v "unknown".toList) := by
  rw [Union.toType, Union.valueType, hvalues, hnull]
  cases optional <;> rfl

/-- Only words for the absence of a value: nothing is left of the union. -/
theorem values_orNull (hchars : ∀ c ∈ t, isStructTypeChar c = true)
    (hnull : t = [] ∨ Union.isNull t = true) {absent : Bool} (habsent : t = [] → absent = true) :
    Union.values (trimStart (t ++ if absent then " | null".toList else [])) = [] ∧
      Union.hasNull (trimStart (t ++ if absent then " | null".toList else [])) = true := by
  by_cases hnil : t = []
  · rw [habsent hnil, hnil]
    decide
  · have hisNull : Union.isNull t = true := hnull.resolve_left hnil
    have hword : Union.isNull "null".toList = true := by decide
    rw [trimStart_of_startsOutside ((startsOutside_append hnil).mpr
      (startsOutside_of_typeChars hchars)), Union.values, Union.hasNull]
    cases absent with
    | false =>
        rw [if_neg (by decide), List.append_nil, members_of_typeChars hnil hchars]
        simp [hisNull]
    | true =>
        rw [if_pos rfl, members_orNull hnil hchars]
        simp only [List.filter_cons, hisNull, hword, List.any_cons, Bool.not_true,
          Bool.false_eq_true, if_false, List.filter_nil, Bool.true_or, and_self]

/-- The value of a union is one of its members, or unknown. -/
theorem exists_valueType_eq (v : Vocabulary) (t : Text) : ∃ member,
    Union.valueType v t = ofInterface v member ∧ trim member ≠ [] ∧
      ∀ c ∈ member, c ∈ t ∨ isStructTypeChar c = true := by
  rw [Union.valueType]
  split
  · rename_i member hvalues
    have hmember : member ∈ Union.values t := by rw [hvalues]; exact List.mem_singleton_self _
    obtain ⟨hpiece, hpresent⟩ := List.mem_filter.mp (List.mem_of_mem_filter hmember)
    obtain ⟨piece, hmem, rfl⟩ := List.mem_map.mp hpiece
    refine ⟨trim piece, rfl, ?_, fun c hc => Or.inl (mem_of_mem_splitOn hmem (mem_of_mem_trim hc))⟩
    rw [trim_of_outside (startsOutside_trim piece) (endsOutside_trim piece)]
    simpa using hpresent
  · have hchars : ∀ c ∈ "unknown".toList, isStructTypeChar c = true :=
      List.all_eq_true.mp (by decide +kernel)
    exact ⟨_, rfl, by decide, fun c hc => Or.inr (hchars c hc)⟩

/-- A type that a struct writes for a union: something between no blanks,
made of type characters and characters of the union. -/
structure Written (t type : Text) : Prop where
  ne_nil : type ≠ []
  starts : StartsOutside isBlank type
  ends : EndsOutside isBlank type
  mem : ∀ c ∈ type, c ∈ t ∨ isStructTypeChar c = true

/-- **Whatever the union, a struct writes a type for it.** -/
theorem written_toType (optional : Bool) (t : Text) :
    Written t ((Union.toType .default optional t).toStruct .default) := by
  obtain ⟨member, hvalue, hpresent, hmember⟩ := exists_valueType_eq .default t
  obtain ⟨base, k, hread, hparts⟩ := exists_ofInterface_eq .default member
  have htype : Union.toType .default optional t
      = if Union.hasNull t && !optional then nullable (arrays k (interfaceBase .default base))
        else arrays k (interfaceBase .default base) := by
    rw [Union.toType, hvalue, hread]
  -- the brackets and the star are type characters, so all depends on the name
  have hname : StartsOutside isBlank (structName base) ∧ EndsOutside isBlank (structName base) ∧
      ∀ c ∈ structName base, c ∈ t ∨ isStructTypeChar c = true := by
    refine structName_induction (P := fun w => StartsOutside isBlank w ∧ EndsOutside isBlank w ∧
      ∀ c ∈ w, c ∈ t ∨ isStructTypeChar c = true) (fun e he => ?_)
      ⟨hparts.starts, hparts.ends, fun c hc => hmember c (hparts.mem c hc)⟩
    have hchars := (isBase_toStruct_values e he).1.chars
    exact ⟨startsOutside_of_typeChars hchars, endsOutside_of_typeChars hchars,
      fun c hc => Or.inr (hchars c hc)⟩
  have harrays : Written t (brackets k ++ structName base) := by
    by_cases hnil : structName base = []
    · have hbase : base = [] := by
        by_contra hne
        exact structName_ne_nil hne hnil
      have hdepth := hparts.present hpresent hbase
      rw [hnil, List.append_nil]
      refine ⟨fun hbrackets => ?_, startsOutside_of_typeChars (brackets_chars k),
        endsOutside_of_typeChars (brackets_chars k), fun c hc => Or.inr (brackets_chars k c hc)⟩
      rw [brackets_eq_nil_iff] at hbrackets
      omega
    · refine ⟨List.append_ne_nil_of_right_ne_nil _ hnil, ?_,
        (endsOutside_append hnil).mpr hname.2.1, fun c hc => ?_⟩
      · by_cases hk : brackets k = []
        · rw [hk, List.nil_append]
          exact hname.1
        · exact (startsOutside_append hk).mpr (startsOutside_of_typeChars (brackets_chars k))
      · rcases List.mem_append.mp hc with hc | hc
        · exact Or.inr (brackets_chars k c hc)
        · exact hname.2.2 c hc
  rw [htype, toStruct_arrays_base]
  cases Union.hasNull t && !optional with
  | false => exact harrays
  | true =>
      refine ⟨by simp, by simp; decide, (endsOutside_append harrays.ne_nil).mpr harrays.ends,
        fun c hc => ?_⟩
      rcases List.mem_cons.mp hc with rfl | hc
      · exact Or.inr (by decide)
      · exact harrays.mem c hc

/-! ## There and back -/

/-- What a struct writes for one of its types after it stood in an
interface. -/
def returned (optional : Bool) (t : Text) : Text :=
  (Union.toType .default optional (trimStart (unionText optional (ofStruct .default t)))).toStruct
    .default

/-- A type as it is after one way there and back: a base type under
brackets, which may be null. There is something to write for it, and it
is not written as a word for the absence of a value. -/
structure Settled where
  base : Text
  depth : Nat
  isNullable : Bool
  isBase : IsBase base
  present : base = [] → 0 < depth
  isValue : depth = 0 → Union.isNull base = false

namespace Settled

variable (s : Settled)

/-- The type as a struct writes it. -/
def inStruct : Text := (if s.isNullable then ['*'] else []) ++ (brackets s.depth ++ s.base)

/-- The type as an interface writes it, without a mark of absence. -/
def inInterface : Text := interfaceName s.base ++ brackets s.depth

/-- The type with the base type that the tables give back. -/
def renamed : Settled where
  base := structName (interfaceName s.base)
  depth := s.depth
  isNullable := s.isNullable
  isBase := s.isBase.interfaceName.structName
  present := by
    intro hnil
    refine s.present ?_
    by_contra hne
    exact structName_ne_nil (interfaceName_ne_nil hne) hnil
  isValue := fun hdepth => isNull_structName (isNull_interfaceName (s.isValue hdepth))

theorem inStruct_chars : ∀ c ∈ s.inStruct, isStructTypeChar c = true :=
  starred_chars s.isNullable s.depth s.isBase.chars

theorem inInterface_ne_nil : s.inInterface ≠ [] := by
  intro hnil
  rw [inInterface, List.append_eq_nil_iff, brackets_eq_nil_iff] at hnil
  by_cases hbase : s.base = []
  · have hdepth := s.present hbase
    omega
  · exact interfaceName_ne_nil hbase hnil.1

theorem inInterface_chars : ∀ c ∈ s.inInterface, isStructTypeChar c = true := by
  intro c hc
  rcases List.mem_append.mp hc with hc | hc
  · exact s.isBase.interfaceName.chars c hc
  · exact brackets_chars s.depth c hc

theorem isNull_inInterface : Union.isNull s.inInterface = false := by
  rw [inInterface]
  cases hdepth : s.depth with
  | zero =>
      rw [brackets_eq_nil_iff.mpr rfl, List.append_nil]
      exact isNull_interfaceName (s.isValue hdepth)
  | succ k =>
      apply isNull_of_bracket_mem
      rw [brackets_succ_append]
      simp

theorem isNullable_arrays_structBase (k : Nat) (base : Text) :
    (arrays k (structBase .default base)).isNullable = false := by
  induction k with
  | zero => exact isNullable_structBase .default base
  | succ k ih => exact ih

/-- **A settled type is written in an interface with all its parts.** -/
theorem unionText_inStruct (optional : Bool) : unionText optional (ofStruct .default s.inStruct)
    = s.inInterface ++ if optional || s.isNullable then " | null".toList else [] := by
  have harrays : ofStruct .default (brackets s.depth ++ s.base)
      = arrays s.depth (structBase .default s.base) := by
    rw [ofStruct_brackets, s.isBase.ofStruct_eq]
  have hwritten : (arrays s.depth (structBase .default s.base)).toInterface .default
      = s.inInterface := toInterface_arrays s.depth _
  rw [unionText, inStruct]
  cases s.isNullable with
  | false =>
      rw [if_neg (by decide), List.nil_append, harrays, hwritten, isNullable_arrays_structBase]
  | true =>
      rw [if_pos rfl, List.singleton_append, ofStruct, harrays]
      show (arrays s.depth (structBase .default s.base)).toInterface .default ++ _ = _
      rw [hwritten]
      rfl

/-- Without blanks and brackets, a name is read as a base type. -/
theorem ofInterface_of_isBase {base : Text} (h : IsBase base) :
    ofInterface v base = interfaceBase v base :=
  ofInterface_of_trimmed
    (trim_of_not_blank fun c hc => isBlank_of_isStructTypeChar (h.chars c hc)) h.noBracketsBehind

/-- **A settled type comes back with another base type at most.** On an
optional property it must not be nullable: there `null` means no more than
that the property may be left out. -/
theorem returned_inStruct {optional : Bool} (h : optional = true → s.isNullable = false) :
    returned optional s.inStruct = s.renamed.inStruct := by
  have hnullable : ((optional || s.isNullable) && !optional) = s.isNullable := by
    cases optional with
    | false => simp
    | true => simp [h rfl]
  have hread : ofInterface .default s.inInterface
      = arrays s.depth (interfaceBase .default (interfaceName s.base)) := by
    rw [inInterface, ofInterface_brackets, ofInterface_of_isBase s.isBase.interfaceName]
  rw [returned, s.unionText_inStruct,
    toType_orNull s.inInterface_ne_nil s.inInterface_chars s.isNull_inInterface, hnullable, hread,
    toStruct_arrays_base]
  rfl

end Settled

/-- The type of a value that nothing is known of. -/
def anything (isNullable : Bool) : Settled where
  base := "any".toList
  depth := 0
  isNullable := isNullable
  isBase := by decide +kernel
  present := by decide
  isValue := by decide

/-- **Every type of a struct has settled after one way there and back**,
and its base type is one that a struct writes for a type of an
interface. -/
theorem exists_settled (hne : t ≠ []) (hchars : ∀ c ∈ t, isStructTypeChar c = true)
    (optional : Bool) : ∃ s : Settled, returned optional t = s.inStruct ∧
      (∃ name, s.base = structName name) ∧ (optional = true → s.isNullable = false) := by
  obtain ⟨base, k, hbase, hwritten, hpresent⟩ := exists_ofStruct_eq (v := .default) hchars
  -- what is written: the name of the base type, the brackets, and perhaps `null`
  obtain ⟨plain, hplain⟩ : ∃ plain, plain = interfaceName base ++ brackets k := ⟨_, rfl⟩
  have hchars' : ∀ c ∈ plain, isStructTypeChar c = true := by
    intro c hc
    rw [hplain] at hc
    rcases List.mem_append.mp hc with hc | hc
    · exact hbase.interfaceName.chars c hc
    · exact brackets_chars k c hc
  have hunion : unionText optional (ofStruct .default t) = plain ++
      if optional || (ofStruct .default t).isNullable then " | null".toList else [] := by
    rw [unionText, hwritten, hplain]
    rfl
  rw [returned, hunion]
  by_cases hvalue : plain = [] ∨ Union.isNull plain = true
  · -- no value is left, so that the type becomes `any`
    have habsent : plain = [] → (optional || (ofStruct .default t).isNullable) = true := by
      intro hnil
      rw [hplain, List.append_eq_nil_iff, brackets_eq_nil_iff] at hnil
      have hbaseNil : base = [] := by
        by_contra hbaseNe
        exact interfaceName_ne_nil hbaseNe hnil.1
      rw [hpresent hne hbaseNil hnil.2, Bool.or_true]
    obtain ⟨hvalues, hnull⟩ := values_orNull hchars' hvalue habsent
    refine ⟨anything !optional, ?_, ⟨"unknown".toList, rfl⟩, ?_⟩
    · rw [toType_of_values_nil hvalues hnull]
      cases optional <;> decide
    · rintro rfl
      rfl
  · rw [not_or, Bool.not_eq_true] at hvalue
    obtain ⟨name, j, hread, hparts⟩ := exists_ofInterface_eq .default (interfaceName base)
    have hsplit := hparts.eq_append fun c hc =>
      isBlank_of_isStructTypeChar (hbase.interfaceName.chars c hc)
    have hname : IsBase name :=
      ⟨hbase.interfaceName.ofStart ⟨_, hsplit.symm⟩, hparts.noBracketsBehind⟩
    have hplainRead : ofInterface .default plain
        = arrays (k + j) (interfaceBase .default name) := by
      rw [hplain, ofInterface_brackets, hread, arrays_arrays]
    -- without brackets the name is all that is written, and so it is there and is a value
    have hbare : k + j = 0 → plain = name := by
      intro hdepth
      rw [hplain, hsplit, brackets_eq_nil_iff.mpr (by omega : k = 0),
        brackets_eq_nil_iff.mpr (by omega : j = 0), List.append_nil, List.append_nil]
    refine ⟨⟨structName name, k + j,
      (optional || (ofStruct .default t).isNullable) && !optional, hname.structName, ?_, ?_⟩, ?_,
      ⟨name, rfl⟩, ?_⟩
    · intro hnil
      by_contra hdepth
      refine hvalue.1 ?_
      rw [hbare (by omega)]
      by_contra hnameNe
      exact structName_ne_nil hnameNe hnil
    · intro hdepth
      rw [hbare hdepth] at hvalue
      exact isNull_structName hvalue.2
    · rw [toType_orNull hvalue.1 hchars' hvalue.2, hplainRead, toStruct_arrays_base]
      rfl
    · rintro rfl
      rw [Bool.not_true, Bool.and_false]

/-- **Types settle.** What an interface writes for a type is the same from
the second way there and back on. -/
theorem unionText_returned_returned (hne : t ≠ []) (hchars : ∀ c ∈ t, isStructTypeChar c = true)
    (optional : Bool) :
    unionText optional (ofStruct .default (returned optional (returned optional t)))
      = unionText optional (ofStruct .default (returned optional t)) := by
  obtain ⟨s, hs, ⟨name, hname⟩, hoptional⟩ := exists_settled hne hchars optional
  have hplain : s.renamed.inInterface = s.inInterface := by
    show interfaceName (structName (interfaceName s.base)) ++ brackets s.depth = _
    rw [Settled.inInterface, hname, interfaceName_structName_twice]
  rw [hs, s.returned_inStruct hoptional, s.unionText_inStruct, s.renamed.unionText_inStruct, hplain]
  rfl

end WireTypes.TypeExpr
