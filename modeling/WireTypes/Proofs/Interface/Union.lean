import Mathlib.Logic.Relation
import WireTypes.Interface.Union
import WireTypes.Proofs.Text.Lines
import WireTypes.Proofs.TypeExpr.Marks

/-!
# Interface — Unions however they are written

Of the members of a union two things count: which of them stand for values,
in any order, and whether one of them stands for the absence of a value.
Each way to write a union differently keeps both (`Rewriting.alike`), and so
does any sequence of them; hence the type stays the same
(`toType_of_rewritings`).
-/

namespace WireTypes

open Text

/-- Whether a map is kept anywhere in the type. -/
def TypeExpr.hasMapping : TypeExpr → Bool
  | mapping _ => true
  | array element => element.hasMapping
  | nullable target => target.hasMapping
  | _ => false

/-- A type that is read from an interface without unions is a base type
under brackets: neither nullable nor a map, at any depth. -/
theorem TypeExpr.plain_ofInterface (v : Vocabulary) (t : Text) :
    (ofInterface v t).isNullable = false ∧ (ofInterface v t).hasMapping = false := by
  obtain ⟨s, rfl⟩ := InterfaceSpelling.exists_toText_eq t
  rw [s.ofInterface_toText]
  induction s.gaps.length with
  | zero =>
      rw [Canonical.arrays, interfaceBase]
      split <;> exact ⟨rfl, rfl⟩
  | succ k ih => exact ih

namespace Union

variable {v : Vocabulary} {t : Text} {ms ms' : List Text}

/-! ## Members -/

/-- The union of some members. -/
def ofMembers (ms : List Text) : Text := List.intercalate ['|'] ms

/-- The members that stand for values, trimmed. -/
def valuesAmong (ms : List Text) : List Text :=
  (ms.map trim).filter fun m => !m.isEmpty && !isNull m

/-- Whether a member stands for the absence of a value. -/
def hasNullAmong (ms : List Text) : Bool := ms.any fun m => isNull (trim m)

/-- Members without bars are the members of their union. -/
theorem members_ofMembers (h : ∀ m ∈ ms, '|' ∉ m) :
    members (ofMembers ms) = (ms.map trim).filter (!·.isEmpty) := by
  by_cases hne : ms = []
  · subst hne
    rfl
  · rw [members, ofMembers, splitOn_intercalate hne h]

theorem values_ofMembers (h : ∀ m ∈ ms, '|' ∉ m) : values (ofMembers ms) = valuesAmong ms := by
  rw [values, members_ofMembers h, List.filter_filter, valuesAmong]
  exact List.filter_congr fun m _ => Bool.and_comm _ _

theorem hasNull_ofMembers (h : ∀ m ∈ ms, '|' ∉ m) :
    hasNull (ofMembers ms) = hasNullAmong ms := by
  rw [hasNull, members_ofMembers h, List.any_filter, List.any_map, hasNullAmong]
  refine List.any_congr rfl fun m => ?_
  cases h : trim m <;> simp [h]
  rfl

/-! ## Ways to write a union differently -/

/-- One step from a list of members to another way to write them. -/
inductive Rewriting : List Text → List Text → Prop where
  /-- Members in another order. -/
  | permute {ms ms' : List Text} (h : ms.Perm ms') : Rewriting ms ms'
  /-- A blank member is left out. -/
  | leaveOut {gap : Text} {ms : List Text} (h : ∀ c ∈ gap, isBlank c = true) :
    Rewriting (gap :: ms) ms
  /-- The blanks around a member are left out. -/
  | tighten {before m after : Text} {ms : List Text} (hbefore : ∀ c ∈ before, isBlank c = true)
      (hafter : ∀ c ∈ after, isBlank c = true) :
    Rewriting ((before ++ (m ++ after)) :: ms) (m :: ms)
  /-- Another word for the absence of a value. -/
  | rename {m m' : Text} {ms : List Text} (h : isNull m = true) (h' : isNull m' = true) :
    Rewriting (m :: ms) (m' :: ms)
  /-- One of two words for the absence of a value is left out. -/
  | unrepeat {m m' : Text} {ms : List Text} (h : isNull m = true) (h' : isNull m' = true) :
    Rewriting (m :: m' :: ms) (m' :: ms)

/-- What counts of two lists of members is the same. -/
structure Alike (ms ms' : List Text) : Prop where
  perm_values : (valuesAmong ms).Perm (valuesAmong ms')
  hasNull_eq : hasNullAmong ms = hasNullAmong ms'
  noBars_iff : (∀ m ∈ ms, '|' ∉ m) ↔ ∀ m ∈ ms', '|' ∉ m

theorem Alike.symm (h : Alike ms ms') : Alike ms' ms :=
  ⟨h.perm_values.symm, h.hasNull_eq.symm, h.noBars_iff.symm⟩

theorem Alike.trans {ms'' : List Text} (h : Alike ms ms') (h' : Alike ms' ms'') : Alike ms ms'' :=
  ⟨h.perm_values.trans h'.perm_values, h.hasNull_eq.trans h'.hasNull_eq,
    h.noBars_iff.trans h'.noBars_iff⟩

theorem not_bar_of_isBlank {c : Char} (h : isBlank c = true) : c ≠ '|' :=
  ne_of_class h (by decide)

theorem valuesAmong_cons (m : Text) (ms : List Text) : valuesAmong (m :: ms) =
    if !(trim m).isEmpty && !isNull (trim m) then trim m :: valuesAmong ms else valuesAmong ms := by
  rw [valuesAmong, List.map_cons, List.filter_cons]
  rfl

theorem hasNullAmong_cons (m : Text) (ms : List Text) :
    hasNullAmong (m :: ms) = (isNull (trim m) || hasNullAmong ms) := rfl

/-- A word for the absence of a value is trimmed and holds no bar. -/
theorem of_isNull {m : Text} (h : isNull m = true) : trim m = m ∧ '|' ∉ m := by
  rw [isNull, Bool.or_eq_true, beq_iff_eq, beq_iff_eq] at h
  rcases h with rfl | rfl <;> decide

theorem valuesAmong_cons_null {m : Text} (h : isNull m = true) (ms : List Text) :
    valuesAmong (m :: ms) = valuesAmong ms := by
  rw [valuesAmong_cons, (of_isNull h).1, h, Bool.not_true, Bool.and_false,
    if_neg Bool.false_ne_true]

theorem hasNullAmong_cons_null {m : Text} (h : isNull m = true) (ms : List Text) :
    hasNullAmong (m :: ms) = true := by
  rw [hasNullAmong_cons, (of_isNull h).1, h, Bool.true_or]

/-- **Each step keeps what counts.** -/
theorem Rewriting.alike (h : Rewriting ms ms') : Alike ms ms' := by
  cases h with
  | permute h =>
      refine ⟨(h.map trim).filter _, h.any_eq, forall_congr' fun m => ?_⟩
      rw [h.mem_iff]
  | @leaveOut gap _ hgap =>
      have htrim : trim gap = [] := by
        have hnothing : trim (gap ++ ([] ++ [])) = [] := trim_between_blanks hgap (by simp) []
        rwa [List.append_nil, List.append_nil] at hnothing
      have hbar : '|' ∉ gap := fun hmem => not_bar_of_isBlank (hgap _ hmem) rfl
      refine ⟨?_, ?_, ?_⟩
      · rw [valuesAmong_cons, htrim]
        exact .refl _
      · rw [hasNullAmong_cons, htrim]
        rfl
      · simp [hbar]
  | @tighten before m after _ hbefore hafter =>
      have htrim := trim_between_blanks hbefore hafter m
      have hbar : '|' ∉ before ∧ '|' ∉ after :=
        ⟨fun hmem => not_bar_of_isBlank (hbefore _ hmem) rfl,
          fun hmem => not_bar_of_isBlank (hafter _ hmem) rfl⟩
      refine ⟨?_, ?_, ?_⟩
      · rw [valuesAmong_cons, valuesAmong_cons, htrim]
      · rw [hasNullAmong_cons, hasNullAmong_cons, htrim]
      · simp [hbar.1, hbar.2]
  | rename h h' =>
      refine ⟨?_, ?_, ?_⟩
      · rw [valuesAmong_cons_null h, valuesAmong_cons_null h']
      · rw [hasNullAmong_cons_null h, hasNullAmong_cons_null h']
      · simp [(of_isNull h).2, (of_isNull h').2]
  | unrepeat h h' =>
      refine ⟨?_, ?_, ?_⟩
      · rw [valuesAmong_cons_null h]
      · rw [hasNullAmong_cons_null h, hasNullAmong_cons_null h']
      · simp [(of_isNull h).2]

/-- So does any sequence of steps, there or back. -/
theorem alike_of_rewritings (h : Relation.EqvGen Rewriting ms ms') : Alike ms ms' := by
  induction h with
  | rel _ _ h => exact h.alike
  | refl ms => exact ⟨.refl _, rfl, Iff.rfl⟩
  | symm _ _ _ ih => exact ih.symm
  | trans _ _ _ _ _ ih ih' => exact ih.trans ih'

/-! ## The type of a union -/

/-- The only member that stands for a value gives the type. -/
theorem valueType_of_singleton {m : Text} (h : values t = [m]) :
    valueType v t = TypeExpr.ofInterface v m := by
  rw [valueType, h]

theorem valueType_of_length_ne_one (h : (values t).length ≠ 1) :
    valueType v t = TypeExpr.ofInterface v "unknown".toList := by
  rw [valueType]
  split
  · rename_i hvalues
    rw [hvalues] at h
    exact absurd rfl h
  · rfl

/-- The order of the members that stand for values does not matter. -/
theorem valueType_congr {t' : Text} (h : (values t).Perm (values t')) :
    valueType v t = valueType v t' := by
  by_cases hone : (values t).length = 1
  · obtain ⟨m, hm⟩ := List.length_eq_one_iff.mp hone
    rw [hm, List.singleton_perm] at h
    rw [valueType_of_singleton hm, valueType_of_singleton h.symm]
  · rw [valueType_of_length_ne_one hone, valueType_of_length_ne_one (h.length_eq ▸ hone)]

theorem plain_valueType (v : Vocabulary) (t : Text) :
    (valueType v t).isNullable = false ∧ (valueType v t).hasMapping = false := by
  rw [valueType]
  split <;> exact TypeExpr.plain_ofInterface v _

/-- Members that count alike make one type. -/
theorem Alike.toType_eq (h : Alike ms ms') (hms : ∀ m ∈ ms, '|' ∉ m) (optional : Bool) :
    toType v optional (ofMembers ms) = toType v optional (ofMembers ms') := by
  have hms' := h.noBars_iff.mp hms
  have hvalues : (values (ofMembers ms)).Perm (values (ofMembers ms')) := by
    rw [values_ofMembers hms, values_ofMembers hms']
    exact h.perm_values
  rw [toType, toType, hasNull_ofMembers hms, hasNull_ofMembers hms', h.hasNull_eq,
    valueType_congr hvalues]

/-- **The type of a union does not depend on how the union is written.**
Members without bars may change their order, get or lose blanks around
them, stand among blank members, and the words for the absence of a value
may be exchanged and repeated: the type is the same. It is nullable at most
as a whole, exactly if there is such a word and the property cannot be left
out. Inside, it is the type of the only other member that is not blank, or
that of `unknown` if there is none or more than one, and there it is
neither nullable nor a map. -/
theorem toType_of_rewritings (v : Vocabulary) (optional : Bool) (hms : ∀ m ∈ ms, '|' ∉ m) :
    (∀ ms', Relation.EqvGen Rewriting ms ms' →
      toType v optional (ofMembers ms') = toType v optional (ofMembers ms)) ∧
    ∃ inner : TypeExpr,
      toType v optional (ofMembers ms)
        = (if hasNullAmong ms && !optional then .nullable inner else inner) ∧
      (∀ m, valuesAmong ms = [m] → inner = TypeExpr.ofInterface v m) ∧
      ((valuesAmong ms).length ≠ 1 → inner = TypeExpr.ofInterface v "unknown".toList) ∧
      inner.isNullable = false ∧ inner.hasMapping = false := by
  have hvalues := values_ofMembers hms
  refine ⟨fun ms' h => ((alike_of_rewritings h).toType_eq hms optional).symm,
    valueType v (ofMembers ms), ?_, fun m hm => ?_, fun hlength => ?_, plain_valueType v _⟩
  · rw [toType, hasNull_ofMembers hms]
  · exact valueType_of_singleton (hvalues.trans hm)
  · exact valueType_of_length_ne_one (hvalues ▸ hlength)

/-- The union ` null |Crew[]`, also written `undefined||Crew[]`. -/
theorem toType_of_rewritings_crew :
    let v := Vocabulary.default
    let ms : List Text := [" null ".toList, "Crew[]".toList]
    (∀ m ∈ ms, '|' ∉ m) ∧
      toType v false "undefined||Crew[]".toList = toType v false " null |Crew[]".toList ∧
      toType v false " null |Crew[]".toList = .nullable (TypeExpr.ofInterface v "Crew[]".toList) ∧
      toType v true " null |Crew[]".toList = TypeExpr.ofInterface v "Crew[]".toList := by
  intro v ms
  have hms : ∀ m ∈ ms, '|' ∉ m := by decide
  have hrewritings : Relation.EqvGen Rewriting ms
      ["undefined".toList, [], "Crew[]".toList] := by
    have htight : Rewriting (([' '] ++ ("null".toList ++ [' '])) :: ["Crew[]".toList])
        ["null".toList, "Crew[]".toList] :=
      .tighten (List.all_eq_true.mp (by decide)) (List.all_eq_true.mp (by decide))
    have hrenamed : Rewriting ["null".toList, "Crew[]".toList]
        ["undefined".toList, "Crew[]".toList] := .rename (by decide) (by decide)
    have hblank : Rewriting [[], "undefined".toList, "Crew[]".toList]
        ["undefined".toList, "Crew[]".toList] := .leaveOut (by simp)
    have hmoved : Rewriting [[], "undefined".toList, "Crew[]".toList]
        ["undefined".toList, [], "Crew[]".toList] := .permute (.swap _ _ _)
    exact (((Relation.EqvGen.rel _ _ htight).trans _ _ _ (.rel _ _ hrenamed)).trans _ _ _
      (.symm _ _ (.rel _ _ hblank))).trans _ _ _ (.rel _ _ hmoved)
  have hvalues : valuesAmong ms = ["Crew[]".toList] := by decide
  obtain ⟨hsame, inner, htype, hinner, -⟩ := toType_of_rewritings v false hms
  obtain ⟨-, inner', htype', hinner', -⟩ := toType_of_rewritings v true hms
  rw [hinner _ hvalues] at htype
  rw [hinner' _ hvalues] at htype'
  exact ⟨hms, hsame _ hrewritings, htype, htype'⟩

end Union

end WireTypes
