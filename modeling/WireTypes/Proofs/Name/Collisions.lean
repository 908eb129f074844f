import WireTypes.Proofs.Name.Casing
import WireTypes.Proofs.Name.Words

/-!
# Name — Names with one Pascal form

Folding makes one name of `user_name` and `userName`, and a capital is put
at the start of both `userName` and `UserName`. Nothing else is lost:
writing each capital out again undoes the folding (`unfoldWords_foldWords`),
so two names share a Pascal form exactly when they are the same with a
capital at the start and all capitals written out (`pascal_eq_pascal_iff`).
Names of one spelling are told apart (`Spelling.pascal_injOn`).
-/

namespace WireTypes.Name

open Text

variable {c : Char} {s t : Text}

/-! ## Words written out -/

theorem not_isAsciiUpper_of_isAsciiLower (h : isAsciiLower c = true) : isAsciiUpper c = false :=
  not_isAsciiUpper_of_isSmall (by rw [isSmall, h, Bool.true_or])

/-- What is folded is written out as it was. -/
theorem unfoldWords_foldWords (t : Text) : unfoldWords (foldWords t) = unfoldWords t := by
  fun_induction foldWords t with
  | case1 c rest hlower ih =>
      rw [unfoldWords_cons_of_upper (isAsciiUpper_toUpper hlower), toLower_toUpper hlower, ih,
        unfoldWords_cons (by decide),
        unfoldWords_cons (not_isAsciiUpper_of_isAsciiLower hlower)]
  | case2 c rest hlower ih =>
      rw [unfoldWords_cons (by decide), ih, unfoldWords_cons (c := '_') (by decide)]
  | case3 c rest _ ih =>
      cases hupper : isAsciiUpper c with
      | true => rw [unfoldWords_cons_of_upper hupper, unfoldWords_cons_of_upper hupper, ih]
      | false => rw [unfoldWords_cons hupper, unfoldWords_cons hupper, ih]
  | case4 => rfl

/-- An underscore is kept before what is no small letter. -/
theorem foldWords_underscore (h : StartsOutside isAsciiLower t) :
    foldWords ('_' :: t) = '_' :: foldWords t := by
  cases t with
  | nil => rfl
  | cons c t => rw [foldWords, startsOutside_cons.mp h, if_neg Bool.false_ne_true]

theorem startsOutside_unfoldWords (h : isAsciiLower c = false) (t : Text) :
    StartsOutside isAsciiLower (unfoldWords (c :: t)) := by
  cases hupper : isAsciiUpper c with
  | true =>
      rw [unfoldWords_cons_of_upper hupper, startsOutside_cons]
      decide
  | false => rwa [unfoldWords_cons hupper, startsOutside_cons]

/-- What is written out is folded as before. -/
theorem foldWords_unfoldWords (t : Text) : foldWords (unfoldWords t) = foldWords t := by
  fun_induction foldWords t with
  | case1 c rest hlower ih =>
      rw [unfoldWords_cons (by decide),
        unfoldWords_cons (not_isAsciiUpper_of_isAsciiLower hlower), foldWords, if_pos hlower, ih]
  | case2 c rest hlower ih =>
      rw [unfoldWords_cons (by decide),
        foldWords_underscore (startsOutside_unfoldWords (Bool.eq_false_of_not_eq_true hlower) rest),
        ih]
  | case3 c rest hlast ih =>
      cases hupper : isAsciiUpper c with
      | true =>
          rw [unfoldWords_cons_of_upper hupper, foldWords, if_pos (isAsciiLower_toLower hupper),
            toUpper_toLower hupper, ih]
      | false =>
          rw [unfoldWords_cons hupper]
          by_cases hc : c = '_'
          · -- an underscore that nothing follows
            cases rest with
            | nil => rw [hc]; rfl
            | cons d rest => exact absurd rfl (hlast d rest hc)
          · rw [foldWords_cons hc, ih]
  | case4 => rfl

theorem foldWords_eq_foldWords_iff : foldWords s = foldWords t ↔ unfoldWords s = unfoldWords t := by
  constructor
  · intro h
    rw [← unfoldWords_foldWords s, h, unfoldWords_foldWords]
  · intro h
    rw [← foldWords_unfoldWords s, h, foldWords_unfoldWords]

/-! ## Names that share a Pascal form -/

theorem not_mem_upperChar (h : c ≠ '_') : '_' ∉ upperChar c := by
  intro hmem
  rcases mem_upperChar hmem with hc | himage
  · exact h hc.symm
  · exact absurd himage (by decide)

/-- It is the same to put the capital at the start before the words are
folded. -/
theorem pascal_eq_foldWords (name : Text) :
    pascal name = foldWords (recase isLower upperChar name) := by
  rw [pascal_eq]
  cases name with
  | nil => rfl
  | cons c rest =>
      cases hlower : isLower c with
      | true =>
          have hc : c ≠ '_' := ne_of_class hlower (by decide)
          rw [foldWords_cons hc, recase, recase, if_pos hlower, if_pos hlower,
            foldWords_append (not_mem_upperChar hc)]
      | false =>
          have hsame : recase isLower upperChar (c :: rest) = c :: rest := by
            rw [recase, hlower, if_neg Bool.false_ne_true]
          rw [hsame]
          have hfirst := mem_head?_of_foldWords (c :: rest)
          cases hfolded : foldWords (c :: rest) with
          | nil => rfl
          | cons d folded =>
              rw [hfolded] at hfirst
              have hd : isLower d = false := by
                rcases hfirst d rfl with hupper | hd
                · rw [isLower_eq_isAsciiLower (isAscii_of_isAsciiUpper hupper),
                    not_isAsciiLower_of_isAsciiUpper hupper]
                · rwa [← Option.some.inj hd]
              rw [recase, hd, if_neg Bool.false_ne_true]

/-- The name with a capital at its start and then all capitals written
out. -/
def spelledOut (name : Text) : Text := unfoldWords (recase isLower upperChar name)

/-- **Two names share a Pascal form exactly if they are the same spelled
out.** -/
theorem pascal_eq_pascal_iff : pascal s = pascal t ↔ spelledOut s = spelledOut t := by
  rw [pascal_eq_foldWords, pascal_eq_foldWords, foldWords_eq_foldWords_iff, spelledOut, spelledOut]

theorem nodup_map_pascal_iff {names : List Text} :
    (names.map pascal).Nodup ↔ (names.map spelledOut).Nodup := by
  simp only [List.Nodup, List.pairwise_map, ne_eq, pascal_eq_pascal_iff]

/-! ## Names of one spelling -/

/-- A folded name has its Pascal form but for the capital. -/
theorem pascal_of_isFolded (h : isAsciiLower c = true) (hfolded : IsFolded (c :: t)) :
    pascal (c :: t) = c.toUpper :: t := by
  rw [pascal_eq, foldWords_eq_self hfolded, recase_of_lower h]

/-- A name without capitals is its spelled out form behind an underscore. -/
theorem spelledOut_of_small (h : isAsciiLower c = true)
    (hsmall : ∀ d ∈ c :: t, isAsciiUpper d = false) : spelledOut (c :: t) = '_' :: c :: t := by
  have ht : ∀ d ∈ t, isAsciiUpper d = false := fun d hd => hsmall d (List.mem_cons_of_mem c hd)
  rw [spelledOut, recase_of_lower h, unfoldWords_cons_of_upper (isAsciiUpper_toUpper h),
    toLower_toUpper h, unfoldWords_eq_self ht]

/-- Two ways to mark the words of a name that starts with a small letter. -/
inductive Spelling where
  /-- By capitals. -/
  | camel
  /-- By underscores. -/
  | snake
deriving DecidableEq, Repr

namespace Spelling

/-- The name has its words marked in this way only. -/
def Admits (k : Spelling) (name : Text) : Prop :=
  name.head?.any isAsciiLower = true ∧
    match k with
    | camel => IsFolded name
    | snake => ∀ c ∈ name, isAsciiUpper c = false

instance (k : Spelling) (name : Text) : Decidable (k.Admits name) :=
  match k with
  | camel => inferInstanceAs (Decidable (_ ∧ IsFolded name))
  | snake => inferInstanceAs (Decidable (_ ∧ ∀ c ∈ name, isAsciiUpper c = false))

theorem Admits.exists_cons {k : Spelling} {name : Text} (h : k.Admits name) :
    ∃ c rest, name = c :: rest ∧ isAsciiLower c = true := by
  cases name with
  | nil => exact absurd h.1 (by decide)
  | cons c rest => exact ⟨c, rest, rfl, h.1⟩

/-- **Names of one spelling have different Pascal forms.** -/
theorem pascal_injOn (k : Spelling) : Set.InjOn pascal {name | k.Admits name} := by
  intro name hname name' hname' h
  obtain ⟨c, rest, rfl, hlower⟩ := Admits.exists_cons hname
  obtain ⟨d, rest', rfl, hlower'⟩ := Admits.exists_cons hname'
  obtain ⟨-, hwords⟩ := hname
  obtain ⟨-, hwords'⟩ := hname'
  cases k with
  | camel =>
      rw [pascal_of_isFolded hlower hwords, pascal_of_isFolded hlower' hwords'] at h
      obtain ⟨hfirst, hrest⟩ := List.cons.inj h
      rw [← toLower_toUpper hlower, hfirst, toLower_toUpper hlower', hrest]
  | snake =>
      rw [pascal_eq_pascal_iff, spelledOut_of_small hlower hwords,
        spelledOut_of_small hlower' hwords'] at h
      exact List.tail_eq_of_cons_eq h

end Spelling

end WireTypes.Name
