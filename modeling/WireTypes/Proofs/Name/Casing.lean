import Mathlib.Data.List.Chain
import WireTypes.Proofs.Text.Ascii

/-!
# Name — Two casings of one name

The Pascal and the camel form of an ASCII name are the same folded words
but for the case of the first character (`Casing.spell_eq`). Folding
leaves no underscore before a small letter, and changing the case of the
first character brings none back, so a name in either form is not folded
again. The case that is chosen last is therefore all that counts
(`Casing.spell_spell`), and an exported name that is folded already is its
own Pascal form.
-/

namespace WireTypes.Name

open Text

variable {c : Char} {t name : Text}

/-! ## Folded names -/

/-- No underscore stands directly before a small letter. -/
def IsFolded (t : Text) : Prop := t.IsChain fun a b => ¬ (a = '_' ∧ isAsciiLower b = true)

instance : Decidable (IsFolded t) :=
  inferInstanceAs (Decidable (t.IsChain fun a b => ¬ (a = '_' ∧ isAsciiLower b = true)))

/-- The first character of a folded name was there before, or it is the
capital of a word. -/
theorem mem_head?_of_foldWords (t : Text) :
    ∀ c ∈ (foldWords t).head?, isAsciiUpper c = true ∨ c ∈ t.head? := by
  fun_cases foldWords t with
  | case1 d rest hlower =>
      rintro c ⟨⟩
      exact Or.inl (isAsciiUpper_toUpper hlower)
  | case2 d rest hlower => exact fun _ hc => Or.inr hc
  | case3 d rest _ => exact fun _ hc => Or.inr hc
  | case4 => exact fun _ hc => Or.inr hc

theorem isFolded_foldWords (t : Text) : IsFolded (foldWords t) := by
  fun_induction foldWords t with
  | case1 c rest hlower ih =>
      refine List.isChain_cons.mpr ⟨fun d _ h => ?_, ih⟩
      exact ne_of_class (isAsciiUpper_toUpper hlower) (by decide) h.1
  | case2 c rest hlower ih =>
      refine List.isChain_cons.mpr ⟨fun d hd h => ?_, ih⟩
      rcases mem_head?_of_foldWords (c :: rest) d hd with hupper | hfirst
      · rw [not_isAsciiLower_of_isAsciiUpper hupper] at h
        exact absurd h.2 (by decide)
      · rw [Option.some.inj hfirst] at hlower
        exact hlower h.2
  | case3 c rest hlast ih =>
      refine List.isChain_cons.mpr ⟨fun d hd h => ?_, ih⟩
      -- only at the end is an underscore kept without looking on
      cases rest with
      | nil => cases hd
      | cons e rest => exact hlast e rest h.1 rfl
  | case4 => exact List.isChain_nil

theorem foldWords_eq_self (h : IsFolded t) : foldWords t = t := by
  fun_induction foldWords t with
  | case1 c rest hlower ih => exact absurd ⟨rfl, hlower⟩ (List.isChain_cons_cons.mp h).1
  | case2 c rest hlower ih => rw [ih h.tail]
  | case3 c rest _ ih => rw [ih h.tail]
  | case4 => rfl

theorem isAscii_of_mem_foldWords (h : ∀ c ∈ name, isAscii c = true) :
    ∀ c ∈ foldWords name, isAscii c = true := by
  intro c hc
  rcases mem_foldWords hc with hc | ⟨d, -, hlower, rfl⟩
  · exact h c hc
  · exact isAscii_of_isAsciiUpper (isAsciiUpper_toUpper hlower)

/-! ## The two casings -/

/-- The two ways to spell a name that words are folded in. -/
inductive Casing where
  | pascal
  | camel
deriving DecidableEq, Repr

namespace Casing

/-- The name in a casing. -/
def spell : Casing → Text → Text
  | pascal => Name.pascal
  | camel => Name.camel

/-- The first character of a name in a casing. -/
def first : Casing → Char → Char
  | pascal => Char.toUpper
  | camel => Char.toLower

variable {k : Casing}

/-- What a case keeps of an ASCII character. -/
structure KeepsKind (c d : Char) : Prop where
  ascii : isAscii d = true
  underscore : d = '_' → c = '_'
  word : isWord c = true → isWord d = true

instance (c d : Char) : Decidable (KeepsKind c d) :=
  decidable_of_iff (isAscii d = true ∧ (d = '_' → c = '_') ∧ (isWord c = true → isWord d = true))
    ⟨fun h => ⟨h.1, h.2.1, h.2.2⟩, fun h => ⟨h.1, h.2, h.3⟩⟩

theorem keepsKind_first (k : Casing) (hc : isAscii c = true) : KeepsKind c (k.first c) := by
  cases k with
  | pascal => exact forall_ascii (P := fun c => KeepsKind c c.toUpper) (by decide +kernel) hc
  | camel => exact forall_ascii (P := fun c => KeepsKind c c.toLower) (by decide +kernel) hc

/-- The case that is chosen last counts. -/
theorem first_first (k k' : Casing) (hc : isAscii c = true) :
    k.first (k'.first c) = k.first c := by
  refine forall_ascii (P := fun c => k.first (k'.first c) = k.first c) ?_ hc
  cases k <;> cases k' <;> decide +kernel

/-- A first character that is spelled as one, in place of a text. -/
theorem recase_eq_modifyHead {p : Char → Bool} {g : Char → Text} {f : Char → Char}
    (h : ∀ c ∈ t, (if p c then g c else [c]) = [f c]) : recase p g t = t.modifyHead f := by
  cases t with
  | nil => rfl
  | cons c t =>
      have hc := h c (by simp)
      rw [recase, List.modifyHead_cons]
      split at hc
      · rename_i hp
        rw [if_pos hp, hc, List.singleton_append]
      · rename_i hp
        rw [if_neg hp, ← List.head_eq_of_cons_eq hc]

/-- An ASCII name is spelled with one case or the other at the start of
its folded words. -/
theorem spell_eq (k : Casing) (h : ∀ c ∈ name, isAscii c = true) :
    k.spell name = (foldWords name).modifyHead k.first := by
  have hfolded := isAscii_of_mem_foldWords h
  cases k with
  | pascal =>
      rw [spell, pascal_eq]
      exact recase_eq_modifyHead fun c hc =>
        forall_ascii (P := fun c => (if isLower c then upperChar c else [c]) = [c.toUpper])
          (by decide +kernel) (hfolded c hc)
  | camel =>
      rw [spell, camel_eq]
      exact recase_eq_modifyHead fun c hc =>
        forall_ascii (P := fun c => (if isUpper c then lowerChar c else [c]) = [c.toLower])
          (by decide +kernel) (hfolded c hc)

theorem exists_of_mem_spell (h : ∀ c ∈ name, isAscii c = true) {x : Char} (hx : x ∈ k.spell name) :
    ∃ c ∈ foldWords name, KeepsKind c x := by
  have hfolded := isAscii_of_mem_foldWords h
  rw [spell_eq k h] at hx
  cases hname : foldWords name with
  | nil =>
      rw [hname] at hx
      exact nomatch hx
  | cons c rest =>
      rw [hname] at hx hfolded
      rcases List.mem_cons.mp hx with rfl | hx
      · exact ⟨c, by simp, keepsKind_first k (hfolded c (by simp))⟩
      · have hmem := List.mem_cons_of_mem c hx
        exact ⟨x, hmem, hfolded x hmem, id, id⟩

theorem isAscii_of_mem_spell (h : ∀ c ∈ name, isAscii c = true) :
    ∀ c ∈ k.spell name, isAscii c = true := by
  intro c hc
  obtain ⟨_, -, hkind⟩ := exists_of_mem_spell h hc
  exact hkind.ascii

theorem isWord_of_mem_spell (h : ∀ c ∈ name, isAscii c = true)
    (hword : ∀ c ∈ name, isWord c = true) : ∀ c ∈ k.spell name, isWord c = true := by
  intro c hc
  obtain ⟨d, hd, hkind⟩ := exists_of_mem_spell h hc
  exact hkind.word (isWord_of_mem_foldWords hword d hd)

theorem isFolded_modifyHead (k : Casing) (h : ∀ c ∈ t, isAscii c = true) (hfolded : IsFolded t) :
    IsFolded (t.modifyHead k.first) := by
  cases t with
  | nil => exact hfolded
  | cons c t =>
      obtain ⟨hfirst, hrest⟩ := List.isChain_cons.mp hfolded
      refine List.isChain_cons.mpr ⟨fun d hd hboth => hfirst d hd ⟨?_, hboth.2⟩, hrest⟩
      exact (keepsKind_first k (h c (by simp))).underscore hboth.1

/-- A name in a casing has no words left to fold. -/
theorem foldWords_spell (k : Casing) (h : ∀ c ∈ name, isAscii c = true) :
    foldWords (k.spell name) = k.spell name := by
  rw [spell_eq k h]
  exact foldWords_eq_self
    (isFolded_modifyHead k (isAscii_of_mem_foldWords h) (isFolded_foldWords name))

/-- **The casing that is chosen last is all that counts.** -/
theorem spell_spell (k k' : Casing) (h : ∀ c ∈ name, isAscii c = true) :
    k.spell (k'.spell name) = k.spell name := by
  have hfolded := isAscii_of_mem_foldWords h
  rw [spell_eq k (isAscii_of_mem_spell h), foldWords_spell k' h, spell_eq k' h, spell_eq k h]
  cases hname : foldWords name with
  | nil => rfl
  | cons c rest =>
      rw [List.modifyHead_cons, List.modifyHead_cons, List.modifyHead_cons,
        first_first k k' (hfolded c (by simp [hname]))]

end Casing

/-- A folded name with a capital at its start is its own Pascal form, and
so that of its camel form. -/
theorem pascal_camel_eq_self (h : ∀ c ∈ name, isAscii c = true)
    (hcapital : ∃ c ∈ name.head?, isAsciiUpper c = true) (hfolded : IsFolded name) :
    pascal (camel name) = name := by
  have hpascal : pascal name = name := by
    obtain ⟨c, hc, hupper⟩ := hcapital
    obtain ⟨rest, rfl⟩ := List.head?_eq_some_iff.mp hc
    have hlower : isLower c = false := by
      rw [isLower_eq_isAsciiLower (isAscii_of_isAsciiUpper hupper),
        not_isAsciiLower_of_isAsciiUpper hupper]
    rw [pascal_eq, foldWords_eq_self hfolded, recase, hlower, if_neg Bool.false_ne_true]
  exact (Casing.spell_spell .pascal .camel h).trans hpascal

end WireTypes.Name
