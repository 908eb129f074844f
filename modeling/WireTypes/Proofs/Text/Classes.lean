import Mathlib.Data.List.Basic
import Mathlib.Data.List.TakeWhile
import WireTypes.Struct.FieldLine

/-!
# Text — Classes of characters

A class of characters is a table of code points, so a fact about the
class is a fact about the entries of its table, and the kernel settles
it once. Everything later argues from the class lemmas here and never
opens a table again.
-/

namespace WireTypes.Text

/-! ## Members of ranges -/

/-- A code point that some ranges contain lies in one of them. -/
theorem Ranges.exists_of_contains {rs : Ranges} {n : Nat}
    (h : rs.contains n = true) : ∃ r ∈ rs, r.1 ≤ n ∧ n ≤ r.2 := by
  induction rs with
  | nil => simp [Ranges.contains] at h
  | cons r rest ih =>
      obtain ⟨first, last⟩ := r
      simp only [Ranges.contains, Bool.and_eq_true, Bool.or_eq_true,
        decide_eq_true_eq] at h
      rcases h with ⟨hfirst, hlast | hrest⟩
      · exact ⟨(first, last), by simp, hfirst, hlast⟩
      · obtain ⟨r, hr, hn⟩ := ih hrest
        exact ⟨r, by simp [hr], hn⟩

/-- The code points of some ranges, one by one. -/
def Ranges.members (rs : Ranges) : List Nat :=
  rs.flatMap fun r => List.range' r.1 (r.2 + 1 - r.1)

theorem Ranges.mem_members {rs : Ranges} {n : Nat} (h : rs.contains n = true) :
    n ∈ rs.members := by
  obtain ⟨r, hr, hfirst, hlast⟩ := Ranges.exists_of_contains h
  exact List.mem_flatMap.mpr ⟨r, hr, List.mem_range'_1.mpr ⟨hfirst, by omega⟩⟩

/-! ## Inside and outside a class -/

variable {p : Char → Bool} {c d : Char}

/-- A character of a class is none that the class leaves out. -/
theorem ne_of_class (hc : p c = true) (hd : p d = false) : c ≠ d := by
  rintro rfl
  rw [hc] at hd
  exact absurd hd (by decide)

/-- A text of a class does not hold what the class leaves out. -/
theorem not_mem_of_class {t : Text} (h : ∀ c ∈ t, p c = true) (hd : p d = false) : d ∉ t :=
  fun hmem => ne_of_class (h d hmem) hd rfl

theorem ne_singleton_of_class {t : Text} (h : ∀ c ∈ t, p c = true) (hd : p d = false) :
    t ≠ [d] := by
  rintro rfl
  exact not_mem_of_class h hd (List.mem_singleton_self d)

/-! ## Blanks, word characters, type characters -/

/-- No blank is a word character: the few blanks are looked up one by
one among the many word characters. -/
private theorem blankRanges_not_word :
    ∀ n ∈ blankRanges.members, wordRanges.contains n = false := by
  decide +kernel

theorem isWord_of_isBlank (h : isBlank c = true) : isWord c = false :=
  blankRanges_not_word c.toNat (Ranges.mem_members h)

theorem isBlank_of_isWord (h : isWord c = true) : isBlank c = false := by
  cases hb : isBlank c with
  | false => rfl
  | true => rw [isWord_of_isBlank hb] at h; exact absurd h (by decide)

/-- A line feed is a blank, so it stands in no run of other characters. -/
theorem isBlank_newline : isBlank '\n' = true := by decide

theorem isBlank_space : isBlank ' ' = true := by decide

/-! ## Key characters -/

/-- A character that stands for itself in the name of a tag: it is no
blank, ends neither the name nor the value nor the tag, and is not the
dash that takes a field out of the serialised form. -/
def isKeyChar (c : Char) : Bool :=
  !isBlank c && c != '"' && c != ',' && c != '`' && c != '-'

theorem isKeyChar_of_isWord (h : isWord c = true) : isKeyChar c = true := by
  have hquote : c ≠ '"' := ne_of_class h (by decide)
  have hcomma : c ≠ ',' := ne_of_class h (by decide)
  have hback : c ≠ '`' := ne_of_class h (by decide)
  have hdash : c ≠ '-' := ne_of_class h (by decide)
  simp [isKeyChar, isBlank_of_isWord h, hquote, hcomma, hback, hdash]

theorem isBlank_of_isKeyChar (h : isKeyChar c = true) : isBlank c = false := by
  simp only [isKeyChar, Bool.and_eq_true, Bool.not_eq_true'] at h
  exact h.1.1.1.1

end WireTypes.Text

namespace WireTypes

open Text

/-- No character of a type is a blank. -/
theorem isBlank_of_isStructTypeChar {c : Char} (h : isStructTypeChar c = true) :
    isBlank c = false := by
  simp only [isStructTypeChar, Bool.or_eq_true, beq_iff_eq] at h
  rcases h with (((((h | rfl) | rfl) | rfl) | rfl) | rfl) | rfl
  · exact isBlank_of_isWord h
  all_goals decide

theorem isStructTypeChar_of_isBlank {c : Char} (h : isBlank c = true) :
    isStructTypeChar c = false := by
  cases ht : isStructTypeChar c with
  | false => rfl
  | true => rw [isBlank_of_isStructTypeChar ht] at h; exact absurd h (by decide)

theorem isStructTypeChar_of_isWord {c : Char} (h : isWord c = true) :
    isStructTypeChar c = true := by
  simp [isStructTypeChar, h]

end WireTypes
