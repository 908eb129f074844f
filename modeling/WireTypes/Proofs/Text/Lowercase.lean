import WireTypes.Proofs.Name.Characters

/-!
# Text — The lowercase form is final

Lowering a text twice is lowering it once. A shift moves a stride of code
points, and two shifts of the lowercase table miss each other: what one
leads to, no other moves, since their code points are ranges apart or
differ in parity (`Shift.misses`). The kernel looks at each pair of them
once; so a lowercase character stays as it is, and so does a text of them.
-/

namespace WireTypes.Text

variable {ss : Shifts} {s r : Shift} {n m : Nat} {c x : Char} {t : Text}

/-! ## Shifts that miss each other -/

/-- Whether the shift moves code points of one parity only: every second
one, or one alone. -/
def Shift.keepsParity (s : Shift) : Bool := s.step == 2 || s.first == s.last

/-- Whether the targets of `s` and the code points that `r` moves are
ranges apart or differ in parity. -/
def Shift.misses (s r : Shift) : Bool :=
  Nat.blt (s.target + (s.last - s.first)) r.first || Nat.blt r.last s.target ||
    (s.keepsParity && r.keepsParity && (s.target + r.first) % 2 == 1)

theorem Shift.Moves.even_sub (h : s.Moves n) (hs : s.keepsParity = true) :
    (n - s.first) % 2 = 0 := by
  obtain ⟨hfirst, hlast, hstep⟩ := h
  rw [keepsParity, Bool.or_eq_true, beq_iff_eq, beq_iff_eq] at hs
  rcases hs with hs | hs
  · rwa [hs] at hstep
  · have hn : n - s.first = 0 := by omega
    rw [hn]

/-- What a shift leads to, one that it misses does not move. -/
theorem Shift.Moves.not_moves (h : s.Moves n) (hmiss : s.misses r = true) :
    ¬ r.Moves (s.target + (n - s.first)) := by
  intro hr
  have hrange : n - s.first ≤ s.last - s.first := Nat.sub_le_sub_right h.2.1 s.first
  have hlow : r.first ≤ s.target + (n - s.first) := hr.1
  have hhigh : s.target + (n - s.first) ≤ r.last := hr.2.1
  simp only [misses, Bool.or_eq_true, Bool.and_eq_true, Nat.blt_eq, beq_iff_eq] at hmiss
  rcases hmiss with (habove | hbelow) | ⟨⟨hs, hparity⟩, hodd⟩
  · omega
  · omega
  · have hfrom := h.even_sub hs
    have hto := hr.even_sub hparity
    omega

theorem Shifts.image?_eq_none (h : ∀ s ∈ ss, ¬ s.Moves n) : ss.image? n = none := by
  cases himage : ss.image? n with
  | none => rfl
  | some m =>
      obtain ⟨s, hs, hmoves, -⟩ := Shifts.exists_moves himage
      exact absurd hmoves (h s hs)

/-- The capital I with a dot, whose lowercase form is two characters, as a
shift that moves it alone. -/
def dottedShift : Shift := ⟨'İ'.toNat, 'İ'.toNat, 1, 'i'.toNat⟩

/-- The shifts of the lowercase table miss each other and the dotted one. -/
private theorem lowerShifts_miss :
    (lowerShifts.all fun s => s.misses dottedShift && lowerShifts.all s.misses) = true := by
  decide +kernel

/-! ## Lowercase characters -/

theorem lowerChar_of_image?_eq_none (hdot : c ≠ 'İ') (h : lowerShifts.image? c.toNat = none) :
    lowerChar c = [c] := by
  rw [lowerChar, if_neg hdot, h]

/-- What the lowercase table leads to stays as it is. -/
theorem lowerChar_of_image (h : lowerShifts.image? n = some m) :
    lowerChar (Char.ofNat m) = [Char.ofNat m] := by
  obtain ⟨s, hs, hmoves, rfl⟩ := Shifts.exists_moves h
  obtain ⟨hdotted, htable⟩ : s.misses dottedShift = true ∧ lowerShifts.all s.misses = true :=
    Bool.and_eq_true_iff.mp (List.all_eq_true.mp lowerShifts_miss s hs)
  have hmiss := List.all_eq_true.mp htable
  -- a code point that no character has counts as zero, which is no letter
  by_cases hvalid : (s.target + (n - s.first)).isValidChar
  · have hcode : (Char.ofNat (s.target + (n - s.first))).toNat = s.target + (n - s.first) := by
      rw [Char.ofNat, dif_pos hvalid]
      rfl
    refine lowerChar_of_image?_eq_none ?_ ?_
    · intro hdot
      rw [hdot] at hcode
      refine hmoves.not_moves hdotted ?_
      rw [← hcode]
      exact ⟨Nat.le_refl _, Nat.le_refl _, Nat.mod_one _⟩
    · rw [hcode]
      exact Shifts.image?_eq_none fun r hr => hmoves.not_moves (hmiss r hr)
  · rw [Char.ofNat, dif_neg hvalid]
    rfl

/-- **A lowercase character stays as it is.** -/
theorem lowerChar_of_mem (h : x ∈ lowerChar c) : lowerChar x = [x] := by
  rw [lowerChar] at h
  split at h
  · simp only [List.mem_cons, List.not_mem_nil, or_false] at h
    rcases h with rfl | rfl <;> rfl
  · rename_i hdot
    split at h
    · rename_i m hm
      rw [List.mem_singleton.mp h]
      exact lowerChar_of_image hm
    · rename_i hnone
      rw [List.mem_singleton.mp h]
      exact lowerChar_of_image?_eq_none hdot hnone

/-! ## Lowercase texts -/

theorem lowerChar_of_mem_lower (h : x ∈ lower t) : lowerChar x = [x] := by
  rcases mem_lowerAfter h with rfl | rfl | ⟨c, -, hx⟩
  · rfl
  · rfl
  · exact lowerChar_of_mem hx

/-- A text of lowercase characters stays as it is: no capital sigma is
among them, whose form the context would choose. -/
theorem lowerAfter_eq_self {before : Text} (h : ∀ c ∈ t, lowerChar c = [c]) :
    lowerAfter before t = t := by
  induction t generalizing before with
  | nil => rfl
  | cons c t ih =>
      have hc : lowerChar c = [c] := h c (by simp)
      have hsigma : c ≠ 'Σ' := by
        rintro rfl
        exact absurd hc (by decide)
      rw [lowerAfter, if_neg hsigma, hc, ih fun d hd => h d (by simp [hd]), List.singleton_append]

/-- **The lowercase form of a text is its own.** -/
theorem lower_lower (t : Text) : lower (lower t) = lower t :=
  lowerAfter_eq_self fun _ hc => lowerChar_of_mem_lower hc

end WireTypes.Text
