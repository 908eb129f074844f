import WireTypes.Proofs.Text.Lowercase

/-!
# Text — Letter case in ASCII

On ASCII characters the full case mappings are the simple ones: a letter
has one letter of the other case, and all other characters stay as they
are. There are few ASCII characters, so the kernel looks each fact up for
all of them once (`forall_ascii`).
-/

namespace WireTypes.Text

variable {c : Char} {t : Text}

/-- An ASCII character. -/
def isAscii (c : Char) : Bool := c.toNat < 128

/-- A property of all ASCII characters, looked up one by one. -/
theorem forall_ascii {P : Char → Prop} (h : ∀ n ∈ List.range 128, P (Char.ofNat n))
    (hc : isAscii c = true) : P c := by
  rw [isAscii, decide_eq_true_eq] at hc
  have hfound := h c.toNat (List.mem_range.mpr hc)
  rwa [Char.ofNat_toNat] at hfound

/-! ## Classes -/

theorem isAscii_of_le {bound : Char} (h : c ≤ bound) (hbound : isAscii bound = true) :
    isAscii c = true := by
  rw [isAscii, decide_eq_true_eq] at hbound ⊢
  exact lt_of_le_of_lt h hbound

theorem isAscii_of_isAsciiLower (h : isAsciiLower c = true) : isAscii c = true := by
  rw [isAsciiLower, Bool.and_eq_true, decide_eq_true_eq, decide_eq_true_eq] at h
  exact isAscii_of_le h.2 (by decide)

theorem isAscii_of_isAsciiUpper (h : isAsciiUpper c = true) : isAscii c = true := by
  rw [isAsciiUpper, Bool.and_eq_true, decide_eq_true_eq, decide_eq_true_eq] at h
  exact isAscii_of_le h.2 (by decide)

theorem isAscii_of_isAsciiDigit (h : isAsciiDigit c = true) : isAscii c = true := by
  rw [isAsciiDigit, Bool.and_eq_true, decide_eq_true_eq, decide_eq_true_eq] at h
  exact isAscii_of_le h.2 (by decide)

/-! ## Case mappings -/

theorem lowerChar_of_isAscii (h : isAscii c = true) : lowerChar c = [c.toLower] :=
  forall_ascii (P := fun c => lowerChar c = [c.toLower]) (by decide +kernel) h

theorem upperChar_of_isAscii (h : isAscii c = true) : upperChar c = [c.toUpper] :=
  forall_ascii (P := fun c => upperChar c = [c.toUpper]) (by decide +kernel) h

theorem isLower_eq_isAsciiLower (h : isAscii c = true) : isLower c = isAsciiLower c :=
  forall_ascii (P := fun c => isLower c = isAsciiLower c) (by decide +kernel) h

/-! ## A letter and its other case -/

theorem isAsciiUpper_toUpper (h : isAsciiLower c = true) : isAsciiUpper c.toUpper = true :=
  forall_ascii (P := fun c => isAsciiLower c = true → isAsciiUpper c.toUpper = true)
    (by decide +kernel) (isAscii_of_isAsciiLower h) h

theorem toLower_toUpper (h : isAsciiLower c = true) : c.toUpper.toLower = c :=
  forall_ascii (P := fun c => isAsciiLower c = true → c.toUpper.toLower = c)
    (by decide +kernel) (isAscii_of_isAsciiLower h) h

theorem isAsciiLower_toLower (h : isAsciiUpper c = true) : isAsciiLower c.toLower = true :=
  forall_ascii (P := fun c => isAsciiUpper c = true → isAsciiLower c.toLower = true)
    (by decide +kernel) (isAscii_of_isAsciiUpper h) h

theorem toUpper_toLower (h : isAsciiUpper c = true) : c.toLower.toUpper = c :=
  forall_ascii (P := fun c => isAsciiUpper c = true → c.toLower.toUpper = c)
    (by decide +kernel) (isAscii_of_isAsciiUpper h) h

theorem not_isAsciiLower_of_isAsciiUpper (h : isAsciiUpper c = true) : isAsciiLower c = false :=
  forall_ascii (P := fun c => isAsciiUpper c = true → isAsciiLower c = false)
    (by decide +kernel) (isAscii_of_isAsciiUpper h) h

/-! ## Texts -/

/-- The lowercase form of an ASCII text goes character by character. -/
theorem lower_of_ascii (h : ∀ c ∈ t, isAscii c = true) : lower t = t.map Char.toLower := by
  have hafter : ∀ before : Text, lowerAfter before t = t.map Char.toLower := by
    induction t with
    | nil => exact fun _ => rfl
    | cons c t ih =>
        intro before
        have hc : isAscii c = true := h c (by simp)
        have hsigma : c ≠ 'Σ' := by
          rintro rfl
          exact absurd hc (by decide)
        rw [lowerAfter, if_neg hsigma, lowerChar_of_isAscii hc,
          ih (fun d hd => h d (by simp [hd])) (c :: before), List.map_cons, List.singleton_append]
  exact hafter []

end WireTypes.Text
