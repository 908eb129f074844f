import WireTypes.Json.Printer
import WireTypes.Json.Reader
import WireTypes.Proofs.Text.Runs

/-!
# JSON — Strings and whole numbers are read back

A string that is written between quotes is read back whatever its
characters are, and so is a whole number that is not too long, as long as
nothing behind it goes on with the number. What the reader sees of a string
are code units (`stringUnits_stringChar`); those of a text are its
characters again, since a character is no surrogate (`joinUnits_map_toNat`).
-/

namespace WireTypes.Json

open Text

variable {c : Char} {t rest opening : Text} {n : Nat}

/-! ## Code units -/

theorem isHighSurrogate_toNat (c : Char) : isHighSurrogate c.toNat = false := by
  have hvalid : c.toNat < 0xD800 ∨ 0xDFFF < c.toNat ∧ c.toNat < 0x110000 := c.valid
  simp only [isHighSurrogate, Bool.and_eq_false_iff, decide_eq_false_iff_not]
  omega

theorem isLowSurrogate_toNat (c : Char) : isLowSurrogate c.toNat = false := by
  have hvalid : c.toNat < 0xD800 ∨ 0xDFFF < c.toNat ∧ c.toNat < 0x110000 := c.valid
  simp only [isLowSurrogate, Bool.and_eq_false_iff, decide_eq_false_iff_not]
  omega

theorem unitChar_toNat (c : Char) : unitChar c.toNat = c := by
  rw [unitChar, isHighSurrogate_toNat, isLowSurrogate_toNat]
  exact Char.ofNat_toNat c

theorem joinUnits_map_toNat (t : Text) : joinUnits (t.map Char.toNat) = t := by
  induction t with
  | nil => rfl
  | cons c t ih =>
      cases t with
      | nil => rw [List.map_cons, List.map_nil, joinUnits, unitChar_toNat]
      | cons d t =>
          rw [List.map_cons] at ih
          rw [List.map_cons, List.map_cons, joinUnits, isHighSurrogate_toNat, Bool.false_and,
            if_neg (by simp), unitChar_toNat, ih]

/-! ## Strings -/

/-- A unit in front of those that are read from a text. -/
def withUnit (unit : Nat) (r : Except Fault (List Nat × Text)) : Except Fault (List Nat × Text) :=
  r.map fun (units, rest) => (unit :: units, rest)

theorem bind_eq_withUnit (unit : Nat) (r : Except Fault (List Nat × Text)) :
    (do let (units, rest) ← r; return (unit :: units, rest)) = withUnit unit r := by
  cases r <;> rfl

theorem stringUnits_simpleEscape {letter : Char} (h : simpleEscape? letter = some c) :
    stringUnits opening ('\\' :: letter :: t) = withUnit c.toNat (stringUnits opening t) := by
  have hletter : letter ≠ 'u' := by
    rintro rfl
    cases h
  rw [stringUnits, h]
  · exact bind_eq_withUnit _ _
  · exact fun _ _ _ _ _ _ heq => absurd heq hletter
  · exact hletter

/-- The escape of a control character is read as its number. -/
theorem hexUnit?_hex :
    ∀ n < 0x20, ∃ a b c d, hex 4 n = [a, b, c, d] ∧ hexUnit? a b c d = some n := by
  intro n hn
  refine ⟨_, _, _, _, rfl, ?_⟩
  revert n
  decide

theorem stringUnits_unitEscape (next : Char) (h : n < 0x20) :
    stringUnits opening (unitEscape n ++ next :: rest)
      = withUnit n (stringUnits opening (next :: rest)) := by
  obtain ⟨a, b, c, d, hdigits, hunit⟩ := hexUnit?_hex n h
  rw [unitEscape, hdigits]
  show stringUnits opening ('\\' :: 'u' :: a :: b :: c :: d :: next :: rest) = _
  rw [stringUnits, hunit]
  exact bind_eq_withUnit _ _

theorem stringUnits_self (hquote : c ≠ '"') (hbackslash : c ≠ '\\') (hprints : ¬ c.toNat < 0x20) :
    stringUnits opening (c :: t) = withUnit c.toNat (stringUnits opening t) := by
  rw [stringUnits, if_neg hprints]
  · exact bind_eq_withUnit _ _
  · exact hquote
  · exact fun heq => absurd heq hbackslash
  · exact fun _ _ _ _ _ _ heq => absurd heq hbackslash
  · exact fun _ heq => absurd heq hbackslash
  · exact fun _ _ heq => absurd heq hbackslash

/-- How a character is spelled in a string. -/
inductive Spelling (c : Char) : Text → Prop where
  | escaped {letter : Char} (stands : simpleEscape? letter = some c) : Spelling c ['\\', letter]
  | numeric (control : c.toNat < 0x20) : Spelling c (unitEscape c.toNat)
  | self (quote : c ≠ '"') (backslash : c ≠ '\\') (prints : ¬ c.toNat < 0x20) : Spelling c [c]

theorem spelling_stringChar (c : Char) : Spelling c (stringChar false c) := by
  rw [stringChar]
  split
  · rename_i hplain
    rcases hplain with rfl | rfl
    · exact .escaped rfl
    · exact .escaped rfl
  rename_i hplain
  split
  · rename_i heq
    exact heq ▸ .escaped rfl
  split
  · rename_i heq
    exact heq ▸ .escaped rfl
  split
  · rename_i heq
    exact heq ▸ .escaped rfl
  split
  · rename_i heq
    exact heq ▸ .escaped rfl
  split
  · rename_i heq
    exact heq ▸ .escaped rfl
  split
  · rename_i hcontrol
    have hsmall : c.toNat < 0x20 := by simpa using hcontrol
    rw [unicodeEscape, if_pos (by omega)]
    exact .numeric hsmall
  · rename_i hprints
    rw [not_or] at hplain hprints
    exact .self hplain.1 hplain.2 hprints.1

/-- **A character of a string is read as its number**, however it is
spelled. Behind a numeric escape there must be something: the closing quote
is. -/
theorem stringUnits_stringChar (c next : Char) (rest : Text) :
    stringUnits opening (stringChar false c ++ next :: rest)
      = withUnit c.toNat (stringUnits opening (next :: rest)) := by
  have hspelling := spelling_stringChar c
  generalize stringChar false c = spelled at hspelling ⊢
  cases hspelling with
  | escaped stands => exact stringUnits_simpleEscape stands
  | numeric control => exact stringUnits_unitEscape next control
  | self quote backslash prints => exact stringUnits_self quote backslash prints

theorem stringUnits_flatMap (t rest : Text) :
    stringUnits opening (t.flatMap (stringChar false) ++ '"' :: rest)
      = .ok (t.map Char.toNat, rest) := by
  -- what is behind a character starts with one of the next, or with the closing quote
  induction t with
  | nil => rw [List.flatMap_nil, List.nil_append, stringUnits, List.map_nil]
  | cons c t ih =>
      obtain ⟨next, behind, hbehind⟩ :
          ∃ next behind, t.flatMap (stringChar false) ++ '"' :: rest = next :: behind :=
        List.exists_cons_of_ne_nil (by simp)
      rw [List.flatMap_cons, List.append_assoc, hbehind, stringUnits_stringChar, ← hbehind, ih]
      rfl

/-- **A string is read back.** -/
theorem readString_writeString (t rest : Text) :
    readString opening (t.flatMap (stringChar false) ++ '"' :: rest) = .ok (t, rest) := by
  rw [readString, stringUnits_flatMap]
  show Except.ok (joinUnits (t.map Char.toNat), rest) = _
  rw [joinUnits_map_toNat]

/-! ## Whole numbers -/

/-- A character that goes on with a number. -/
def isNumberChar (c : Char) : Bool := isAsciiDigit c || c == '.' || c == 'e' || c == 'E'

theorem natOfDigits_ofNat (n : Nat) : natOfDigits (Text.ofNat n) = n := by
  have hfold : Nat.ofDigitChars 10 (Text.ofNat n) 0 = natOfDigits (Text.ofNat n) :=
    Nat.ofDigitChars_eq_foldl
  exact hfold.symm.trans Nat.ofDigitChars_ten_toDigits

theorem isAsciiDigit_of_mem_ofNat (h : c ∈ Text.ofNat n) : isAsciiDigit c = true := by
  have hdigit : c.isDigit = true := Nat.isDigit_of_mem_toDigits (by decide) (by decide) h
  simpa [Char.isDigit, isAsciiDigit, Char.le_def] using hdigit

theorem ofNat_ne_nil (n : Nat) : Text.ofNat n ≠ [] := Nat.toDigits_ne_nil

/-- Only zero starts with a zero. -/
theorem head?_ofNat_ne_zero (h : n ≠ 0) : (Text.ofNat n).head? ≠ some '0' := by
  induction n using Nat.strongRecOn with
  | ind n ih =>
      rw [Text.ofNat]
      by_cases hsmall : n < 10
      · rw [Nat.toDigits_of_lt_base hsmall]
        simpa [Nat.digitChar_eq_zero] using h
      · rw [Nat.toDigits_of_base_le (by decide) (by omega),
          List.head?_append_of_ne_nil _ Nat.toDigits_ne_nil]
        exact ih (n / 10) (by omega) (by omega)

theorem wholeDigits?_ofNat (n : Nat) (hrest : StartsOutside isAsciiDigit rest) :
    wholeDigits? (Text.ofNat n ++ rest) = some (Text.ofNat n, rest) := by
  by_cases hzero : n = 0
  · subst hzero
    rfl
  · obtain ⟨d, digits, hdigits⟩ := List.exists_cons_of_ne_nil (ofNat_ne_nil n)
    have hd : d ≠ '0' := by simpa [hdigits] using head?_ofNat_ne_zero hzero
    have hrun := takeRun?_append (ofNat_ne_nil n) (fun c hc => isAsciiDigit_of_mem_ofNat hc) hrest
    rw [hdigits] at hrun ⊢
    rw [List.cons_append, wholeDigits?]
    · exact hrun
    · exact fun _ heq => hd (List.cons.inj heq).1

/-- Nothing goes on with the number: it has no point and no exponent. -/
theorem fraction_exponent_eq_none (hrest : StartsOutside isNumberChar rest) :
    fractionDigits? rest = none ∧ exponent? rest = none := by
  cases rest with
  | nil => exact ⟨rfl, rfl⟩
  | cons c rest =>
      have hc : ((c ≠ '.') ∧ c ≠ 'e') ∧ c ≠ 'E' := by
        have hclass := startsOutside_cons.mp hrest
        simp only [isNumberChar, Bool.or_eq_false_iff, beq_eq_false_iff_ne] at hclass
        exact ⟨⟨hclass.1.1.2, hclass.1.2⟩, hclass.2⟩
      constructor
      · rw [fractionDigits?]
        exact fun _ heq => absurd (List.cons.inj heq).1 hc.1.1
      · simp [exponent?, hc.1.2, hc.2]

theorem readUnsigned_ofNat (negative : Bool) (start : Text)
    (hshort : (Text.ofNat n).length ≤ maxWholeDigits) (hrest : StartsOutside isNumberChar rest) :
    readUnsigned negative start (Text.ofNat n ++ rest)
      = .ok (.whole (if negative then -(n : Int) else n), rest) := by
  have hdigits : StartsOutside isAsciiDigit rest := fun c hc => by
    have hclass := hrest c hc
    simp only [isNumberChar, Bool.or_eq_false_iff] at hclass
    exact hclass.1.1.1
  obtain ⟨hfraction, hexponent⟩ := fraction_exponent_eq_none hrest
  rw [readUnsigned, wholeDigits?_ofNat n hdigits]
  simp only [hfraction, Option.getD_none, hexponent, List.isEmpty_nil, if_true,
    Nat.not_lt.mpr hshort, if_false, natOfDigits_ofNat]

/-- **A whole number is read back** if it is not too long and nothing goes
on with it. -/
theorem readNumber_writeWhole {n : Int} (hshort : (Text.ofNat n.natAbs).length ≤ maxWholeDigits)
    (hrest : StartsOutside isNumberChar rest) :
    readNumber (writeWhole n ++ rest) = .ok (.whole n, rest) := by
  rw [writeWhole]
  split
  · rename_i hnegative
    rw [List.cons_append, readNumber, readUnsigned_ofNat true _ hshort hrest, if_pos rfl,
      Int.ofNat_natAbs_of_nonpos (by omega), Int.neg_neg]
  · rename_i hnonnegative
    obtain ⟨d, digits, hdigits⟩ := List.exists_cons_of_ne_nil (ofNat_ne_nil n.natAbs)
    have hd : d ≠ '-' := by
      rintro rfl
      have hclass : isAsciiDigit '-' = true := isAsciiDigit_of_mem_ofNat (n := n.natAbs)
        (by rw [hdigits]; simp)
      exact absurd hclass (by decide)
    have hread := readUnsigned_ofNat false (Text.ofNat n.natAbs ++ rest) hshort hrest
    rw [hdigits] at hread ⊢
    rw [List.cons_append] at hread ⊢
    rw [readNumber]
    · rw [hread, if_neg (by simp), Int.natAbs_of_nonneg (by omega)]
    · exact fun _ heq => absurd (List.cons.inj heq).1 hd

end WireTypes.Json
