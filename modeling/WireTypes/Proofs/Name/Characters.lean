import WireTypes.Proofs.Text.Classes
import WireTypes.Name

/-!
# Name — Characters of a derived name

Which characters the snake, the camel and the Pascal form of a name can
hold. A case mapping sends a character to itself or to images in its
table, and no image is a blank or a mark that means something on a line:
these code points are collected in `unmapped`, and the kernel looks the
tables up once. So the snake form of a word can stand in a tag as it is,
and the Pascal form starts no comment and closes no block. An exported
name starts with a capital, which keeps its snake form from being empty
and its camel form from being a dash.
-/

namespace WireTypes.Text

/-! ## Images of the case mappings -/

/-- A character that means nothing by itself on the line of a field. -/
def isInertChar (c : Char) : Bool := isKeyChar c && c != '/' && c != '\x7d'

theorem isKeyChar_of_isInertChar {c : Char} (h : isInertChar c = true) : isKeyChar c = true := by
  rw [isInertChar, Bool.and_eq_true, Bool.and_eq_true] at h
  exact h.1.1

theorem isInertChar_of_isWord {c : Char} (h : isWord c = true) : isInertChar c = true := by
  have hslash : c ≠ '/' := ne_of_class h (by decide)
  have hbrace : c ≠ '\x7d' := ne_of_class h (by decide)
  simp [isInertChar, isKeyChar_of_isWord h, hslash, hbrace]

/-- A character that a case mapping can lead to. -/
def isImageChar (c : Char) : Bool := isInertChar c && c != '_'

theorem isInertChar_of_isImageChar {c : Char} (h : isImageChar c = true) :
    isInertChar c = true := by
  rw [isImageChar, Bool.and_eq_true] at h
  exact h.1

/-- The code points that no case mapping leads to: the blanks, and the
marks of a line. -/
def unmapped : List Nat := blankRanges.members ++ "\",`-/\x7d_".toList.map Char.toNat

theorem isImageChar_of_not_mem {c : Char} (h : c.toNat ∉ unmapped) : isImageChar c = true := by
  rw [unmapped, List.mem_append, not_or] at h
  have hblank : isBlank c = false := by
    cases hb : isBlank c with
    | false => rfl
    | true => exact absurd (Ranges.mem_members hb) h.1
  have hmark : ∀ d ∈ "\",`-/\x7d_".toList, c ≠ d := by
    rintro d hd rfl
    exact h.2 (List.mem_map_of_mem hd)
  simp [isImageChar, isInertChar, isKeyChar, hblank, hmark '"' (by decide), hmark ',' (by decide),
    hmark '`' (by decide), hmark '-' (by decide), hmark '/' (by decide), hmark '\x7d' (by decide),
    hmark '_' (by decide)]

/-- The shift moves the code point. -/
def Shift.Moves (s : Shift) (n : Nat) : Prop :=
  s.first ≤ n ∧ n ≤ s.last ∧ (n - s.first) % s.step = 0

/-- An image is that of a shift which moves the code point. -/
theorem Shifts.exists_moves {ss : Shifts} {n m : Nat} (h : ss.image? n = some m) :
    ∃ s ∈ ss, s.Moves n ∧ m = s.target + (n - s.first) := by
  induction ss with
  | nil => simp [Shifts.image?] at h
  | cons s rest ih =>
      rw [Shifts.image?] at h
      split at h
      · cases h
      · rename_i hfirst
        split at h
        · rename_i hin
          cases h
          exact ⟨s, by simp, ⟨by omega, hin.1, hin.2⟩, rfl⟩
        · obtain ⟨r, hr, hmoves⟩ := ih h
          exact ⟨r, by simp [hr], hmoves⟩

/-- The targets of the shifts pass by the code points of `unmapped`. -/
def Shifts.Avoids (ss : Shifts) : Prop :=
  ∀ s ∈ ss, ∀ k ∈ unmapped, k < s.target ∨ s.target + (s.last - s.first) < k

instance (ss : Shifts) : Decidable ss.Avoids :=
  inferInstanceAs (Decidable (∀ s ∈ ss, ∀ k ∈ unmapped,
    k < s.target ∨ s.target + (s.last - s.first) < k))

private theorem avoids_lowerShifts : lowerShifts.Avoids := by decide +kernel

private theorem avoids_upperShifts : upperShifts.Avoids := by decide +kernel

private theorem upperExpansions_images :
    ∀ e ∈ upperExpansions, e.2 ≠ [] ∧ ∀ n ∈ e.2, (Char.ofNat n).toNat ∉ unmapped := by
  decide +kernel

private theorem images_of_lookup {n : Nat} {images : List Nat}
    (h : upperExpansions.lookup n = some images) :
    images ≠ [] ∧ ∀ m ∈ images, (Char.ofNat m).toNat ∉ unmapped := by
  obtain ⟨before, after, hentries, -⟩ := List.lookup_eq_some_iff.mp h
  exact upperExpansions_images (n, images) (by rw [hentries]; simp)

theorem Shifts.Avoids.isImageChar {ss : Shifts} (hss : ss.Avoids) {n m : Nat}
    (h : ss.image? n = some m) : isImageChar (Char.ofNat m) = true := by
  obtain ⟨s, hs, ⟨hfirst, hlast, -⟩, hm⟩ := Shifts.exists_moves h
  apply isImageChar_of_not_mem
  -- a code point that no character has counts as zero, which is no mark either
  by_cases hvalid : m.isValidChar
  · rw [Char.ofNat, dif_pos hvalid]
    intro hmem
    have hmark : m ∈ unmapped := hmem
    have := hss s hs m hmark
    omega
  · rw [Char.ofNat, dif_neg hvalid]
    decide

/-- A character of the lowercase form of `c` is `c` itself or an image. -/
theorem mem_lowerChar {c x : Char} (h : x ∈ lowerChar c) : x = c ∨ isImageChar x = true := by
  rw [lowerChar] at h
  split at h
  · right
    simp only [List.mem_cons, List.not_mem_nil, or_false] at h
    rcases h with rfl | rfl <;> decide
  · split at h
    · rename_i n hn
      rw [List.mem_singleton] at h
      subst h
      exact Or.inr (avoids_lowerShifts.isImageChar hn)
    · exact Or.inl (List.mem_singleton.mp h)

/-- A character of the uppercase form of `c` is `c` itself or an image. -/
theorem mem_upperChar {c x : Char} (h : x ∈ upperChar c) : x = c ∨ isImageChar x = true := by
  rw [upperChar] at h
  split at h
  · rename_i images himages
    obtain ⟨n, hn, rfl⟩ := List.mem_map.mp h
    exact Or.inr (isImageChar_of_not_mem ((images_of_lookup himages).2 n hn))
  · split at h
    · rename_i n hn
      rw [List.mem_singleton] at h
      subst h
      exact Or.inr (avoids_upperShifts.isImageChar hn)
    · exact Or.inl (List.mem_singleton.mp h)

theorem upperChar_ne_nil (c : Char) : upperChar c ≠ [] := by
  rw [upperChar]
  split
  · rename_i images himages
    simpa using (images_of_lookup himages).1
  · split <;> simp

theorem lowerChar_ne_nil (c : Char) : lowerChar c ≠ [] := by
  rw [lowerChar]
  split
  · simp
  · split <;> simp

/-! ## The lowercase form of a text -/

theorem mem_lowerAfter {before t : Text} {x : Char} (h : x ∈ lowerAfter before t) :
    x = 'ς' ∨ x = 'σ' ∨ ∃ c ∈ t, x ∈ lowerChar c := by
  induction t generalizing before with
  | nil => simp [lowerAfter] at h
  | cons c rest ih =>
      rw [lowerAfter, List.mem_append] at h
      rcases h with h | h
      · split at h
        · split at h
          · exact Or.inl (List.mem_singleton.mp h)
          · exact Or.inr (Or.inl (List.mem_singleton.mp h))
        · exact Or.inr (Or.inr ⟨c, by simp, h⟩)
      · rcases ih h with h | h | ⟨d, hd, hx⟩
        · exact Or.inl h
        · exact Or.inr (Or.inl h)
        · exact Or.inr (Or.inr ⟨d, by simp [hd], hx⟩)

/-- A character other than the underscore leaves another one behind. -/
theorem exists_mem_lowerAfter {before t : Text} {c : Char} (h : c ∈ t) (hc : c ≠ '_') :
    ∃ x ∈ lowerAfter before t, x ≠ '_' := by
  induction t generalizing before with
  | nil => simp at h
  | cons d rest ih =>
      rcases List.mem_cons.mp h with rfl | h
      · by_cases hsigma : c = 'Σ'
        · by_cases hfinal : (meetsCased before && !meetsCased rest) = true
          · exact ⟨'ς', by simp [lowerAfter, hsigma, hfinal], by decide⟩
          · exact ⟨'σ', by simp [lowerAfter, hsigma, hfinal], by decide⟩
        · obtain ⟨x, more, hx⟩ := List.exists_cons_of_ne_nil (lowerChar_ne_nil c)
          refine ⟨x, by simp [lowerAfter, hsigma, hx], ?_⟩
          rcases mem_lowerChar (c := c) (x := x) (by simp [hx]) with rfl | himage
          · exact hc
          · exact ne_of_class himage (by decide)
      · obtain ⟨x, hx, hne⟩ : ∃ x ∈ lowerAfter (d :: before) rest, x ≠ '_' := ih h
        exact ⟨x, by rw [lowerAfter, List.mem_append]; exact Or.inr hx, hne⟩

end WireTypes.Text

namespace WireTypes.Name

open Text

/-! ## The steps of the snake form -/

theorem mem_markWords {t : Text} {c : Char} (h : c ∈ markWords t) : c = '_' ∨ c ∈ t := by
  fun_induction markWords t with
  | case1 a b rest hstart ih =>
      simp only [List.mem_cons] at h ih ⊢
      rcases h with rfl | rfl | h
      · simp
      · simp
      · exact (ih h).imp_right Or.inr
  | case2 a b rest hstart ih =>
      simp only [List.mem_cons] at h ih ⊢
      rcases h with rfl | h
      · simp
      · exact (ih h).imp_right Or.inr
  | case3 t => exact Or.inr h

theorem mem_markWords_of_mem {t : Text} {c : Char} (h : c ∈ t) : c ∈ markWords t := by
  fun_induction markWords t with
  | case1 a b rest hstart ih =>
      rcases List.mem_cons.mp h with rfl | h
      · simp
      · simp [ih h]
  | case2 a b rest hstart ih =>
      rcases List.mem_cons.mp h with rfl | h
      · simp
      · simp [ih h]
  | case3 t => exact h

theorem mem_squeeze {t : Text} {c : Char} : c ∈ squeeze t ↔ c ∈ t := by
  fun_induction squeeze t with
  | case1 rest ih => simp [ih]
  | case2 d rest _ ih => simp [ih]
  | case3 => simp

theorem mem_of_mem_stripUnderscores {t : Text} {c : Char} (h : c ∈ stripUnderscores t) :
    c ∈ t := by
  rw [stripUnderscores, List.mem_reverse] at h
  have := List.dropWhile_subset _ h
  rw [List.mem_reverse] at this
  exact List.dropWhile_subset _ this

/-- Only underscores are stripped. -/
theorem mem_dropWhile_underscores {t : Text} {c : Char} (h : c ∈ t) (hc : c ≠ '_') :
    c ∈ t.dropWhile (· == '_') := by
  induction t with
  | nil => exact h
  | cons d t ih =>
      rw [List.dropWhile_cons]
      split
      · rename_i hd
        rcases List.mem_cons.mp h with rfl | h
        · exact absurd (by simpa using hd) hc
        · exact ih h
      · exact h

theorem mem_stripUnderscores {t : Text} {c : Char} (h : c ∈ t) (hc : c ≠ '_') :
    c ∈ stripUnderscores t := by
  rw [stripUnderscores, List.mem_reverse]
  exact mem_dropWhile_underscores
    (List.mem_reverse.mpr (mem_dropWhile_underscores h hc)) hc

/-! ## Derived names of words -/

variable {name : Text}

/-- The snake form of a word can stand in a tag. -/
theorem isKeyChar_of_mem_snake (h : ∀ c ∈ name, isWord c = true) :
    ∀ c ∈ snake name, isKeyChar c = true := by
  intro c hc
  have hlower := mem_squeeze.mp (mem_of_mem_stripUnderscores hc)
  rcases mem_lowerAfter hlower with rfl | rfl | ⟨d, hd, hx⟩
  · decide
  · decide
  · have hword : isWord d = true := by
      rcases mem_markWords hd with rfl | hd
      · decide
      · obtain ⟨e, he, rfl⟩ := List.mem_map.mp hd
        split
        · decide
        · exact h e he
    rcases mem_lowerChar hx with rfl | himage
    · exact isKeyChar_of_isWord hword
    · exact isKeyChar_of_isInertChar (isInertChar_of_isImageChar himage)

/-- Folding makes capitals of small letters and drops underscores. -/
theorem mem_foldWords {t : Text} {x : Char} (h : x ∈ foldWords t) :
    x ∈ t ∨ ∃ c ∈ t, isAsciiLower c = true ∧ x = c.toUpper := by
  fun_induction foldWords t with
  | case1 c rest hlower ih =>
      rcases List.mem_cons.mp h with rfl | h
      · exact Or.inr ⟨c, by simp, hlower, rfl⟩
      · rcases ih h with h | ⟨d, hd, hx⟩
        · exact Or.inl (by simp [h])
        · exact Or.inr ⟨d, by simp [hd], hx⟩
  | case2 c rest hlower ih =>
      rcases List.mem_cons.mp h with rfl | h
      · exact Or.inl (by simp)
      · rcases ih h with h | ⟨d, hd, hx⟩
        · exact Or.inl (List.mem_cons_of_mem _ h)
        · exact Or.inr ⟨d, List.mem_cons_of_mem _ hd, hx⟩
  | case3 c rest _ ih =>
      rcases List.mem_cons.mp h with rfl | h
      · exact Or.inl (by simp)
      · rcases ih h with h | ⟨d, hd, hx⟩
        · exact Or.inl (by simp [h])
        · exact Or.inr ⟨d, by simp [hd], hx⟩
  | case4 => exact Or.inl h

theorem foldWords_ne_nil {t : Text} (h : t ≠ []) : foldWords t ≠ [] := by
  fun_cases foldWords t with
  | case1 => simp
  | case2 => simp
  | case3 => simp
  | case4 => exact absurd rfl h

/-- A character that is no underscore stays in front. -/
theorem foldWords_cons {c : Char} (hc : c ≠ '_') (t : Text) :
    foldWords (c :: t) = c :: foldWords t := by
  rw [foldWords]
  exact fun _ _ h => absurd h hc

/-- The capitals of the small ASCII letters are word characters. -/
private theorem capitals_word :
    ∀ n ∈ List.range' 'a'.toNat 26, isWord (Char.ofNat n).toUpper = true := by
  decide +kernel

theorem isWord_toUpper {c : Char} (h : isAsciiLower c = true) : isWord c.toUpper = true := by
  rw [isAsciiLower, Bool.and_eq_true, decide_eq_true_eq, decide_eq_true_eq] at h
  have hrange : c.toNat ∈ List.range' 'a'.toNat 26 := by
    rw [List.mem_range'_1]
    have hlow : 'a'.toNat ≤ c.toNat := h.1
    have hhigh : c.toNat ≤ 'z'.toNat := h.2
    have hcodes : 'z'.toNat < 'a'.toNat + 26 := by decide
    omega
  have hc := capitals_word c.toNat hrange
  rwa [Char.ofNat_toNat] at hc

theorem isWord_of_mem_foldWords (h : ∀ c ∈ name, isWord c = true) :
    ∀ c ∈ foldWords name, isWord c = true := by
  intro c hc
  rcases mem_foldWords hc with hc | ⟨d, -, hlower, rfl⟩
  · exact h c hc
  · exact isWord_toUpper hlower

/-- The text with its first character spelled by `g` if it is in the
class. -/
def recase (p : Char → Bool) (g : Char → Text) : Text → Text
  | [] => []
  | c :: rest => if p c then g c ++ rest else c :: rest

theorem pascal_eq (name : Text) : pascal name = recase isLower upperChar (foldWords name) := by
  rw [pascal]
  cases foldWords name <;> rfl

theorem camel_eq (name : Text) : camel name = recase isUpper lowerChar (foldWords name) := by
  rw [camel]
  cases foldWords name <;> rfl

section Recase

variable {p : Char → Bool} {g : Char → Text} {t : Text}

theorem isInertChar_of_mem_recase (hg : ∀ c x, x ∈ g c → x = c ∨ isImageChar x = true)
    (ht : ∀ c ∈ t, isWord c = true) : ∀ x ∈ recase p g t, isInertChar x = true := by
  intro x hx
  have hword : x ∈ t → isInertChar x = true := fun hmem => isInertChar_of_isWord (ht x hmem)
  cases t with
  | nil => simp [recase] at hx
  | cons c rest =>
      rw [recase] at hx
      split at hx
      · rcases List.mem_append.mp hx with hx | hx
        · rcases hg c x hx with rfl | himage
          · exact hword (by simp)
          · exact isInertChar_of_isImageChar himage
        · exact hword (by simp [hx])
      · exact hword hx

theorem recase_ne_nil (hg : ∀ c, g c ≠ []) (ht : t ≠ []) : recase p g t ≠ [] := by
  obtain ⟨c, rest, rfl⟩ := List.exists_cons_of_ne_nil ht
  rw [recase]
  split
  · simp [hg c]
  · simp

end Recase

/-- The Pascal form of a word starts no comment and closes no block. It
need not be a word: a capital may be spelled with a combining mark. -/
theorem isInertChar_of_mem_pascal (h : ∀ c ∈ name, isWord c = true) :
    ∀ c ∈ pascal name, isInertChar c = true := by
  rw [pascal_eq]
  exact isInertChar_of_mem_recase (fun _ _ => mem_upperChar) (isWord_of_mem_foldWords h)

theorem isInertChar_of_mem_camel (h : ∀ c ∈ name, isWord c = true) :
    ∀ c ∈ camel name, isInertChar c = true := by
  rw [camel_eq]
  exact isInertChar_of_mem_recase (fun _ _ => mem_lowerChar) (isWord_of_mem_foldWords h)

theorem pascal_ne_nil (h : name ≠ []) : pascal name ≠ [] := by
  rw [pascal_eq]
  exact recase_ne_nil upperChar_ne_nil (foldWords_ne_nil h)

theorem camel_ne_nil (h : name ≠ []) : camel name ≠ [] := by
  rw [camel_eq]
  exact recase_ne_nil lowerChar_ne_nil (foldWords_ne_nil h)

theorem exists_of_isExported (h : isExported name = true) :
    ∃ c rest, name = c :: rest ∧ isUpper c = true := by
  cases name with
  | nil => exact absurd h (by decide)
  | cons c rest => exact ⟨c, rest, rfl, h⟩

/-- An exported name has a snake form to speak of. -/
theorem snake_ne_nil (h : isExported name = true) : snake name ≠ [] := by
  obtain ⟨c, rest, rfl, hupper⟩ := exists_of_isExported h
  have hdash : c ≠ '-' := ne_of_class hupper (by decide)
  have hunder : c ≠ '_' := ne_of_class hupper (by decide)
  have hmem : c ∈ markWords ((c :: rest).map fun c => if c = '-' then '_' else c) :=
    mem_markWords_of_mem (List.mem_map.mpr ⟨c, by simp, if_neg hdash⟩)
  obtain ⟨x, hx, hne⟩ :
      ∃ x ∈ lower (markWords ((c :: rest).map fun c => if c = '-' then '_' else c)), x ≠ '_' :=
    exists_mem_lowerAfter hmem hunder
  exact List.ne_nil_of_mem (mem_stripUnderscores (mem_squeeze.mpr hx) hne)

/-- The camel form of an exported name is not the dash. -/
theorem camel_ne_dash (h : isExported name = true) : camel name ≠ ['-'] := by
  obtain ⟨c, rest, rfl, hupper⟩ := exists_of_isExported h
  have hdash : c ≠ '-' := ne_of_class hupper (by decide)
  have hunder : c ≠ '_' := ne_of_class hupper (by decide)
  obtain ⟨x, more, hx⟩ := List.exists_cons_of_ne_nil (lowerChar_ne_nil c)
  rw [camel, foldWords_cons hunder]
  simp only [hupper, if_true, hx, List.cons_append]
  intro heq
  have hxd : x = '-' := (List.cons.inj heq).1
  subst hxd
  rcases mem_lowerChar (c := c) (x := '-') (by simp [hx]) with heq | himage
  · exact hdash heq.symm
  · exact absurd himage (by decide)

end WireTypes.Name
