import Mathlib.Data.List.Chain
import WireTypes.Proofs.Text.Ascii
import WireTypes.Proofs.Text.Runs

/-!
# Name — The snake form is a normal form

A snake form has no ASCII capital and no hyphen, and its underscores
stand one by one between other characters (`IsSnake`). Each pass over the
name settles one of these, and none of the later passes undoes it: the
lowercase form leads to no hyphen and no underscore, squeezing keeps the
characters, and stripping leaves a part of the text. On a text that has
them all and is lowercase every pass does nothing (`snake_eq_self`), so
the snake form of a snake form is itself.

The passes only add and drop underscores, and lowering an ASCII text goes
character by character. So without its underscores the snake form of an
ASCII name is the lowercase form of the name's letters and digits.
-/

namespace WireTypes.Name

open Text

variable {t name : Text}

/-- A text in small words that single underscores join. A capital outside
ASCII is not looked at here. -/
structure IsSnake (t : Text) : Prop where
  noCapital : ∀ c ∈ t, isAsciiUpper c = false
  noHyphen : '-' ∉ t
  single : t.IsChain fun a b => ¬ (a = '_' ∧ b = '_')
  starts : StartsOutside (· == '_') t
  ends : EndsOutside (· == '_') t

/-! ## What each pass settles -/

/-- The name with an underscore for each hyphen. -/
def unhyphened (name : Text) : Text := name.map fun c => if c = '-' then '_' else c

theorem snake_eq (name : Text) :
    snake name = stripUnderscores (squeeze (lower (markWords (unhyphened name)))) := rfl

theorem not_mem_unhyphened (name : Text) : '-' ∉ unhyphened name := by
  intro h
  obtain ⟨c, -, hc⟩ := List.mem_map.mp h
  split at hc
  · exact absurd hc (by decide)
  · rename_i hne
    exact hne hc

theorem not_mem_markWords_unhyphened (name : Text) : '-' ∉ markWords (unhyphened name) := by
  intro h
  rcases mem_markWords h with h | h
  · exact absurd h (by decide)
  · exact not_mem_unhyphened name h

/-- Lowering leads to no hyphen. -/
theorem not_mem_lower (h : '-' ∉ t) : '-' ∉ lower t := by
  intro hmem
  rcases mem_lowerAfter hmem with hsigma | hsigma | ⟨c, hc, hlower⟩
  · exact absurd hsigma (by decide)
  · exact absurd hsigma (by decide)
  · rcases mem_lowerChar hlower with rfl | himage
    · exact h hc
    · exact absurd himage (by decide)

/-- No ASCII capital is its own lowercase form. -/
theorem not_isAsciiUpper_of_lowerChar {c : Char} (h : lowerChar c = [c]) :
    isAsciiUpper c = false := by
  cases hc : isAsciiUpper c with
  | false => rfl
  | true =>
      have hsame : c.toLower = c := by
        rw [lowerChar_of_isAscii (isAscii_of_isAsciiUpper hc)] at h
        exact List.head_eq_of_cons_eq h
      have hmoved : isAsciiUpper c = true → c.toLower ≠ c :=
        forall_ascii (P := fun c => isAsciiUpper c = true → c.toLower ≠ c) (by decide +kernel)
          (isAscii_of_isAsciiUpper hc)
      exact absurd hsame (hmoved hc)

theorem head?_squeeze (t : Text) : (squeeze t).head? = t.head? := by
  fun_induction squeeze t with
  | case1 rest ih => exact ih
  | case2 c rest _ ih => rfl
  | case3 => rfl

/-- Squeezing leaves no underscore beside another. -/
theorem isChain_squeeze (t : Text) :
    (squeeze t).IsChain fun a b => ¬ (a = '_' ∧ b = '_') := by
  fun_induction squeeze t with
  | case1 rest ih => exact ih
  | case2 c rest hsingle ih =>
      refine List.isChain_cons.mpr ⟨?_, ih⟩
      rintro d hd ⟨rfl, rfl⟩
      rw [head?_squeeze, Option.mem_def, List.head?_eq_some_iff] at hd
      obtain ⟨rest', hrest⟩ := hd
      exact hsingle rest' rfl hrest
  | case3 => exact List.isChain_nil

/-- Stripping takes underscores off both ends and nothing else. -/
theorem exists_stripUnderscores_between (t : Text) :
    ∃ before after, t = before ++ (stripUnderscores t ++ after) ∧
      (∀ c ∈ before, (c == '_') = true) ∧ ∀ c ∈ after, (c == '_') = true := by
  obtain ⟨after, hafter, hrun⟩ := exists_dropEnd_append (p := (· == '_')) (t.dropWhile (· == '_'))
  have hbefore : ∀ c ∈ t.takeWhile (· == '_'), (c == '_') = true :=
    fun c hc => List.mem_takeWhile_imp (p := (· == '_')) hc
  refine ⟨t.takeWhile (· == '_'), after, ?_, hbefore, hrun⟩
  rw [stripUnderscores, ← hafter, List.takeWhile_append_dropWhile]

/-- Stripping the end leaves the start as it is. -/
theorem startsOutside_stripUnderscores (t : Text) :
    StartsOutside (· == '_') (stripUnderscores t) := by
  have hstart := startsOutside_dropWhile (p := (· == '_')) t
  obtain ⟨after, hafter, -⟩ := exists_dropEnd_append (p := (· == '_')) (t.dropWhile (· == '_'))
  rw [hafter, ← stripUnderscores] at hstart
  by_cases hne : stripUnderscores t = []
  · rw [hne]
    exact startsOutside_nil
  · exact (startsOutside_append hne).mp hstart

theorem endsOutside_stripUnderscores (t : Text) :
    EndsOutside (· == '_') (stripUnderscores t) := by
  rw [endsOutside_iff_reverse, stripUnderscores, List.reverse_reverse]
  exact startsOutside_dropWhile _

theorem lowerChar_of_mem_snake {c : Char} (h : c ∈ snake name) : lowerChar c = [c] :=
  lowerChar_of_mem_lower (mem_squeeze.mp (mem_of_mem_stripUnderscores h))

theorem isSnake_snake (name : Text) : IsSnake (snake name) where
  noCapital _ hc := not_isAsciiUpper_of_lowerChar (lowerChar_of_mem_snake hc)
  noHyphen h :=
    not_mem_lower (not_mem_markWords_unhyphened name)
      (mem_squeeze.mp (mem_of_mem_stripUnderscores h))
  single := by
    -- what is left is a part of the squeezed text
    have hchain := isChain_squeeze (lower (markWords (unhyphened name)))
    obtain ⟨before, after, hbetween, -⟩ := exists_stripUnderscores_between
      (squeeze (lower (markWords (unhyphened name))))
    rw [hbetween] at hchain
    exact hchain.right_of_append.left_of_append
  starts := startsOutside_stripUnderscores _
  ends := endsOutside_stripUnderscores _

/-! ## Where the passes do nothing -/

theorem unhyphened_eq_self (h : '-' ∉ t) : unhyphened t = t := by
  have hkept : ∀ c ∈ t, (if c = '-' then '_' else c) = c := by
    intro c hc
    rw [if_neg]
    rintro rfl
    exact h hc
  rw [unhyphened, List.map_congr_left hkept, List.map_id']

/-- Words start at capitals only, and not at the first character. -/
theorem markWords_eq_self (h : ∀ c ∈ t.tail, isAsciiUpper c = false) : markWords t = t := by
  fun_induction markWords t with
  | case1 a b rest hstart ih =>
      rw [startsWord, h b (by simp)] at hstart
      exact absurd hstart (by simp)
  | case2 a b rest hstart ih =>
      rw [ih fun c hc => h c (List.mem_of_mem_tail hc)]
  | case3 t => rfl

theorem squeeze_eq_self (h : t.IsChain fun a b => ¬ (a = '_' ∧ b = '_')) : squeeze t = t := by
  fun_induction squeeze t with
  | case1 rest ih => exact absurd ⟨rfl, rfl⟩ (List.isChain_cons_cons.mp h).1
  | case2 c rest _ ih => rw [ih h.tail]
  | case3 => rfl

theorem stripUnderscores_eq_self (hstarts : StartsOutside (· == '_') t)
    (hends : EndsOutside (· == '_') t) : stripUnderscores t = t := by
  rw [stripUnderscores, dropWhile_of_startsOutside hstarts,
    dropWhile_of_startsOutside (endsOutside_iff_reverse.mp hends), List.reverse_reverse]

/-- A lowercase text in snake form stays as it is. -/
theorem snake_eq_self (h : IsSnake t) (hlower : lower t = t) : snake t = t := by
  rw [snake_eq, unhyphened_eq_self h.noHyphen,
    markWords_eq_self fun c hc => h.noCapital c (List.mem_of_mem_tail hc), hlower,
    squeeze_eq_self h.single, stripUnderscores_eq_self h.starts h.ends]

/-! ## The letters of an ASCII name -/

/-- The text without its underscores. -/
def letters (t : Text) : Text := t.filter (· != '_')

theorem letters_of_underscores (h : ∀ c ∈ t, (c == '_') = true) : letters t = [] := by
  rw [letters, List.filter_eq_nil_iff]
  intro c hc
  simp [h c hc, bne]

theorem letters_stripUnderscores (t : Text) : letters (stripUnderscores t) = letters t := by
  obtain ⟨before, after, ht, hbefore, hafter⟩ := exists_stripUnderscores_between t
  have hparts : letters t = letters before ++ (letters (stripUnderscores t) ++ letters after) := by
    conv_lhs => rw [ht]
    simp only [letters, List.filter_append]
  rw [hparts, letters_of_underscores hbefore, letters_of_underscores hafter, List.nil_append,
    List.append_nil]

theorem letters_squeeze (t : Text) : letters (squeeze t) = letters t := by
  simp only [letters]
  fun_induction squeeze t with
  | case1 rest ih => simpa using ih
  | case2 c rest _ ih => rw [List.filter_cons, List.filter_cons, ih]
  | case3 => rfl

theorem letters_markWords (t : Text) : letters (markWords t) = letters t := by
  simp only [letters]
  fun_induction markWords t with
  | case1 a b rest _ ih =>
      have hmark : ('_' :: markWords (b :: rest)).filter (· != '_')
          = (markWords (b :: rest)).filter (· != '_') := rfl
      rw [List.filter_cons, hmark, ih, List.filter_cons (x := a)]
  | case2 a b rest _ ih => rw [List.filter_cons, ih, List.filter_cons (x := a)]
  | case3 t => rfl

theorem letters_unhyphened (name : Text) :
    letters (unhyphened name) = name.filter fun c => c != '_' && c != '-' := by
  induction name with
  | nil => rfl
  | cons c name ih =>
      rw [letters, unhyphened] at ih ⊢
      rw [List.map_cons, List.filter_cons, List.filter_cons, ih]
      by_cases hc : c = '-'
      · simp [hc]
      · simp [hc]

theorem isAscii_of_mem_markWords (h : ∀ c ∈ name, isAscii c = true) :
    ∀ c ∈ markWords (unhyphened name), isAscii c = true := by
  intro c hc
  rcases mem_markWords hc with rfl | hc
  · decide
  · obtain ⟨d, hd, rfl⟩ := List.mem_map.mp hc
    split
    · decide
    · exact h d hd

/-- Lowering an ASCII text neither makes nor drops an underscore. -/
theorem letters_lower (h : ∀ c ∈ t, isAscii c = true) : letters (lower t) = lower (letters t) := by
  have hkeep : ∀ c ∈ t, (c.toLower != '_') = (c != '_') := fun c hc =>
    forall_ascii (P := fun c => (c.toLower != '_') = (c != '_')) (by decide +kernel) (h c hc)
  have hletters : ∀ c ∈ letters t, isAscii c = true := fun c hc => h c (List.mem_filter.mp hc).1
  rw [lower_of_ascii h, lower_of_ascii hletters, letters, letters, List.filter_map]
  exact congrArg (List.map Char.toLower) (List.filter_congr hkeep)

theorem letters_snake (h : ∀ c ∈ name, isAscii c = true) :
    letters (snake name) = lower (name.filter fun c => c != '_' && c != '-') := by
  rw [snake_eq, letters_stripUnderscores, letters_squeeze,
    letters_lower (isAscii_of_mem_markWords h), letters_markWords, letters_unhyphened]

/-! ## The normal form -/

/-- **The snake form is a normal form of the name's letters.** It is in
snake form and its own snake form, for every text; and for an ASCII name
it is the letters and digits in small, with underscores between them. -/
theorem snake_normalizes (name : Text) :
    IsSnake (snake name) ∧ snake (snake name) = snake name ∧
      ((∀ c ∈ name, isAscii c = true) →
        (snake name).filter (· != '_') = lower (name.filter fun c => c != '_' && c != '-')) :=
  ⟨isSnake_snake name,
    snake_eq_self (isSnake_snake name) (lowerAfter_eq_self fun _ hc => lowerChar_of_mem_snake hc),
    letters_snake⟩

/-- Acronyms, digits, hyphens and loose underscores in one name. -/
theorem snake_normalizes_mixed :
    (∀ c ∈ "_HTTPServer2-userID__x-".toList, isAscii c = true) ∧
      snake "_HTTPServer2-userID__x-".toList = "http_server2_user_id_x".toList ∧
      (snake "_HTTPServer2-userID__x-".toList).filter (· != '_') = "httpserver2useridx".toList := by
  have hascii : ∀ c ∈ "_HTTPServer2-userID__x-".toList, isAscii c = true :=
    List.all_eq_true.mp (by decide)
  refine ⟨hascii, by decide +kernel, ?_⟩
  rw [(snake_normalizes _).2.2 hascii]
  decide +kernel

end WireTypes.Name
