import Mathlib.Data.Set.Function
import WireTypes.Proofs.Name.Snake

/-!
# Name — Words behind a Pascal form

A name in small words, joined by underscores, has each word written with
a capital in its Pascal form (`pascal_joined`). The snake form of that
puts the underscores back where it sees a word start: behind a word of
two characters or more, and behind a single letter if the next word goes
on with a letter (`Word.Visible`). Behind other single letters the
boundary is lost, as between `a` and `b` in `AB` (`spaced`). So the name
comes back exactly when all its boundaries are visible.

No two names share a Pascal form even so: each capital starts a word, and
writing the words out again is a left inverse (`uncapitalise`).
-/

namespace WireTypes.Name

open Text

/-! ## Words -/

/-- A small letter or a digit. -/
def isSmall (c : Char) : Bool := isAsciiLower c || isAsciiDigit c

/-- A small letter, followed by small letters and digits. -/
structure Word where
  first : Char
  rest : Text
  first_lower : isAsciiLower first = true
  rest_small : ∀ c ∈ rest, isSmall c = true

namespace Word

def text (w : Word) : Text := w.first :: w.rest

/-- The word with a capital at its start. -/
def capitalised (w : Word) : Text := w.first.toUpper :: w.rest

/-- The boundary between two words is visible without an underscore: the
first word has two characters or more, or the second character of the
second is a letter. -/
def Visible (w w' : Word) : Prop :=
  2 ≤ w.text.length ∨ (w'.text[1]?).any isAsciiLower = true

instance (w w' : Word) : Decidable (w.Visible w') := inferInstanceAs (Decidable (_ ∨ _))

end Word

/-- The words with an underscore between each two. -/
def joined (ws : List Word) : Text := List.intercalate ['_'] (ws.map Word.text)

variable {w w' : Word} {ws : List Word} {c : Char} {t u : Text}

theorem isAscii_of_isSmall (h : isSmall c = true) : isAscii c = true := by
  rw [isSmall, Bool.or_eq_true] at h
  rcases h with h | h
  · exact isAscii_of_isAsciiLower h
  · exact isAscii_of_isAsciiDigit h

theorem not_isAsciiUpper_of_isSmall (h : isSmall c = true) : isAsciiUpper c = false :=
  forall_ascii (P := fun c => isSmall c = true → isAsciiUpper c = false) (by decide +kernel)
    (isAscii_of_isSmall h) h

theorem Word.isSmall_of_mem_text (h : c ∈ w.text) : isSmall c = true := by
  rcases List.mem_cons.mp h with rfl | h
  · rw [isSmall, w.first_lower, Bool.true_or]
  · exact w.rest_small c h

theorem Word.not_mem_text (w : Word) : '_' ∉ w.text := fun h =>
  ne_of_class (Word.isSmall_of_mem_text h) (by decide) rfl

/-- A capitalised word is its capital and small characters. -/
theorem Word.upper_or_small (h : c ∈ w.capitalised) : isAsciiUpper c = true ∨ isSmall c = true := by
  rcases List.mem_cons.mp h with rfl | h
  · exact Or.inl (isAsciiUpper_toUpper w.first_lower)
  · exact Or.inr (w.rest_small c h)

theorem Word.capitalised_map_toLower (w : Word) : w.capitalised.map Char.toLower = w.text := by
  have hrest : ∀ c ∈ w.rest, c.toLower = c := fun c hc =>
    forall_ascii (P := fun c => isSmall c = true → c.toLower = c) (by decide +kernel)
      (isAscii_of_isSmall (w.rest_small c hc)) (w.rest_small c hc)
  rw [capitalised, List.map_cons, toLower_toUpper w.first_lower, List.map_congr_left hrest,
    List.map_id', text]

theorem joined_cons_cons (w w' : Word) (ws : List Word) :
    joined (w :: w' :: ws) = w.text ++ '_' :: joined (w' :: ws) := by
  rw [joined, List.map_cons, List.map_cons, List.intercalate_cons_cons, List.append_assoc]
  rfl

/-- Behind an underscore the words each have one in front. -/
theorem cons_joined (w : Word) (ws : List Word) :
    '_' :: joined (w :: ws) = (w :: ws).flatMap fun w => '_' :: w.text := by
  induction ws generalizing w with
  | nil => simp [joined, List.intercalate]
  | cons w' ws ih => rw [joined_cons_cons, ih w', List.flatMap_cons (x := w), List.cons_append]

/-! ## The Pascal form -/

theorem foldWords_append (ht : '_' ∉ t) : foldWords (t ++ u) = t ++ foldWords u := by
  induction t with
  | nil => rfl
  | cons c t ih =>
      rw [List.mem_cons, not_or] at ht
      rw [List.cons_append, foldWords_cons (Ne.symm ht.1), ih ht.2, List.cons_append]

theorem foldWords_words (ws : List Word) :
    foldWords (ws.flatMap fun w => '_' :: w.text) = ws.flatMap Word.capitalised := by
  induction ws with
  | nil => rfl
  | cons w ws ih =>
      have hrest : '_' ∉ w.rest := fun h => w.not_mem_text (List.mem_cons_of_mem _ h)
      rw [List.flatMap_cons, List.flatMap_cons, Word.text, List.cons_append, List.cons_append,
        foldWords, if_pos w.first_lower, foldWords_append hrest, ih, Word.capitalised,
        List.cons_append]

/-- The first letter is spelled as its one capital. -/
theorem recase_of_lower (h : isAsciiLower c = true) (t : Text) :
    recase isLower upperChar (c :: t) = c.toUpper :: t := by
  have hascii := isAscii_of_isAsciiLower h
  have hlower : isLower c = true := by rw [isLower_eq_isAsciiLower hascii, h]
  rw [recase, if_pos hlower, upperChar_of_isAscii hascii, List.singleton_append]

/-- **The Pascal form has a capital at the start of each word.** -/
theorem pascal_joined (ws : List Word) : pascal (joined ws) = ws.flatMap Word.capitalised := by
  cases ws with
  | nil => rfl
  | cons w ws =>
      have hjoined : joined (w :: ws) = w.text ++ ws.flatMap fun w => '_' :: w.text := by
        have := cons_joined w ws
        rw [List.flatMap_cons, List.cons_append] at this
        exact List.tail_eq_of_cons_eq this
      rw [pascal_eq, hjoined, foldWords_append w.not_mem_text, foldWords_words, Word.text,
        List.cons_append, recase_of_lower w.first_lower, List.flatMap_cons, Word.capitalised]
      rfl

/-! ## Boundaries that are seen -/

/-- Behind a text that is small but for its first character, a word
starts or not by the last character alone. -/
theorem markWords_append {a d : Char} (ht : ∀ c ∈ t, isSmall c = true) :
    markWords (a :: t ++ d :: u) = a :: t ++
      ((if startsWord ((a :: t).getLast (List.cons_ne_nil a t)) d u.head? then ['_'] else []) ++
        markWords (d :: u)) := by
  induction t generalizing a with
  | nil =>
      rw [List.singleton_append, markWords]
      split <;> simp_all
  | cons b t ih =>
      have hb : isAsciiUpper b = false := not_isAsciiUpper_of_isSmall (ht b (by simp))
      have hinner : startsWord a b (t ++ d :: u).head? = false := by
        rw [startsWord, hb, Bool.false_and]
      have hnext : markWords (a :: b :: t ++ d :: u) = a :: markWords (b :: t ++ d :: u) := by
        rw [List.cons_append, List.cons_append, markWords, hinner, if_neg Bool.false_ne_true]
      have hlast : (a :: b :: t).getLast (List.cons_ne_nil _ _)
          = (b :: t).getLast (List.cons_ne_nil _ _) := rfl
      rw [hlast, hnext, ih fun c hc => ht c (List.mem_cons_of_mem b hc)]
      rfl

/-- What stands behind a word starts with a capital. -/
theorem head?_rest_append (w : Word) (ws : List Word) :
    (w.rest ++ ws.flatMap Word.capitalised).head?.any isAsciiLower
      = w.rest.head?.any isAsciiLower := by
  cases hrest : w.rest with
  | cons c rest => rfl
  | nil =>
      cases ws with
      | nil => rfl
      | cons w' ws =>
          exact not_isAsciiLower_of_isAsciiUpper (isAsciiUpper_toUpper w'.first_lower)

/-- A word is seen to start at a visible boundary and nowhere else. -/
theorem startsWord_capitalised_iff (w w' : Word) (ws : List Word) :
    startsWord (w.capitalised.getLast (List.cons_ne_nil _ _)) w'.first.toUpper
      (w'.rest ++ ws.flatMap Word.capitalised).head? = true ↔ w.Visible w' := by
  have hupper : isAsciiUpper w'.first.toUpper = true := isAsciiUpper_toUpper w'.first_lower
  rw [startsWord, hupper, Bool.true_and, ← isSmall]
  by_cases hrest : w.rest = []
  · -- a single letter: its capital is no small character, so the next one decides
    have hcapital : isAsciiUpper w.first.toUpper = true := isAsciiUpper_toUpper w.first_lower
    have hlarge : isSmall w.first.toUpper = false := by
      cases h : isSmall w.first.toUpper with
      | false => rfl
      | true => rw [not_isAsciiUpper_of_isSmall h] at hcapital; exact absurd hcapital (by decide)
    have hlast : w.capitalised.getLast (List.cons_ne_nil _ _) = w.first.toUpper := by
      simp [Word.capitalised, hrest]
    rw [hlast, hlarge, hcapital, Bool.false_or, Bool.true_and, head?_rest_append]
    simp [Word.Visible, Word.text, hrest, List.head?_eq_getElem?]
  · have hmem : w.capitalised.getLast (List.cons_ne_nil _ _) ∈ w.rest := by
      have hlast : w.capitalised.getLast (List.cons_ne_nil _ _) = w.rest.getLast hrest :=
        List.getLast_cons hrest
      rw [hlast]
      exact List.getLast_mem hrest
    have hlong : 2 ≤ w.text.length := by
      have := List.length_pos_iff.mpr hrest
      rw [Word.text, List.length_cons]
      omega
    rw [w.rest_small _ hmem, Bool.true_or]
    exact iff_of_true rfl (Or.inl hlong)

/-- The words with an underscore at each visible boundary. -/
def spaced : List Word → Text
  | w :: w' :: ws => w.text ++ ((if w.Visible w' then ['_'] else []) ++ spaced (w' :: ws))
  | [w] => w.text
  | [] => []

theorem markWords_capitalised (w : Word) : markWords w.capitalised = w.capitalised :=
  markWords_eq_self fun c hc => not_isAsciiUpper_of_isSmall (w.rest_small c hc)

/-- One word on: what stands behind it is marked on its own. -/
theorem markWords_words (w w' : Word) (ws : List Word) :
    markWords ((w :: w' :: ws).flatMap Word.capitalised)
      = w.capitalised ++ ((if w.Visible w' then ['_'] else []) ++
          markWords ((w' :: ws).flatMap Word.capitalised)) := by
  have hstep : markWords (w.capitalised ++ (w' :: ws).flatMap Word.capitalised)
      = w.capitalised ++ ((if startsWord (w.capitalised.getLast (List.cons_ne_nil _ _))
          w'.first.toUpper (w'.rest ++ ws.flatMap Word.capitalised).head? then ['_'] else []) ++
          markWords ((w' :: ws).flatMap Word.capitalised)) := markWords_append w.rest_small
  simp only [startsWord_capitalised_iff] at hstep
  rw [List.flatMap_cons, hstep]

theorem map_toLower_markWords (ws : List Word) :
    (markWords (ws.flatMap Word.capitalised)).map Char.toLower = spaced ws := by
  fun_induction spaced ws with
  | case1 w w' ws ih =>
      rw [markWords_words, List.map_append, List.map_append, ih, w.capitalised_map_toLower]
      split <;> rfl
  | case2 w => rw [List.flatMap_singleton, markWords_capitalised, w.capitalised_map_toLower]
  | case3 => rfl

theorem upper_or_small_of_mem_words {ws : List Word} (h : c ∈ ws.flatMap Word.capitalised) :
    isAsciiUpper c = true ∨ isSmall c = true := by
  obtain ⟨w, -, hw⟩ := List.mem_flatMap.mp h
  exact Word.upper_or_small hw

theorem lower_markWords_words (ws : List Word) :
    lower (markWords (ws.flatMap Word.capitalised)) = spaced ws := by
  rw [lower_of_ascii, map_toLower_markWords]
  intro c hc
  rcases mem_markWords hc with rfl | hc
  · decide
  · exact (upper_or_small_of_mem_words hc).elim isAscii_of_isAsciiUpper isAscii_of_isSmall

/-! ## The passes behind the lowering find nothing to do -/

theorem exists_spaced_eq_cons (w : Word) (ws : List Word) :
    ∃ t, spaced (w :: ws) = w.first :: t := by
  cases ws with
  | nil => exact ⟨w.rest, rfl⟩
  | cons w' ws => exact ⟨_, rfl⟩

theorem spaced_ne_nil (w : Word) (ws : List Word) : spaced (w :: ws) ≠ [] := by
  obtain ⟨t, ht⟩ := exists_spaced_eq_cons w ws
  rw [ht]
  exact List.cons_ne_nil _ _

theorem startsOutside_spaced (ws : List Word) : StartsOutside (· == '_') (spaced ws) := by
  cases ws with
  | nil => exact startsOutside_nil
  | cons w ws =>
      obtain ⟨t, ht⟩ := exists_spaced_eq_cons w ws
      rw [ht, startsOutside_cons, beq_eq_false_iff_ne]
      exact ne_of_class w.first_lower (by decide)

theorem Word.endsOutside_text (w : Word) : EndsOutside (· == '_') w.text :=
  endsOutside_of_forall fun _ hc =>
    beq_eq_false_iff_ne.mpr (ne_of_class (Word.isSmall_of_mem_text hc) (by decide))

theorem endsOutside_spaced (ws : List Word) : EndsOutside (· == '_') (spaced ws) := by
  fun_induction spaced ws with
  | case1 w w' ws ih =>
      have hne := spaced_ne_nil w' ws
      exact (endsOutside_append (List.append_ne_nil_of_right_ne_nil _ hne)).mpr
        ((endsOutside_append hne).mpr ih)
  | case2 w => exact w.endsOutside_text
  | case3 => exact endsOutside_nil

theorem squeeze_append (ht : '_' ∉ t) : squeeze (t ++ u) = t ++ squeeze u := by
  induction t with
  | nil => rfl
  | cons c t ih =>
      rw [List.mem_cons, not_or] at ht
      rw [List.cons_append, squeeze, ih ht.2, List.cons_append]
      exact fun _ h _ => ht.1 h.symm

theorem squeeze_cons (ht : StartsOutside (· == '_') t) (c : Char) :
    squeeze (c :: t) = c :: squeeze t := by
  rw [squeeze]
  rintro rest - rfl
  exact absurd (startsOutside_cons.mp ht) (by decide)

theorem squeeze_spaced (ws : List Word) : squeeze (spaced ws) = spaced ws := by
  fun_induction spaced ws with
  | case1 w w' ws ih =>
      rw [squeeze_append w.not_mem_text]
      split
      · rw [List.singleton_append, squeeze_cons (startsOutside_spaced (w' :: ws)), ih]
      · rw [List.nil_append, ih]
  | case2 w =>
      have htext := squeeze_append (u := []) w.not_mem_text
      rwa [List.append_nil, squeeze, List.append_nil] at htext
  | case3 => rfl

/-- **The snake form of a Pascal form has the underscores of the visible
boundaries.** -/
theorem snake_pascal_joined (ws : List Word) : snake (pascal (joined ws)) = spaced ws := by
  have hhyphen : '-' ∉ ws.flatMap Word.capitalised := by
    intro h
    rcases upper_or_small_of_mem_words h with h | h <;> exact absurd h (by decide)
  rw [pascal_joined, snake_eq, unhyphened_eq_self hhyphen, lower_markWords_words, squeeze_spaced,
    stripUnderscores_eq_self (startsOutside_spaced ws) (endsOutside_spaced ws)]

theorem spaced_eq_joined_iff (ws : List Word) :
    spaced ws = joined ws ↔ ws.IsChain Word.Visible := by
  fun_induction spaced ws with
  | case1 w w' ws ih =>
      rw [joined_cons_cons, List.append_cancel_left_eq, List.isChain_cons_cons]
      by_cases hvisible : w.Visible w'
      · rw [if_pos hvisible, List.singleton_append, List.cons.injEq, ih]
        simp [hvisible]
      · rw [if_neg hvisible, List.nil_append]
        obtain ⟨t, ht⟩ := exists_spaced_eq_cons w' ws
        have hfirst : w'.first ≠ '_' := ne_of_class w'.first_lower (by decide)
        simp [ht, hfirst, hvisible]
  | case2 w => simp [joined, List.intercalate]
  | case3 => simp [joined, List.intercalate]

/-! ## Names by their Pascal forms -/

/-- Each capital written small, behind an underscore. -/
def unfoldWords (t : Text) : Text :=
  t.flatMap fun c => if isAsciiUpper c then ['_', c.toLower] else [c]

theorem unfoldWords_cons (h : isAsciiUpper c = false) (t : Text) :
    unfoldWords (c :: t) = c :: unfoldWords t := by
  rw [unfoldWords, List.flatMap_cons, h, if_neg Bool.false_ne_true, List.singleton_append]
  rfl

theorem unfoldWords_cons_of_upper (h : isAsciiUpper c = true) (t : Text) :
    unfoldWords (c :: t) = '_' :: c.toLower :: unfoldWords t := by
  rw [unfoldWords, List.flatMap_cons, if_pos h]
  rfl

theorem unfoldWords_eq_self (h : ∀ c ∈ t, isAsciiUpper c = false) : unfoldWords t = t := by
  induction t with
  | nil => rfl
  | cons c t ih =>
      rw [unfoldWords_cons (h c (by simp)), ih fun d hd => h d (List.mem_cons_of_mem c hd)]

theorem Word.unfoldWords_capitalised (w : Word) : unfoldWords w.capitalised = '_' :: w.text := by
  have hrest : ∀ c ∈ w.rest, isAsciiUpper c = false :=
    fun c hc => not_isAsciiUpper_of_isSmall (w.rest_small c hc)
  rw [capitalised, unfoldWords_cons_of_upper (isAsciiUpper_toUpper w.first_lower),
    toLower_toUpper w.first_lower, unfoldWords_eq_self hrest, text]

theorem unfoldWords_pascal (ws : List Word) :
    unfoldWords (pascal (joined ws)) = ws.flatMap fun w => '_' :: w.text := by
  rw [pascal_joined, unfoldWords, List.flatMap_assoc]
  exact List.flatMap_congr fun w _ => w.unfoldWords_capitalised

/-- The words written out; the first of them starts the name. -/
def uncapitalise (t : Text) : Text := (unfoldWords t).tail

theorem uncapitalise_pascal (ws : List Word) : uncapitalise (pascal (joined ws)) = joined ws := by
  cases ws with
  | nil => rfl
  | cons w ws => rw [uncapitalise, unfoldWords_pascal, ← cons_joined, List.tail_cons]

/-- **A name in small words comes back from its Pascal form exactly when
all its boundaries are visible**, and no other such name has that Pascal
form. -/
theorem snake_pascal_words :
    (∀ ws : List Word, snake (pascal (joined ws)) = joined ws ↔ ws.IsChain Word.Visible) ∧
      Set.InjOn pascal (Set.range joined) := by
  constructor
  · intro ws
    rw [snake_pascal_joined]
    exact spaced_eq_joined_iff ws
  · have hleft : Set.LeftInvOn uncapitalise pascal (Set.range joined) := by
      rintro name ⟨ws, rfl⟩
      exact uncapitalise_pascal ws
    exact hleft.injOn

/-- Initials side by side are lost, and still tell names apart. -/
theorem snake_pascal_words_initials :
    snake (pascal "user_id".toList) = "user_id".toList ∧
      snake (pascal "a_b".toList) ≠ "a_b".toList ∧ pascal "a_b".toList ≠ pascal "ab".toList := by
  have huser : joined [⟨'u', "ser".toList, by decide, List.all_eq_true.mp (by decide)⟩,
      ⟨'i', "d".toList, by decide, List.all_eq_true.mp (by decide)⟩] = "user_id".toList := by
    decide
  have hinitials : joined [⟨'a', [], by decide, by simp⟩, ⟨'b', [], by decide, by simp⟩]
      = "a_b".toList := by decide
  have hword : joined [⟨'a', "b".toList, by decide, List.all_eq_true.mp (by decide)⟩]
      = "ab".toList := by decide
  refine ⟨?_, ?_, ?_⟩
  · rw [← huser]
    exact (snake_pascal_words.1 _).mpr (by decide)
  · rw [← hinitials]
    exact fun h => absurd ((snake_pascal_words.1 _).mp h) (by decide)
  · rw [← hinitials, ← hword]
    exact fun h => absurd (snake_pascal_words.2 ⟨_, rfl⟩ ⟨_, rfl⟩ h) (by decide)

end WireTypes.Name
