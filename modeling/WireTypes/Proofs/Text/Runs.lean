import WireTypes.Proofs.Text.Classes

/-!
# Text — Runs and trimming

The readers of lines take runs off the start of a text: the longest run
of a class, then what follows it. Here each such step gets its law in
both directions: what it makes of a text that was put together from a
run and a rest, and how a text it accepted was put together.

`StartsOutside` is the condition that carries everything: a rest that
starts outside the class cannot prolong the run before it.
-/

namespace WireTypes.Text

/-! ## Where a text starts and ends -/

/-- The text is empty or starts with a character outside the class. -/
def StartsOutside (p : Char → Bool) (t : Text) : Prop := ∀ c ∈ t.head?, p c = false

/-- The text is empty or ends in a character outside the class. -/
def EndsOutside (p : Char → Bool) (t : Text) : Prop := ∀ c ∈ t.getLast?, p c = false

variable {p : Char → Bool} {t run rest gap : Text} {c : Char}

@[simp] theorem startsOutside_nil : StartsOutside p [] := by simp [StartsOutside]

@[simp] theorem startsOutside_cons : StartsOutside p (c :: t) ↔ p c = false := by
  simp [StartsOutside]

@[simp] theorem endsOutside_nil : EndsOutside p [] := by simp [EndsOutside]

@[simp] theorem endsOutside_concat : EndsOutside p (t ++ [c]) ↔ p c = false := by
  simp [EndsOutside]

theorem startsOutside_append (hne : run ≠ []) :
    StartsOutside p (run ++ rest) ↔ StartsOutside p run := by
  rw [StartsOutside, StartsOutside, List.head?_append_of_ne_nil _ hne]

theorem endsOutside_append (hne : rest ≠ []) :
    EndsOutside p (run ++ rest) ↔ EndsOutside p rest := by
  rw [EndsOutside, EndsOutside, List.getLast?_append_of_ne_nil _ hne]

/-- The end of a text ends as the text does. -/
theorem EndsOutside.of_suffix (h : EndsOutside p t) (hsuffix : run <:+ t) :
    EndsOutside p run := by
  by_cases hne : run = []
  · rw [hne]; exact endsOutside_nil
  · obtain ⟨before, rfl⟩ := hsuffix
    exact (endsOutside_append hne).mp h

theorem startsOutside_of_forall (h : ∀ c ∈ t, p c = false) : StartsOutside p t :=
  fun c hc => h c (List.mem_of_mem_head? hc)

theorem endsOutside_of_forall (h : ∀ c ∈ t, p c = false) : EndsOutside p t :=
  fun c hc => h c (List.mem_of_mem_getLast? hc)

theorem endsOutside_iff_reverse : EndsOutside p t ↔ StartsOutside p t.reverse := by
  rw [EndsOutside, StartsOutside, List.head?_reverse]

instance : Decidable (StartsOutside p t) :=
  match t with
  | [] => isTrue startsOutside_nil
  | c :: _ => decidable_of_iff (p c = false) startsOutside_cons.symm

instance : Decidable (EndsOutside p t) :=
  decidable_of_iff (StartsOutside p t.reverse) endsOutside_iff_reverse.symm

/-! ## The longest run of a class -/

/-- A text without a character goes on up to its next occurrence. -/
theorem bne_of_not_mem (h : c ∉ t) : ∀ d ∈ t, (d != c) = true := by
  intro d hd
  rw [bne_iff_ne]
  rintro rfl
  exact h hd

theorem takeWhile_append_rest (hrun : ∀ c ∈ run, p c = true) (hrest : StartsOutside p rest) :
    (run ++ rest).takeWhile p = run := by
  rw [List.takeWhile_append_of_pos hrun]
  cases rest with
  | nil => simp
  | cons c rest => simp [startsOutside_cons.mp hrest]

theorem dropWhile_of_startsOutside (h : StartsOutside p t) : t.dropWhile p = t := by
  cases t with
  | nil => rfl
  | cons c t => simp [startsOutside_cons.mp h]

theorem dropWhile_append_rest (hrun : ∀ c ∈ run, p c = true) (hrest : StartsOutside p rest) :
    (run ++ rest).dropWhile p = rest := by
  rw [List.dropWhile_append_of_pos hrun, dropWhile_of_startsOutside hrest]

theorem startsOutside_dropWhile (t : Text) : StartsOutside p (t.dropWhile p) := by
  intro c hc
  have h := List.head?_dropWhile_not p t
  rw [Option.mem_def.mp hc] at h
  simpa using h

/-- Dropping a class from the end takes a run of it off and nothing else. -/
theorem exists_dropEnd_append (t : Text) :
    ∃ run, t = (t.reverse.dropWhile p).reverse ++ run ∧ ∀ c ∈ run, p c = true := by
  refine ⟨(t.reverse.takeWhile p).reverse, ?_, ?_⟩
  · rw [← List.reverse_append, List.takeWhile_append_dropWhile, List.reverse_reverse]
  · intro c hc
    exact List.mem_takeWhile_imp (List.mem_reverse.mp hc)

/-- A run that nothing prolongs is read off, and only such a run. -/
theorem takeRun?_eq_some_iff :
    takeRun? p t = some (run, rest) ↔
      t = run ++ rest ∧ run ≠ [] ∧ (∀ c ∈ run, p c = true) ∧ StartsOutside p rest := by
  constructor
  · intro h
    rw [takeRun?] at h
    split at h
    · cases h
    · rename_i hne
      cases h
      exact ⟨List.takeWhile_append_dropWhile.symm, by simpa using hne,
        fun c hc => List.mem_takeWhile_imp hc, startsOutside_dropWhile t⟩
  · rintro ⟨rfl, hne, hrun, hrest⟩
    rw [takeRun?, takeWhile_append_rest hrun hrest, dropWhile_append_rest hrun hrest,
      if_neg (by simpa using hne)]

theorem takeRun?_append (hne : run ≠ []) (hrun : ∀ c ∈ run, p c = true)
    (hrest : StartsOutside p rest) : takeRun? p (run ++ rest) = some (run, rest) :=
  takeRun?_eq_some_iff.mpr ⟨rfl, hne, hrun, hrest⟩

theorem takeRun?_of_startsOutside (h : StartsOutside p t) : takeRun? p t = none := by
  cases t with
  | nil => rfl
  | cons c t => simp [takeRun?, startsOutside_cons.mp h]

/-- A word that is read is one. -/
theorem word_of_takeWord? (h : takeWord? t = some (run, rest)) :
    run ≠ [] ∧ ∀ c ∈ run, isWord c = true := by
  obtain ⟨-, hne, hword, -⟩ := takeRun?_eq_some_iff.mp h
  exact ⟨hne, hword⟩

/-! ## Blanks at the start -/

theorem trimStart_append (hgap : ∀ c ∈ gap, isBlank c = true) :
    trimStart (gap ++ t) = trimStart t := List.dropWhile_append_of_pos hgap

theorem trimStart_of_startsOutside (h : StartsOutside isBlank t) : trimStart t = t :=
  dropWhile_of_startsOutside h

theorem trimStart_append_cons (hgap : ∀ c ∈ gap, isBlank c = true) (hc : isBlank c = false) :
    trimStart (gap ++ c :: t) = c :: t := by
  rw [trimStart_append hgap, trimStart_of_startsOutside (startsOutside_cons.mpr hc)]

/-- Trimming takes blanks off the start and nothing else. -/
theorem exists_trimStart_append (t : Text) :
    ∃ gap, t = gap ++ trimStart t ∧ ∀ c ∈ gap, isBlank c = true :=
  ⟨t.takeWhile isBlank, List.takeWhile_append_dropWhile.symm,
    fun _ hc => List.mem_takeWhile_imp hc⟩

/-- The first run without blanks behind a gap. -/
theorem takeWhile_trimStart (hgap : ∀ c ∈ gap, isBlank c = true) (hne : run ≠ [])
    (hrun : ∀ c ∈ run, isBlank c = false) (hrest : StartsOutside (!isBlank ·) rest) :
    (trimStart (gap ++ (run ++ rest))).takeWhile (!isBlank ·) = run := by
  rw [trimStart_append hgap, trimStart_of_startsOutside]
  · exact takeWhile_append_rest (fun c hc => by rw [hrun c hc]; rfl) hrest
  · exact (startsOutside_append hne).mpr (startsOutside_of_forall hrun)

/-- One space in front is trimmed off. -/
theorem trimStart_space (h : StartsOutside isBlank t) : trimStart (' ' :: t) = t := by
  have htrim : trimStart ([' '] ++ t) = trimStart t := trimStart_append (by simp [isBlank_space])
  rw [trimStart_of_startsOutside h] at htrim
  exact htrim

theorem startsOutside_trimStart (t : Text) : StartsOutside isBlank (trimStart t) :=
  startsOutside_dropWhile t

/-- A character that is no blank is left. -/
theorem trimStart_ne_nil (h : c ∈ t) (hc : isBlank c = false) : trimStart t ≠ [] := by
  intro hnil
  have hall := List.dropWhile_eq_nil_iff.mp hnil c h
  rw [hc] at hall
  exact absurd hall (by decide)

/-- At least one blank is passed over, and then all that follow it. -/
theorem skipBlanks?_eq_some_iff :
    skipBlanks? t = some rest ↔
      ∃ gap, t = gap ++ rest ∧ gap ≠ [] ∧ (∀ c ∈ gap, isBlank c = true) ∧
        StartsOutside isBlank rest := by
  constructor
  · intro h
    rw [skipBlanks?] at h
    split at h
    · rename_i hhead
      cases h
      refine ⟨t.takeWhile isBlank, List.takeWhile_append_dropWhile.symm, ?_,
        fun c hc => List.mem_takeWhile_imp hc, startsOutside_trimStart t⟩
      cases t with
      | nil => simp at hhead
      | cons c t => simp at hhead; simp [hhead]
    · cases h
  · rintro ⟨gap, rfl, hne, hgap, hrest⟩
    obtain ⟨b, gap, rfl⟩ := List.exists_cons_of_ne_nil hne
    rw [skipBlanks?, if_pos (by simp [hgap b (by simp)]), trimStart_append hgap,
      trimStart_of_startsOutside hrest]

theorem skipBlanks?_append (hne : gap ≠ []) (hgap : ∀ c ∈ gap, isBlank c = true)
    (hrest : StartsOutside isBlank rest) : skipBlanks? (gap ++ rest) = some rest :=
  skipBlanks?_eq_some_iff.mpr ⟨gap, rfl, hne, hgap, hrest⟩

theorem skipBlanks?_of_startsOutside (h : StartsOutside isBlank t) : skipBlanks? t = none := by
  cases t with
  | nil => rfl
  | cons c t => simp [skipBlanks?, startsOutside_cons.mp h]

/-! ## Blanks at the end -/

theorem trimEnd_append (hgap : ∀ c ∈ gap, isBlank c = true) :
    trimEnd (t ++ gap) = trimEnd t := by
  rw [trimEnd, List.reverse_append,
    List.dropWhile_append_of_pos (by simpa using hgap), trimEnd]

theorem trimEnd_of_endsOutside (h : EndsOutside isBlank t) : trimEnd t = t := by
  have hdrop : t.reverse.dropWhile isBlank = t.reverse :=
    dropWhile_of_startsOutside (endsOutside_iff_reverse.mp h)
  rw [trimEnd, hdrop, List.reverse_reverse]

theorem endsOutside_trimEnd (t : Text) : EndsOutside isBlank (trimEnd t) := by
  rw [endsOutside_iff_reverse, trimEnd, List.reverse_reverse]
  exact startsOutside_dropWhile t.reverse

/-- Trimming takes blanks off the end and nothing else. -/
theorem exists_trimEnd_append (t : Text) :
    ∃ gap, t = trimEnd t ++ gap ∧ ∀ c ∈ gap, isBlank c = true :=
  exists_dropEnd_append t

theorem startsOutside_trimEnd (h : StartsOutside p t) : StartsOutside p (trimEnd t) := by
  obtain ⟨gap, ht, -⟩ := exists_trimEnd_append t
  by_cases hne : trimEnd t = []
  · rw [hne]; exact startsOutside_nil
  · rw [ht, startsOutside_append hne] at h
    exact h

/-! ## Both ends -/

theorem trim_of_outside (hstart : StartsOutside isBlank t) (hend : EndsOutside isBlank t) :
    trim t = t := by
  rw [trim, trimStart_of_startsOutside hstart, trimEnd_of_endsOutside hend]

theorem trim_of_not_blank (h : ∀ c ∈ t, isBlank c = false) : trim t = t :=
  trim_of_outside (startsOutside_of_forall h) (endsOutside_of_forall h)

/-- A text is what trimming leaves of it, between blanks. -/
theorem exists_trim_between (t : Text) : ∃ before after, t = before ++ (trim t ++ after) ∧
    (∀ c ∈ before, isBlank c = true) ∧ (∀ c ∈ after, isBlank c = true) := by
  obtain ⟨before, ht, hbefore⟩ := exists_trimStart_append t
  obtain ⟨after, htrim, hafter⟩ := exists_trimEnd_append (trimStart t)
  exact ⟨before, after, by rw [trim, ← htrim, ← ht], hbefore, hafter⟩

theorem trim_trimStart (t : Text) : trim (trimStart t) = trim t := by
  rw [trim, trimStart_of_startsOutside (startsOutside_trimStart t), trim]

theorem startsOutside_trim (t : Text) : StartsOutside isBlank (trim t) :=
  startsOutside_trimEnd (startsOutside_trimStart t)

theorem endsOutside_trim (t : Text) : EndsOutside isBlank (trim t) :=
  endsOutside_trimEnd (trimStart t)

/-- Blanks around a text do not change what trimming leaves of it. -/
theorem trim_append_append {before after : Text} (hbefore : ∀ c ∈ before, isBlank c = true)
    (hafter : ∀ c ∈ after, isBlank c = true) (ht : StartsOutside isBlank t) (hne : t ≠ []) :
    trim (before ++ (t ++ after)) = trimEnd t := by
  rw [trim, trimStart_append hbefore, trimStart_of_startsOutside, trimEnd_append hafter]
  exact (startsOutside_append hne).mpr ht

/-- Trimming does not see the blanks around a text. -/
theorem trim_between_blanks {before after : Text} (hbefore : ∀ c ∈ before, isBlank c = true)
    (hafter : ∀ c ∈ after, isBlank c = true) (t : Text) :
    trim (before ++ (t ++ after)) = trim t := by
  have hend : trimStart after = [] := by
    rw [← List.append_nil after, trimStart_append hafter]
    rfl
  rw [trim, trimStart_append hbefore, trim]
  by_cases hblank : trimStart t = []
  · have hall : trimStart (t ++ after) = [] := by
      rw [trimStart, List.dropWhile_append, ← trimStart, ← trimStart, hblank]
      exact hend
    rw [hall, hblank]
  · have hkept : trimStart (t ++ after) = trimStart t ++ after := by
      rw [trimStart, List.dropWhile_append, ← trimStart, if_neg (by simpa using hblank)]
    rw [hkept, trimEnd_append hafter]

/-- What ends in no blank is not shortened by trimming behind it. -/
theorem prefix_trimEnd (h : EndsOutside isBlank run) (rest : Text) :
    run <+: trimEnd (run ++ rest) := by
  obtain ⟨gap, ht, hgap⟩ := exists_trimEnd_append (run ++ rest)
  rcases List.append_eq_append_iff.mp ht with ⟨more, htrim, -⟩ | ⟨more, hrun, hmore⟩
  · exact ⟨more, htrim.symm⟩
  · -- the rest of the run would be blank, and the run ends in no blank
    have hnil : more = [] := by
      by_contra hne
      rw [hrun, endsOutside_append hne] at h
      have hblank : isBlank (more.getLast hne) = true := hgap _ (by rw [hmore]; simp)
      rw [h _ (List.getLast?_eq_some_getLast hne)] at hblank
      exact absurd hblank (by decide)
    rw [hnil, List.append_nil] at hrun
    exact ⟨[], by rw [List.append_nil]; exact hrun⟩

theorem mem_of_mem_trimEnd {c : Char} (h : c ∈ trimEnd t) : c ∈ t := by
  obtain ⟨gap, ht, -⟩ := exists_trimEnd_append t
  rw [ht]
  exact List.mem_append_left gap h

theorem mem_of_mem_trim {c : Char} (h : c ∈ trim t) : c ∈ t :=
  List.dropWhile_subset _ (mem_of_mem_trimEnd h)

/-- Blanks alone leave nothing. -/
theorem trimEnd_ne_nil (h : StartsOutside isBlank t) (hne : t ≠ []) : trimEnd t ≠ [] := by
  intro hnil
  obtain ⟨gap, ht, hgap⟩ := exists_trimEnd_append t
  rw [hnil, List.nil_append] at ht
  subst ht
  obtain ⟨c, rest, rfl⟩ := List.exists_cons_of_ne_nil hne
  rw [startsOutside_cons, hgap c (by simp)] at h
  exact absurd h (by decide)

/-! ## One line -/

theorem fitsLine_of_not_mem (h : '\n' ∉ t) : fitsLine t = true := by
  induction t with
  | nil => rfl
  | cons c rest ih =>
      rw [fitsLine]
      · simp only [List.mem_cons, not_or] at h
        simp [ih h.2, Ne.symm h.1]
      · rintro rfl rfl
        simp at h

theorem dropFinalNewline_of_not_mem (h : '\n' ∉ t) : dropFinalNewline t = t := by
  rw [dropFinalNewline]
  split
  · rename_i rest heq
    have : '\n' ∈ t.reverse := by rw [heq]; simp
    exact absurd (List.mem_reverse.mp this) h
  · rfl

/-- A text that fits a line is one line, perhaps with a line feed. -/
theorem exists_of_fitsLine (h : fitsLine t = true) :
    ∃ line, '\n' ∉ line ∧ (t = line ∨ t = line ++ ['\n']) := by
  fun_induction fitsLine t with
  | case1 => exact ⟨[], by simp, Or.inl rfl⟩
  | case2 => exact ⟨[], by simp, Or.inr rfl⟩
  | case3 c rest hne ih =>
      rw [Bool.and_eq_true, bne_iff_ne] at h
      obtain ⟨line, hline, hrest⟩ := ih h.2
      refine ⟨c :: line, ?_, ?_⟩
      · rw [List.mem_cons, not_or]
        exact ⟨Ne.symm h.1, hline⟩
      · rcases hrest with rfl | rfl
        · exact Or.inl rfl
        · exact Or.inr rfl

theorem not_mem_dropFinalNewline (h : fitsLine t = true) : '\n' ∉ dropFinalNewline t := by
  obtain ⟨line, hline, rfl | rfl⟩ := exists_of_fitsLine h
  · rwa [dropFinalNewline_of_not_mem hline]
  · have hdrop : dropFinalNewline (line ++ ['\n']) = line := by simp [dropFinalNewline]
    rwa [hdrop]

/-- What a text starts with that fits a line, it starts with before its
line feed as well. -/
theorem prefix_dropFinalNewline (hrun : '\n' ∉ run) (h : run <+: t) :
    run <+: dropFinalNewline t := by
  rw [dropFinalNewline]
  split
  · rename_i rest heq
    have ht : t = rest.reverse ++ ['\n'] := by rw [← List.reverse_reverse t, heq]; simp
    rw [ht] at h
    rcases List.prefix_concat_iff.mp h with rfl | h
    · simp at hrun
    · exact h
  · exact h

end WireTypes.Text
