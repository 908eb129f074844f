import WireTypes.Proofs.Text.Lines

/-!
# Text — What stands at the end of a line

A line may be followed by blanks, a carriage return among them. The steps
that readers are made of go through such blanks unchanged: each reads the
same and leaves the blanks at the end of what it leaves. `withReturns`
writes a text with the longer line ending; its lines are those of the
text, with a carriage return behind each one but the last.
-/

namespace WireTypes.Text

variable {α β : Type} {p : Char → Bool} {t part gap : Text} {l : List α}

/-! ## Blanks behind what is read -/

theorem takeWhile_append_of_startsOutside (h : StartsOutside p gap) (t : Text) :
    (t ++ gap).takeWhile p = t.takeWhile p := by
  induction t with
  | nil =>
      cases gap with
      | nil => rfl
      | cons c gap => simp [startsOutside_cons.mp h]
  | cons c t ih =>
      rw [List.cons_append, List.takeWhile_cons, List.takeWhile_cons, ih]

theorem dropWhile_append_of_startsOutside (h : StartsOutside p gap) (t : Text) :
    (t ++ gap).dropWhile p = t.dropWhile p ++ gap := by
  induction t with
  | nil => exact dropWhile_of_startsOutside h
  | cons c t ih =>
      rw [List.cons_append, List.dropWhile_cons, List.dropWhile_cons, ih]
      split
      · rfl
      · rw [List.cons_append]

/-- A run that ends within the text is not prolonged by what follows. -/
theorem takeWhile_append_of_dropWhile_ne_nil (h : t.dropWhile p ≠ []) (gap : Text) :
    (t ++ gap).takeWhile p = t.takeWhile p := by
  have hsplit : t ++ gap = t.takeWhile p ++ (t.dropWhile p ++ gap) := by
    rw [← List.append_assoc, List.takeWhile_append_dropWhile]
  rw [hsplit]
  exact takeWhile_append_rest (fun c hc => List.mem_takeWhile_imp hc)
    ((startsOutside_append h).mpr (startsOutside_dropWhile t))

theorem dropWhile_append_of_dropWhile_ne_nil (h : t.dropWhile p ≠ []) (gap : Text) :
    (t ++ gap).dropWhile p = t.dropWhile p ++ gap := by
  rw [List.dropWhile_append, if_neg (by simpa using h)]

/-- What cannot prolong a run is left behind it. -/
theorem takeRun?_append_gap (h : StartsOutside p gap) (t : Text) :
    takeRun? p (t ++ gap) = (takeRun? p t).map fun r => (r.1, r.2 ++ gap) := by
  rw [takeRun?, takeRun?, takeWhile_append_of_startsOutside h, dropWhile_append_of_startsOutside h]
  split <;> rfl

/-- A text does not run into what starts with none of its characters. -/
theorem isPrefixOf?_append_of_startsOutside (h : StartsOutside part.contains gap) (t : Text) :
    part.isPrefixOf? (t ++ gap) = (part.isPrefixOf? t).map (· ++ gap) := by
  induction part generalizing t with
  | nil => rfl
  | cons c part ih =>
      cases t with
      | nil =>
          cases gap with
          | nil => rfl
          | cons b gap =>
              have hne : c ≠ b := by
                rintro rfl
                simp [startsOutside_cons] at h
              simp [List.isPrefixOf?, hne]
      | cons d t =>
          have hrest : StartsOutside part.contains gap := by
            intro b hb
            have hb := h b hb
            rw [List.contains_cons, Bool.or_eq_false_iff] at hb
            exact hb.2
          rw [List.cons_append, List.isPrefixOf?, List.isPrefixOf?, ih hrest]
          split <;> rfl

theorem trimStart_append_of_startsOutside (h : StartsOutside isBlank gap) (t : Text) :
    trimStart (t ++ gap) = trimStart t ++ gap := dropWhile_append_of_startsOutside h t

/-- Whether a text starts in a class is not changed by what starts outside
it. -/
theorem any_head?_append (h : StartsOutside p gap) (t : Text) :
    (t ++ gap).head?.any p = t.head?.any p := by
  cases t with
  | nil =>
      cases gap with
      | nil => rfl
      | cons c gap => exact startsOutside_cons.mp h
  | cons c t => rfl

theorem skipBlanks?_append_of_startsOutside (h : StartsOutside isBlank gap) (t : Text) :
    skipBlanks? (t ++ gap) = (skipBlanks? t).map (· ++ gap) := by
  rw [skipBlanks?, skipBlanks?, any_head?_append h, trimStart_append_of_startsOutside h]
  split <;> rfl

theorem trimStart_append_of_ne_nil (gap : Text) (h : trimStart t ≠ []) :
    trimStart (t ++ gap) = trimStart t ++ gap := dropWhile_append_of_dropWhile_ne_nil h gap

section Blanks

variable (hgap : ∀ c ∈ gap, isBlank c = true)

include hgap

theorem startsOutside_gap (hp : ∀ c, isBlank c = true → p c = false) : StartsOutside p gap :=
  startsOutside_of_forall fun c hc => hp c (hgap c hc)

theorem takeWord?_append_gap (t : Text) :
    takeWord? (t ++ gap) = (takeWord? t).map fun r => (r.1, r.2 ++ gap) :=
  takeRun?_append_gap (startsOutside_gap hgap fun _ => isWord_of_isBlank) t

/-- A text without blanks does not run into the blanks at the end. -/
theorem isPrefixOf?_append_gap (hpart : part.any isBlank = false) (t : Text) :
    part.isPrefixOf? (t ++ gap) = (part.isPrefixOf? t).map (· ++ gap) := by
  refine isPrefixOf?_append_of_startsOutside (startsOutside_gap hgap fun c hc => ?_) t
  rw [List.contains_eq_mem, decide_eq_false_iff_not]
  intro hmem
  rw [List.any_eq_false] at hpart
  exact hpart c hmem hc

theorem isPrefixOf_append_gap (hpart : part.any isBlank = false) (t : Text) :
    part.isPrefixOf (t ++ gap) = part.isPrefixOf t := by
  rw [← List.isSome_isPrefixOf?_eq_isPrefixOf, ← List.isSome_isPrefixOf?_eq_isPrefixOf,
    isPrefixOf?_append_gap hgap hpart, Option.isSome_map]

/-- Blanks at the end complete no part that has none. -/
theorem hasPart_append_gap (hpart : part.any isBlank = false) (hne : part ≠ []) (t : Text) :
    hasPart part (t ++ gap) = hasPart part t := by
  have hempty : part.isEmpty = false := List.isEmpty_eq_false_iff.mpr hne
  induction t with
  | nil =>
      -- the part would have to start at one of the blanks
      rw [List.nil_append, hasPart, hempty]
      induction gap with
      | nil => exact hempty
      | cons b gap ih =>
          have hstart : part.isPrefixOf ([] ++ b :: gap) = part.isPrefixOf [] :=
            isPrefixOf_append_gap hgap hpart []
          have hnone : part.isPrefixOf [] = false := by
            obtain ⟨c, part, rfl⟩ := List.exists_cons_of_ne_nil hne
            rfl
          rw [List.nil_append, hnone] at hstart
          rw [hasPart, hstart, Bool.false_or]
          exact ih fun c hc => hgap c (List.mem_cons_of_mem _ hc)
  | cons c t ih =>
      have hstart : part.isPrefixOf (c :: t ++ gap) = part.isPrefixOf (c :: t) :=
        isPrefixOf_append_gap hgap hpart (c :: t)
      rw [List.cons_append] at hstart ⊢
      rw [hasPart, hasPart, hstart, ih]

theorem trimStart_gap : trimStart gap = [] := by
  rw [← List.append_nil gap, trimStart_append hgap]
  rfl

theorem trimStart_append_of_eq_nil (h : trimStart t = []) : trimStart (t ++ gap) = [] := by
  rw [trimStart, List.dropWhile_append, ← trimStart, ← trimStart, h]
  exact trimStart_gap hgap

theorem trimStart_append_gap (t : Text) :
    trimStart (t ++ gap) = trimStart t ++ gap ∨ trimStart t = [] ∧ trimStart (t ++ gap) = [] := by
  by_cases hblank : trimStart t = []
  · exact Or.inr ⟨hblank, trimStart_append_of_eq_nil hgap hblank⟩
  · exact Or.inl (trimStart_append_of_ne_nil gap hblank)

theorem trim_append_gap (t : Text) : trim (t ++ gap) = trim t := by
  have htrim : trim ([] ++ (t ++ gap)) = trim t := trim_between_blanks (by simp) hgap t
  exact htrim

/-- A reader that leaves blanks at the end does so behind leading blanks, too. -/
theorem skipBlanks?_bind_append_gap {f : Text → Option β} {k : β → β} (hnil : f [] = none)
    (hf : f (trimStart t ++ gap) = (f (trimStart t)).map k) :
    (skipBlanks? (t ++ gap)).bind f = ((skipBlanks? t).bind f).map k := by
  -- where nothing but blanks is left, the reader finds nothing
  by_cases hblank : trimStart t = []
  · have hend : ∀ u, trimStart u = [] → (skipBlanks? u).bind f = none := by
      intro u hu
      rw [skipBlanks?, hu]
      split
      · exact hnil
      · rfl
    rw [hend t hblank, hend _ (trimStart_append_of_eq_nil hgap hblank)]
    rfl
  · have hhead : (t ++ gap).head? = t.head? := by
      refine List.head?_append_of_ne_nil _ ?_
      rintro rfl
      exact hblank rfl
    rw [skipBlanks?, skipBlanks?, hhead, trimStart_append_of_ne_nil gap hblank]
    split
    · exact hf
    · rfl

/-! A reader that does not see blanks at the end does not see them either
behind other blanks, behind a keyword or behind a word. -/

theorem skipBlanks?_bind_congr_gap {f : Text → Option β} (hnil : f [] = none)
    (hf : f (trimStart t ++ gap) = f (trimStart t)) :
    (skipBlanks? (t ++ gap)).bind f = (skipBlanks? t).bind f := by
  have h := skipBlanks?_bind_append_gap (k := id) hgap hnil (by rw [hf, Option.map_id_fun, id])
  rwa [Option.map_id_fun, id] at h

theorem isPrefixOf?_bind_congr_gap {f : Text → Option β} (hpart : part.any isBlank = false)
    (hf : ∀ t, f (t ++ gap) = f t) (t : Text) :
    (part.isPrefixOf? (t ++ gap)).bind f = (part.isPrefixOf? t).bind f := by
  rw [isPrefixOf?_append_gap hgap hpart]
  cases part.isPrefixOf? t with
  | none => rfl
  | some rest => exact hf rest

theorem takeWord?_bind_congr_gap {f : Text × Text → Option β}
    (hf : ∀ word rest, f (word, rest ++ gap) = f (word, rest)) (t : Text) :
    (takeWord? (t ++ gap)).bind f = (takeWord? t).bind f := by
  rw [takeWord?_append_gap hgap]
  cases takeWord? t with
  | none => rfl
  | some r => exact hf r.1 r.2

end Blanks

/-! ## Carriage returns -/

/-- The text with a carriage return before each line feed. -/
def withReturns (t : Text) : Text := t.flatMap fun c => if c = '\n' then ['\r', '\n'] else [c]

theorem withReturns_append (a b : Text) : withReturns (a ++ b) = withReturns a ++ withReturns b :=
  List.flatMap_append

theorem withReturns_of_not_mem (h : '\n' ∉ t) : withReturns t = t := by
  induction t with
  | nil => rfl
  | cons c t ih =>
      rw [List.mem_cons, not_or] at h
      rw [withReturns, List.flatMap_cons, ← withReturns, ih h.2, if_neg (Ne.symm h.1)]
      rfl

theorem withReturns_newline (t : Text) :
    withReturns ('\n' :: t) = '\r' :: '\n' :: withReturns t := rfl

theorem isBlank_of_mem_withReturns (h : ∀ c ∈ t, isBlank c = true) :
    ∀ c ∈ withReturns t, isBlank c = true := by
  intro c hc
  obtain ⟨d, hd, hmem⟩ := List.mem_flatMap.mp hc
  split at hmem
  · rcases List.mem_cons.mp hmem with rfl | hmem
    · decide
    · rw [List.mem_singleton.mp hmem]
      exact isBlank_newline
  · rw [List.mem_singleton.mp hmem]
    exact h d hd

/-- Trimming takes the carriage returns off with the line feeds. -/
theorem trim_withReturns (t : Text) : trim (withReturns t) = withReturns (trim t) := by
  obtain ⟨before, after, ht, hbefore, hafter⟩ := exists_trim_between t
  have hkept : ∀ c : Char, isBlank c = false → withReturns [c] = [c] := by
    intro c hc
    refine withReturns_of_not_mem fun hmem => ?_
    rw [← List.mem_singleton.mp hmem, isBlank_newline] at hc
    exact absurd hc (by decide)
  have hstart : StartsOutside isBlank (withReturns (trim t)) := by
    cases hcases : trim t with
    | nil => exact startsOutside_nil
    | cons c u =>
        have hc : isBlank c = false := startsOutside_cons.mp (hcases ▸ startsOutside_trim t)
        rw [← List.singleton_append, withReturns_append, hkept c hc, List.singleton_append,
          startsOutside_cons]
        exact hc
  have hend : EndsOutside isBlank (withReturns (trim t)) := by
    rcases List.eq_nil_or_concat' (trim t) with hcases | ⟨u, c, hcases⟩
    · rw [hcases]
      exact endsOutside_nil
    · have hc : isBlank c = false := endsOutside_concat.mp (hcases ▸ endsOutside_trim t)
      rw [hcases, withReturns_append, hkept c hc, endsOutside_concat]
      exact hc
  conv => lhs; rw [ht, withReturns_append, withReturns_append]
  rw [trim_between_blanks (isBlank_of_mem_withReturns hbefore) (isBlank_of_mem_withReturns hafter),
    trim_of_outside hstart hend]

/-- A list with all items but the last one changed. -/
def mapInit (f : α → α) : List α → List α
  | [] => []
  | [a] => [a]
  | a :: b :: l => f a :: mapInit f (b :: l)

theorem mapInit_eq (f : α → α) (l : List α) :
    mapInit f l = l.dropLast.map f ++ l.getLast?.toList := by
  induction l with
  | nil => rfl
  | cons a l ih =>
      cases l with
      | nil => rfl
      | cons b l =>
          rw [mapInit, ih, List.dropLast_cons_cons, List.map_cons, List.getLast?_cons_cons,
            List.cons_append]

theorem mapInit_ne_nil {f : α → α} {l : List α} (h : l ≠ []) : mapInit f l ≠ [] := by
  cases l with
  | nil => exact absurd rfl h
  | cons a l => cases l <;> simp [mapInit]

theorem dropLast_append_toList (l : List α) : l.dropLast ++ l.getLast?.toList = l := by
  rcases List.eq_nil_or_concat' l with rfl | ⟨l, a, rfl⟩
  · rfl
  · simp

/-- What does not see the change sees the same list. -/
theorem map_mapInit {f : α → α} {g : α → β} (h : ∀ a ∈ l, g (f a) = g a) :
    (mapInit f l).map g = l.map g := by
  conv => rhs; rw [← dropLast_append_toList l]
  rw [mapInit_eq, List.map_append, List.map_append, List.map_map]
  exact congrArg (· ++ _) (List.map_congr_left fun a ha => h a (List.dropLast_subset l ha))

/-- A map that takes the change to another one can be done before or after
it. -/
theorem map_mapInit_comm {f : α → α} {g : α → β} {k : β → β} (h : ∀ a ∈ l, g (f a) = k (g a)) :
    (mapInit f l).map g = mapInit k (l.map g) := by
  rw [mapInit_eq, mapInit_eq, List.map_append, List.map_map, ← List.map_dropLast, List.map_map,
    List.getLast?_map]
  congr 1
  · exact List.map_congr_left fun a ha => h a (List.dropLast_subset l ha)
  · cases l.getLast? <;> rfl

/-- Each line but the last is followed by a carriage return. -/
theorem lines_withReturns (t : Text) : lines (withReturns t) = mapInit (· ++ ['\r']) (lines t) := by
  have hjoined : ∀ ls : List Text, (∀ l ∈ ls, '\n' ∉ l) →
      withReturns (unlines ls) = unlines (mapInit (· ++ ['\r']) ls) ∧
        ∀ l ∈ mapInit (· ++ ['\r']) ls, '\n' ∉ l := by
    intro ls hls
    induction ls with
    | nil => exact ⟨rfl, hls⟩
    | cons l ls ih =>
        have hl : '\n' ∉ l := hls l (by simp)
        cases ls with
        | nil =>
            rw [mapInit, unlines_singleton]
            exact ⟨withReturns_of_not_mem hl, hls⟩
        | cons m ls =>
            obtain ⟨heq, hmem⟩ := ih fun l h => hls l (List.mem_cons_of_mem _ h)
            rw [mapInit, unlines_cons l (by simp), unlines_cons _ (mapInit_ne_nil (by simp)),
              withReturns_append, withReturns_of_not_mem hl, withReturns_newline, heq,
              List.append_assoc, List.singleton_append]
            refine ⟨rfl, fun l' h => ?_⟩
            rcases List.mem_cons.mp h with rfl | h
            · simpa using hl
            · exact hmem l' h
  obtain ⟨heq, hmem⟩ := hjoined (lines t) fun l hl => not_mem_of_mem_lines hl
  rw [unlines_lines] at heq
  rw [heq, lines_unlines (mapInit_ne_nil (lines_ne_nil t)) hmem]

end WireTypes.Text
