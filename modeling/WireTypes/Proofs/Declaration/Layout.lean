import WireTypes.Proofs.Declaration.Block

/-!
# Declaration — The word of roles

Each line of a text has one role, and the roles in their order form a
word: lines outside, a header, lines of a body, a closing line, lines
outside. The word may stop early, and a header that ends in empty braces
has no body. `Layout` names the four shapes, each with the name it gives
and the progress it ends in.

One more line takes a layout to a layout (`Layout.step`), so the lines of
a text have one (`Layout.run`, `marks_layout`).
-/

namespace WireTypes

open Text

variable {line : Text}

/-! ## Braces on a line -/

/-- The line ends in an empty pair of braces, perhaps with a semicolon
behind it. -/
def EndsInBraces (line : Text) : Prop :=
  ∃ start inner gap tail : Text, line = start ++ '\x7b' :: (inner ++ '}' :: (gap ++ tail)) ∧
    (∀ c ∈ inner, isBlank c = true) ∧ (∀ c ∈ gap, isBlank c = true) ∧
    (tail = [] ∨ ∃ rest, tail = ';' :: rest ∧ ∀ c ∈ rest, isBlank c = true)

theorem endsInBraces_of_closesItself (h : closesItself line = true) : EndsInBraces line := by
  -- the line is read from its end: blanks, perhaps a semicolon and blanks, and the braces
  simp only [closesItself] at h
  split at h
  · rename_i rest hpair
    obtain ⟨start, hstart⟩ := List.head?_eq_some_iff.mp (by simpa using h)
    obtain ⟨inner, hrest, hinner⟩ := exists_trimStart_append rest
    obtain ⟨behind, hline, hbehind⟩ := exists_trimStart_append line.reverse
    rw [hstart] at hrest
    split at hpair
    · rename_i more hmore
      obtain ⟨gap, hgap, hblank⟩ := exists_trimStart_append more
      rw [hmore, hgap, hpair, hrest] at hline
      refine ⟨start.reverse, inner.reverse, gap.reverse, ';' :: behind.reverse, ?_, ?_, ?_,
        Or.inr ⟨behind.reverse, rfl, ?_⟩⟩
      · rw [← List.reverse_reverse line, hline]
        simp
      · simpa using hinner
      · simpa using hblank
      · simpa using hbehind
    · rw [hpair, hrest] at hline
      refine ⟨start.reverse, inner.reverse, behind.reverse, [], ?_, ?_, ?_, Or.inl rfl⟩
      · rw [← List.reverse_reverse line, hline]
        simp
      · simpa using hinner
      · simpa using hbehind
  · cases h

theorem closesItself_of_endsInBraces (h : EndsInBraces line) : closesItself line = true := by
  obtain ⟨start, inner, gap, tail, rfl, hinner, hgap, htail⟩ := h
  have hopen : trimStart (inner.reverse ++ '\x7b' :: start.reverse) = '\x7b' :: start.reverse :=
    trimStart_append_cons (by simpa using hinner) (by decide)
  have hclose : trimStart (gap.reverse ++ '}' :: (inner.reverse ++ '\x7b' :: start.reverse))
      = '}' :: (inner.reverse ++ '\x7b' :: start.reverse) :=
    trimStart_append_cons (by simpa using hgap) (by decide)
  have hpair : ((trimStart (inner.reverse ++ '\x7b' :: start.reverse)).head? == some '\x7b')
      = true := by
    rw [hopen]
    rfl
  rcases htail with rfl | ⟨rest, rfl, hrest⟩
  · have hreverse : (start ++ '\x7b' :: (inner ++ '}' :: (gap ++ []))).reverse
        = gap.reverse ++ '}' :: (inner.reverse ++ '\x7b' :: start.reverse) := by simp
    simp only [closesItself, hreverse, hclose]
    exact hpair
  · have hreverse : (start ++ '\x7b' :: (inner ++ '}' :: (gap ++ ';' :: rest))).reverse
        = rest.reverse ++
          ';' :: (gap.reverse ++ '}' :: (inner.reverse ++ '\x7b' :: start.reverse)) := by simp
    have hsemicolon : trimStart (rest.reverse ++
          ';' :: (gap.reverse ++ '}' :: (inner.reverse ++ '\x7b' :: start.reverse)))
        = ';' :: (gap.reverse ++ '}' :: (inner.reverse ++ '\x7b' :: start.reverse)) :=
      trimStart_append_cons (by simpa using hrest) (by decide)
    simp only [closesItself, hreverse, hsemicolon, hclose]
    exact hpair

/-- A header closes itself by braces at its end. -/
theorem closesItself_iff : closesItself line = true ↔ EndsInBraces line :=
  ⟨endsInBraces_of_closesItself, closesItself_of_endsInBraces⟩

/-- The line is a closing brace, perhaps with a semicolon and a comment
behind it. -/
def ClosesBlock (line : Text) : Prop :=
  ∃ indent semicolon gap comment : Text, line = indent ++ '}' :: (semicolon ++ (gap ++ comment)) ∧
    (∀ c ∈ indent, isBlank c = true) ∧ (∀ c ∈ gap, isBlank c = true) ∧
    (semicolon = [] ∨ semicolon = [';']) ∧ (comment = [] ∨ "//".toList <+: comment)

/-- A line is cut at its comment. -/
theorem exists_beforeComment_append (line : Text) :
    ∃ comment, line = beforeComment line ++ comment ∧
      (comment = [] ∨ "//".toList <+: comment) := by
  induction line with
  | nil => exact ⟨[], rfl, Or.inl rfl⟩
  | cons c rest ih =>
      rw [beforeComment]
      split
      · rename_i hcomment
        rw [Bool.and_eq_true] at hcomment
        exact ⟨c :: rest, rfl, Or.inr (List.isPrefixOf_iff_prefix.mp hcomment.1)⟩
      · obtain ⟨comment, hrest, hcomment⟩ := ih
        exact ⟨comment, by rw [List.cons_append, ← hrest], hcomment⟩

theorem beforeComment_of_comment {comment : Text} (h : comment = [] ∨ "//".toList <+: comment)
    (hline : '\n' ∉ comment) : beforeComment comment = [] := by
  rcases h with rfl | ⟨rest, rfl⟩
  · rfl
  · have hfits : fitsLine ('/' :: '/' :: rest) = true := fitsLine_of_not_mem hline
    show beforeComment ('/' :: '/' :: rest) = []
    rw [beforeComment, hfits]
    rfl

theorem closesBlock_of_isClosing (h : isClosing line = true) : ClosesBlock line := by
  obtain ⟨comment, hcut, hcomment⟩ := exists_beforeComment_append line
  obtain ⟨indent, gap, htrim, hindent, hgap⟩ := exists_trim_between (beforeComment line)
  rw [isClosing, Bool.or_eq_true, beq_iff_eq, beq_iff_eq] at h
  rcases h with h | h
  · refine ⟨indent, [], gap, comment, ?_, hindent, hgap, Or.inl rfl, hcomment⟩
    rw [hcut, htrim, h]
    simp
  · refine ⟨indent, [';'], gap, comment, ?_, hindent, hgap, Or.inr rfl, hcomment⟩
    rw [hcut, htrim, h]
    simp

theorem isClosing_of_closesBlock (hline : '\n' ∉ line) (h : ClosesBlock line) :
    isClosing line = true := by
  obtain ⟨indent, semicolon, gap, comment, rfl, hindent, hgap, hsemicolon, hcomment⟩ := h
  have hblank : ∀ c, isBlank c = true → c ≠ '/' := fun c hc => ne_of_class hc (by decide)
  have hfront : ∀ c ∈ indent ++ ('}' :: semicolon ++ gap), c ≠ '/' := by
    intro c hc
    simp only [List.cons_append, List.mem_append, List.mem_cons] at hc
    rcases hc with hc | rfl | hc | hc
    · exact hblank c (hindent c hc)
    · decide
    · rcases hsemicolon with rfl | rfl
      · cases hc
      · rw [List.mem_singleton.mp hc]
        decide
    · exact hblank c (hgap c hc)
  have hcut : beforeComment comment = [] :=
    beforeComment_of_comment hcomment fun hmem => hline (by simp [hmem])
  have hsplit : indent ++ '}' :: (semicolon ++ (gap ++ comment))
      = (indent ++ ('}' :: semicolon ++ gap)) ++ comment := by simp
  have htrim : trim (indent ++ ('}' :: semicolon ++ gap)) = trimEnd ('}' :: semicolon) :=
    trim_append_append hindent hgap (startsOutside_cons.mpr (by decide)) (by simp)
  rw [isClosing, hsplit, beforeComment_append hfront, hcut, List.append_nil, htrim]
  rcases hsemicolon with rfl | rfl <;> decide

/-- A block is closed by a brace alone on its line. -/
theorem isClosing_iff (hline : '\n' ∉ line) : isClosing line = true ↔ ClosesBlock line :=
  ⟨closesBlock_of_isClosing, isClosing_of_closesBlock hline⟩

namespace Block

variable {n : Notation} {t : Text} {ms : List Mark} {ls : List Text} {name : Option Text}
  {p : Progress}

/-! ## Layouts -/

/-- The marks of lines outside the block, with the same progress after
each. -/
def outsideMarks (p : Progress) (ls : List Text) : List Mark := ls.map (⟨.outside, ·, p⟩)

/-- The marks of lines of the body. -/
def bodyMarks (ls : List Text) : List Mark := ls.map (⟨.body, ·, .inside⟩)

/-- The shapes that the marks of a text can have, with the name in the
header and the progress after the last line. -/
inductive Layout (n : Notation) : List Mark → Option Text → Progress → Prop where
  /-- No line opens a block. -/
  | absent {before : List Text} (unopened : ∀ line ∈ before, n.header? line = none) :
      Layout n (outsideMarks .searching before) none .searching
  /-- The header closes itself, and what follows is outside. -/
  | empty {before after : List Text} {header name : Text}
      (unopened : ∀ line ∈ before, n.header? line = none)
      (opens : n.header? header = some name) (braces : EndsInBraces header) :
      Layout n (outsideMarks .searching before ++ ⟨.header, header, .done⟩ ::
        outsideMarks .done after) (some name) .done
  /-- The text ends in the body. -/
  | unclosed {before body : List Text} {header name : Text}
      (unopened : ∀ line ∈ before, n.header? line = none)
      (opens : n.header? header = some name) (braces : ¬ EndsInBraces header)
      (inner : ∀ line ∈ body, ¬ ClosesBlock line) :
      Layout n (outsideMarks .searching before ++ ⟨.header, header, .inside⟩ ::
        bodyMarks body) (some name) .inside
  /-- A line closes the body, and what follows is outside. -/
  | closed {before body after : List Text} {header name close : Text}
      (unopened : ∀ line ∈ before, n.header? line = none)
      (opens : n.header? header = some name) (braces : ¬ EndsInBraces header)
      (inner : ∀ line ∈ body, ¬ ClosesBlock line) (closes : ClosesBlock close) :
      Layout n (outsideMarks .searching before ++ ⟨.header, header, .inside⟩ ::
        (bodyMarks body ++ ⟨.close, close, .done⟩ :: outsideMarks .done after)) (some name) .done

theorem outsideMarks_concat (p : Progress) (ls : List Text) (line : Text) :
    outsideMarks p ls ++ [⟨.outside, line, p⟩] = outsideMarks p (ls ++ [line]) := by
  simp [outsideMarks]

theorem bodyMarks_concat (ls : List Text) (line : Text) :
    bodyMarks ls ++ [⟨.body, line, .inside⟩] = bodyMarks (ls ++ [line]) := by
  simp [bodyMarks]

/-- **One more line takes a layout to a layout.** -/
theorem Layout.step (h : Layout n ms name p) (hline : '\n' ∉ line) :
    Layout n (ms ++ [mark n p line]) (name.or (n.header? line)) (mark n p line).progress := by
  cases h with
  | absent unopened =>
      rename_i before
      cases hheader : n.header? line with
      | none =>
          have hmark : mark n .searching line = ⟨.outside, line, .searching⟩ := by
            simp [mark, hheader]
          rw [hmark, outsideMarks_concat]
          exact .absent
            (List.forall_mem_append.mpr ⟨unopened, List.forall_mem_singleton.mpr hheader⟩)
      | some name =>
          by_cases hself : closesItself line = true
          · have hmark : mark n .searching line = ⟨.header, line, .done⟩ := by
              simp [mark, hheader, hself]
            have hempty : Layout n (outsideMarks .searching before ++
                ⟨.header, line, .done⟩ :: outsideMarks .done []) (some name) .done :=
              .empty unopened hheader (closesItself_iff.mp hself)
            rw [hmark]
            exact hempty
          · have hmark : mark n .searching line = ⟨.header, line, .inside⟩ := by
              simp [mark, hheader, hself]
            have hunclosed : Layout n (outsideMarks .searching before ++
                ⟨.header, line, .inside⟩ :: bodyMarks []) (some name) .inside :=
              .unclosed unopened hheader (mt closesItself_iff.mpr hself) (by simp)
            rw [hmark]
            exact hunclosed
  | empty unopened opens braces =>
      rw [mark, List.append_assoc, List.cons_append, outsideMarks_concat]
      exact .empty unopened opens braces
  | unclosed unopened opens braces inner =>
      rename_i before body header name
      by_cases hclosing : isClosing line = true
      · have hmark : mark n .inside line = ⟨.close, line, .done⟩ := by simp [mark, hclosing]
        have hclosed : Layout n (outsideMarks .searching before ++ ⟨.header, header, .inside⟩ ::
            (bodyMarks body ++ ⟨.close, line, .done⟩ :: outsideMarks .done [])) (some name) .done :=
          .closed unopened opens braces inner ((isClosing_iff hline).mp hclosing)
        rw [hmark, List.append_assoc, List.cons_append]
        exact hclosed
      · have hmark : mark n .inside line = ⟨.body, line, .inside⟩ := by simp [mark, hclosing]
        rw [hmark, List.append_assoc, List.cons_append, bodyMarks_concat]
        exact .unclosed unopened opens braces (List.forall_mem_append.mpr
          ⟨inner, List.forall_mem_singleton.mpr (mt (isClosing_iff hline).mpr hclosing)⟩)
  | closed unopened opens braces inner closes =>
      rw [mark, List.append_assoc, List.cons_append, List.append_assoc, List.cons_append,
        outsideMarks_concat]
      exact .closed unopened opens braces inner closes

/-- The progress after some lines. -/
def progressAfter (n : Notation) (p : Progress) (ls : List Text) : Progress :=
  ls.foldl (fun p line => (mark n p line).progress) p

/-- More lines take a layout to a layout, and the first of them that is a
header gives the name. -/
theorem Layout.run (h : Layout n ms name p) (hls : ∀ line ∈ ls, '\n' ∉ line) :
    Layout n (ms ++ marksFrom n p ls) (name.or (ls.findSome? n.header?))
      (progressAfter n p ls) := by
  induction ls generalizing ms name p with
  | nil => simpa [marksFrom, progressAfter] using h
  | cons line ls ih =>
      have hnext := ih (h.step (hls line (by simp))) fun l hl => hls l (by simp [hl])
      have hname : name.or ((line :: ls).findSome? n.header?)
          = (name.or (n.header? line)).or (ls.findSome? n.header?) := by
        rw [List.findSome?_cons]
        cases name <;> cases n.header? line <;> rfl
      have hmarks : ms ++ marksFrom n p (line :: ls)
          = (ms ++ [mark n p line]) ++ marksFrom n (mark n p line).progress ls := by
        simp [marksFrom]
      rw [hname, hmarks]
      exact hnext

theorem layout_marks (n : Notation) (t : Text) :
    Layout n (marks n t) (name? n t) (progressAfter n .searching (lines t)) := by
  have hstart : Layout n (outsideMarks .searching []) none .searching := .absent (by simp)
  have hcut : ∀ line ∈ lines t, '\n' ∉ line := fun line hline => not_mem_of_mem_lines hline
  have hrun := hstart.run hcut
  simpa [marks, name?, outsideMarks] using hrun

/-! ## Closed blocks -/

/-- The block is closed when its last line leaves it so. -/
theorem Layout.any_done_iff (h : Layout n ms name p) :
    ms.any (·.progress = .done) = true ↔ p = .done := by
  cases h <;> simp [outsideMarks, bodyMarks]

/-- In an open block no line closes it, and neither does the header. -/
theorem Layout.open_of_ne_done (h : Layout n ms name p) (hp : p ≠ .done) :
    ∀ m ∈ ms, m.role ≠ .close ∧ (m.role = .header → ¬ EndsInBraces m.line) := by
  cases h with
  | absent => simp [outsideMarks]
  | empty => exact absurd rfl hp
  | unclosed unopened opens braces inner =>
      simp only [outsideMarks, bodyMarks, List.forall_mem_append, List.forall_mem_cons,
        List.forall_mem_map]
      exact ⟨by simp, ⟨by simp, fun _ => braces⟩, by simp⟩
  | closed => exact absurd rfl hp

/-- The block is closed by its header or by a closing line. -/
theorem Layout.eq_done_iff (h : Layout n ms name p) :
    p = .done ↔ (∃ m ∈ ms, m.role = .header ∧ EndsInBraces m.line) ∨ ∃ m ∈ ms, m.role = .close := by
  constructor
  · intro hdone
    cases h with
    | absent => cases hdone
    | empty unopened opens braces => exact Or.inl ⟨_, List.mem_append_cons_self, rfl, braces⟩
    | unclosed => cases hdone
    | closed =>
        exact Or.inr ⟨_, List.mem_append_right _ (List.mem_cons_of_mem _ List.mem_append_cons_self),
          rfl⟩
  · intro hclosed
    by_contra hp
    have hopen := h.open_of_ne_done hp
    rcases hclosed with ⟨m, hm, hrole, hbraces⟩ | ⟨m, hm, hrole⟩
    · exact (hopen m hm).2 hrole hbraces
    · exact (hopen m hm).1 hrole

/-- **Every line has one role, and the roles form a layout.** Joined, the
lines are the text. The name is that of the header, and the block is
complete when the progress ends in `done`: its header closed itself, or a
line closed it. -/
theorem marks_layout (n : Notation) (t : Text) :
    (marks n t).map (·.line) = lines t ∧ unlines ((marks n t).map (·.line)) = t ∧
    Layout n (marks n t) (name? n t) (progressAfter n .searching (lines t)) ∧
    (isComplete n t = true ↔ progressAfter n .searching (lines t) = .done) ∧
    (isComplete n t = true ↔
      (∃ m ∈ marks n t, m.role = .header ∧ EndsInBraces m.line) ∨
        ∃ m ∈ marks n t, m.role = .close) := by
  have hlines : (marks n t).map (·.line) = lines t := map_line_marksFrom .searching (lines t)
  have hlayout := layout_marks n t
  refine ⟨hlines, by rw [hlines, unlines_lines], hlayout, hlayout.any_done_iff, ?_⟩
  rw [isComplete, hlayout.any_done_iff, hlayout.eq_done_iff]

end Block

end WireTypes
