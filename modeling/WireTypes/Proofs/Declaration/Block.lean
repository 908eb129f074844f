import WireTypes.Proofs.Text.Lines
import WireTypes.Declaration.Reader

/-!
# Declaration — Blocks of lines

The block of a declaration is read line by line: the progress before a
line and the line itself give its role and the progress after it. Two
things follow by induction on the lines:

- body lines can be replaced by other lines that close nothing, and every
  line keeps its role (`marks_mapBody`);
- a header, some lines that close nothing and a closing line are read as
  just that (`read_block`).
-/

namespace WireTypes

open Text

variable {line rest t : Text} {c : Char}

/-! ## Lines that start with a word -/

/-- The first character of the line that is not a blank is a word
character. -/
def StartsWithWord (line : Text) : Prop :=
  ∃ c rest, trimStart line = c :: rest ∧ isWord c = true

theorem startsWithWord_append {indent word : Text} (hindent : ∀ c ∈ indent, isBlank c = true)
    (hne : word ≠ []) (hword : ∀ c ∈ word, isWord c = true) :
    StartsWithWord (indent ++ (word ++ rest)) := by
  obtain ⟨c, word, rfl⟩ := List.exists_cons_of_ne_nil hne
  have hc : isWord c = true := hword c (by simp)
  refine ⟨c, word ++ rest, ?_, hc⟩
  rw [trimStart_append hindent]
  exact trimStart_of_startsOutside (by simpa using isBlank_of_isWord hc)

/-- Trimming a text that starts with no blank keeps its first character. -/
theorem head?_trimEnd (h : StartsOutside isBlank t) : (trimEnd t).head? = t.head? := by
  obtain ⟨gap, ht, -⟩ := exists_trimEnd_append t
  by_cases hne : t = []
  · subst hne
    rfl
  · conv => rhs; rw [ht]
    exact (List.head?_append_of_ne_nil _ (trimEnd_ne_nil h hne)).symm

theorem beforeComment_append {gap : Text} (h : ∀ c ∈ gap, c ≠ '/') :
    beforeComment (gap ++ t) = gap ++ beforeComment t := by
  induction gap with
  | nil => rfl
  | cons c gap ih =>
      have hc : c ≠ '/' := h c (by simp)
      have hstart : "//".toList.isPrefixOf (c :: (gap ++ t)) = false := by
        simp [List.isPrefixOf, Ne.symm hc]
      rw [List.cons_append, beforeComment, hstart, ih fun d hd => h d (by simp [hd])]
      simp

/-- What stands before the comment starts like the line, unless the line
is a comment. -/
theorem head?_trim_beforeComment (h : trimStart line = c :: rest) (hc : c ≠ '/') :
    (trim (beforeComment line)).head? = some c := by
  have hstart : StartsOutside isBlank (c :: rest) := h ▸ startsOutside_trimStart line
  have hline : line = line.takeWhile isBlank ++ ([c] ++ rest) := by
    rw [List.singleton_append, ← h]
    exact List.takeWhile_append_dropWhile.symm
  have hgap : ∀ d ∈ line.takeWhile isBlank, isBlank d = true :=
    fun d hd => List.mem_takeWhile_imp hd
  have hslash : isBlank '/' = false := by decide
  rw [hline, beforeComment_append, beforeComment_append, trim, trimStart_append hgap,
    trimStart_of_startsOutside, head?_trimEnd]
  · rfl
  · simpa using hstart
  · simpa using hstart
  · simpa using hc
  · rintro d hd rfl
    rw [hgap _ hd] at hslash
    exact absurd hslash (by decide)

/-- A line that starts with no brace, and is no comment, closes nothing. -/
theorem isClosing_eq_false (h : trimStart line = c :: rest) (hslash : c ≠ '/') (hbrace : c ≠ '}') :
    isClosing line = false := by
  have hhead := head?_trim_beforeComment h hslash
  rw [isClosing]
  simp only [Bool.or_eq_false_iff, beq_eq_false_iff_ne]
  constructor
  · intro heq
    rw [heq] at hhead
    exact hbrace (Option.some.inj hhead).symm
  · intro heq
    rw [heq] at hhead
    exact hbrace (Option.some.inj hhead).symm

theorem isFiller_eq_false (h : trimStart line = c :: rest) (hslash : c ≠ '/') :
    isFiller line = false := by
  have hhead : (trim line).head? = some c := by
    rw [trim, head?_trimEnd (startsOutside_trimStart line), h]
    rfl
  obtain ⟨more, hmore⟩ := List.head?_eq_some_iff.mp hhead
  rw [isFiller, hmore]
  simp [List.isPrefixOf, Ne.symm hslash]

theorem StartsWithWord.isClosing_eq_false (h : StartsWithWord line) :
    isClosing line = false := by
  obtain ⟨c, rest, hline, hc⟩ := h
  exact WireTypes.isClosing_eq_false hline (ne_of_class hc (by decide)) (ne_of_class hc (by decide))

theorem StartsWithWord.isFiller_eq_false (h : StartsWithWord line) : isFiller line = false := by
  obtain ⟨c, rest, hline, hc⟩ := h
  exact WireTypes.isFiller_eq_false hline (ne_of_class hc (by decide))

/-! ## Replacing the body of a block -/

namespace Block

variable {n : Notation} {p : Progress} {ls : List Text} {f : Text → Text}

/-- The mark with another line if it stands in the body. -/
def Mark.mapBody (f : Text → Text) (m : Mark) : Mark :=
  if m.role = .body then { m with line := f m.line } else m

@[simp] theorem Mark.mapBody_role (f : Text → Text) (m : Mark) :
    (m.mapBody f).role = m.role := by
  rw [mapBody]
  split <;> rfl

@[simp] theorem Mark.mapBody_progress (f : Text → Text) (m : Mark) :
    (m.mapBody f).progress = m.progress := by
  rw [mapBody]
  split <;> rfl

/-- The text with other lines in the body of its block. -/
def mapBody (n : Notation) (f : Text → Text) (t : Text) : Text :=
  unlines ((marks n t).map fun m => (m.mapBody f).line)

/-- What a replacement of lines must keep for a block to stay one: a line
stays one line, and what closes nothing still closes nothing. -/
structure KeepsBody (f : Text → Text) : Prop where
  oneLine : ∀ line, '\n' ∉ line → '\n' ∉ f line
  isOpen : ∀ line, isClosing line = false → isClosing (f line) = false

/-- A replaced line is marked as the line was. -/
theorem mark_mapBody (h : KeepsBody f) (p : Progress) (line : Text) :
    mark n p ((mark n p line).mapBody f).line = (mark n p line).mapBody f := by
  cases p with
  | searching =>
      by_cases hheader : (n.header? line).isSome = true
      · simp [Mark.mapBody, mark, hheader]
      · simp [Mark.mapBody, mark, hheader]
  | inside =>
      cases hclosing : isClosing line with
      | true => simp [Mark.mapBody, mark, hclosing]
      | false => simp [Mark.mapBody, mark, hclosing, h.isOpen line hclosing]
  | done => simp [Mark.mapBody, mark]

theorem marksFrom_mapBody (h : KeepsBody f) (p : Progress) (ls : List Text) :
    marksFrom n p ((marksFrom n p ls).map fun m => (m.mapBody f).line)
      = (marksFrom n p ls).map (Mark.mapBody f) := by
  -- the new line leaves the progress as it was, so the rest is read from the same one
  induction ls generalizing p with
  | nil => rfl
  | cons line ls ih =>
      rw [marksFrom, List.map_cons, List.map_cons, marksFrom, mark_mapBody h,
        Mark.mapBody_progress, ih]

theorem map_line_marksFrom (p : Progress) (ls : List Text) :
    (marksFrom n p ls).map (·.line) = ls := by
  induction ls generalizing p with
  | nil => rfl
  | cons line ls ih =>
      have hline : (mark n p line).line = line := by
        cases p with
        | searching => rw [mark]; split <;> rfl
        | inside => rw [mark]; split <;> rfl
        | done => rfl
      rw [marksFrom, List.map_cons, hline, ih]

theorem mem_of_mem_marks {m : Mark} (h : m ∈ marks n t) : '\n' ∉ m.line := by
  have hmem : m.line ∈ lines t := by
    rw [← map_line_marksFrom (n := n) .searching (lines t)]
    exact List.mem_map_of_mem h
  exact not_mem_of_mem_lines hmem

theorem not_newline_mem_of_mem_body (h : line ∈ body n t) : '\n' ∉ line := by
  obtain ⟨m, hm, rfl⟩ := List.mem_map.mp h
  exact mem_of_mem_marks (List.mem_of_mem_filter hm)

theorem marks_ne_nil (n : Notation) (t : Text) : marks n t ≠ [] := by
  intro heq
  have hlines : (marks n t).map (·.line) = lines t := map_line_marksFrom .searching (lines t)
  rw [heq] at hlines
  exact lines_ne_nil t hlines.symm

theorem lines_mapBody (h : KeepsBody f) (t : Text) :
    lines (mapBody n f t) = (marks n t).map fun m => (m.mapBody f).line := by
  apply lines_unlines
  · simpa using marks_ne_nil n t
  · intro line hline
    obtain ⟨m, hm, rfl⟩ := List.mem_map.mp hline
    have hsrc := mem_of_mem_marks hm
    rw [Mark.mapBody]
    split
    · exact h.oneLine _ hsrc
    · exact hsrc

/-- **Every line keeps its role when the body is replaced.** -/
theorem marks_mapBody (h : KeepsBody f) (t : Text) :
    marks n (mapBody n f t) = (marks n t).map (Mark.mapBody f) := by
  rw [marks, lines_mapBody h]
  exact marksFrom_mapBody h .searching (lines t)

theorem isComplete_mapBody (h : KeepsBody f) (t : Text) :
    isComplete n (mapBody n f t) = isComplete n t := by
  rw [isComplete, marks_mapBody h, List.any_map, isComplete]
  simp [Function.comp_def]

theorem body_mapBody (h : KeepsBody f) (t : Text) :
    body n (mapBody n f t) = (body n t).map f := by
  rw [body, marks_mapBody h, body, List.filter_map, List.map_map, List.map_map]
  have hrole : ((fun m : Mark => decide (m.role = .body)) ∘ Mark.mapBody f)
      = fun m => decide (m.role = .body) := by
    funext m
    simp
  rw [hrole]
  apply List.map_congr_left
  intro m hm
  have hbody : m.role = .body := by simpa using (List.mem_filter.mp hm).2
  simp [Mark.mapBody, hbody]

/-- The name is found in the same line. -/
theorem name?_mapBody (h : KeepsBody f) (t : Text) : name? n (mapBody n f t) = name? n t := by
  rw [name?, lines_mapBody h, name?, marks]
  -- up to the header no line is in the body, and behind it no line counts
  induction lines t with
  | nil => rfl
  | cons line ls ih =>
      rw [marksFrom, List.map_cons, mark]
      split
      · rename_i hheader
        obtain ⟨name, hname⟩ := Option.isSome_iff_exists.mp hheader
        simp [Mark.mapBody, hname]
      · rename_i hheader
        have hnone : n.header? line = none := by simpa using hheader
        simp only [Mark.mapBody, reduceCtorEq, if_false, List.findSome?_cons, hnone]
        exact ih

/-! ## A block as it is written -/

/-- Behind the closing brace no line counts. -/
theorem marksFrom_done (ls : List Text) : marksFrom n .done ls = ls.map (⟨.outside, ·, .done⟩) := by
  induction ls with
  | nil => rfl
  | cons line ls ih => rw [marksFrom, List.map_cons, mark, ih]

/-- The body lines among some lines and a closing one are those up to the
first line that closes. -/
theorem body_marksFrom_inside {close : Text} (hclose : isClosing close = true) (body : List Text) :
    ((marksFrom n .inside (body ++ [close])).filter (·.role = .body)).map (·.line)
      = body.takeWhile (!isClosing ·) := by
  -- a line that closes leaves the rest outside, the closing line among it
  induction body with
  | nil => simp [marksFrom, mark, hclose]
  | cons line body ih =>
      rw [List.cons_append, marksFrom, mark]
      cases hline : isClosing line with
      | true => simp [hline, marksFrom_done]
      | false => simpa [hline] using ih

theorem done_marksFrom_inside {close : Text} (hclose : isClosing close = true) (body : List Text) :
    (marksFrom n .inside (body ++ [close])).any (·.progress = .done) = true := by
  induction body with
  | nil => simp [marksFrom, mark, hclose]
  | cons line body ih =>
      rw [List.cons_append, marksFrom, mark]
      cases hline : isClosing line with
      | true => simp
      | false => simpa using ih

section Written

variable {header name : Text} {body : List Text} (hheader : n.header? header = some name)
  (hself : closesItself header = false) (hlines : ∀ line ∈ header :: body, '\n' ∉ line)

include hlines in
theorem lines_block :
    lines (unlines (header :: (body ++ [['}']]))) = header :: (body ++ [['}']]) := by
  apply lines_unlines (by simp)
  intro line hline
  simp only [List.mem_cons, List.mem_append, List.not_mem_nil, or_false] at hline
  rcases hline with rfl | hline | rfl
  · exact hlines _ (by simp)
  · exact hlines line (by simp [hline])
  · decide

include hheader hself hlines in
theorem marks_block : marks n (unlines (header :: (body ++ [['}']])))
    = ⟨.header, header, .inside⟩ :: marksFrom n .inside (body ++ [['}']]) := by
  rw [marks, lines_block hlines, marksFrom, mark, hheader]
  simp only [Option.isSome_some, if_true, hself, Bool.false_eq_true, if_false]

include hheader hself hlines in
theorem body_block : Block.body n (unlines (header :: (body ++ [['}']])))
    = body.takeWhile (!isClosing ·) := by
  rw [Block.body, marks_block hheader hself hlines, List.filter_cons_of_neg (by simp)]
  exact body_marksFrom_inside (by decide) body

include hheader hself hlines in
theorem isComplete_block : isComplete n (unlines (header :: (body ++ [['}']]))) = true := by
  rw [isComplete, marks_block hheader hself hlines, List.any_cons,
    done_marksFrom_inside (by decide) body, Bool.or_true]

include hheader hlines in
theorem name?_block : name? n (unlines (header :: (body ++ [['}']]))) = some name := by
  rw [name?, lines_block hlines, List.findSome?_cons_of_isSome (by rw [hheader]; rfl), hheader]

end Written

end Block

namespace Notation

/-- The field on a body line that is not passed over. -/
def lineField? (v : Vocabulary) (n : Notation) (line : Text) : Option Field :=
  if isFiller line then none else n.field? v line

theorem lineField?_of_startsWithWord {v : Vocabulary} {n : Notation} (h : StartsWithWord line) :
    n.lineField? v line = n.field? v line := by
  rw [lineField?, h.isFiller_eq_false]
  rfl

end Notation

namespace Declaration

variable {v : Vocabulary} {n : Notation}

/-- The fields of a body are those of its lines. -/
theorem fieldsOf_eq_filterMap (v : Vocabulary) (n : Notation) (body : List Text) :
    fieldsOf v n body = body.filterMap (n.lineField? v) := by
  rw [fieldsOf, List.filterMap_filter]
  congr 1
  funext line
  rw [Notation.lineField?]
  cases isFiller line <;> rfl

/-- A field that is read stands on a line of the body. -/
theorem exists_line_of_mem_fields {d : Declaration} {f : Field} (h : read v n t = .ok d)
    (hf : f ∈ d.fields) : ∃ line ∈ Block.body n t, n.field? v line = some f := by
  rw [read] at h
  split at h
  · cases h
  · cases h
    rw [fieldsOf_eq_filterMap] at hf
    obtain ⟨line, hline, hfield⟩ := List.mem_filterMap.mp hf
    rw [Notation.lineField?] at hfield
    split at hfield
    · cases hfield
    · exact ⟨line, hline, hfield⟩

/-- **A block is read as it was written**: a header, lines up to the first
one that closes the block, and a closing brace. -/
theorem read_block {header name : Text} {body : List Text}
    (hheader : n.header? header = some name) (hself : closesItself header = false)
    (hlines : ∀ line ∈ header :: body, '\n' ∉ line) :
    read v n (unlines (header :: (body ++ [['}']])))
      = .ok ⟨name, n, (body.takeWhile (!isClosing ·)).filterMap (n.lineField? v), true⟩ := by
  rw [read, Block.name?_block hheader hlines, Block.body_block hheader hself hlines,
    Block.isComplete_block hheader hself hlines, fieldsOf_eq_filterMap]

end Declaration

end WireTypes
