import WireTypes.Proofs.Declaration.Layout
import WireTypes.Proofs.Text.LineEnds

/-!
# Declaration — Blocks without comments

A comment runs from the first two slashes of a line to its end. Taking the
comments off a text leaves every line its role and the progress behind it,
but for one line: the reader of headers looks at the end of the line for
the empty braces, and with a comment there it sees the comment
(`endsInBraces_iff_comment`). So the block is the same exactly if the
header ends in empty braces with its comment and without it, or in neither
case (`statuses_uncommented`).
-/

namespace WireTypes

open Text

variable {n : Notation} {line rest t : Text} {ls : List Text}

/-! ## The comment of a line -/

/-- The line up to its first two slashes. -/
def beforeSlashes : Text → Text
  | [] => []
  | c :: rest => if "//".toList.isPrefixOf (c :: rest) then [] else c :: beforeSlashes rest

/-- The line from its first two slashes on. -/
def fromSlashes : Text → Text
  | [] => []
  | c :: rest => if "//".toList.isPrefixOf (c :: rest) then c :: rest else fromSlashes rest

/-- A line is cut at its first two slashes. -/
theorem beforeSlashes_append_fromSlashes (line : Text) :
    beforeSlashes line ++ fromSlashes line = line := by
  induction line with
  | nil => rfl
  | cons c rest ih =>
      rw [beforeSlashes, fromSlashes]
      split
      · rfl
      · rw [List.cons_append, ih]

theorem exists_of_fromSlashes_ne_nil (h : fromSlashes line ≠ []) :
    ∃ rest, fromSlashes line = '/' :: '/' :: rest := by
  induction line with
  | nil => exact absurd rfl h
  | cons c rest ih =>
      rw [fromSlashes] at h ⊢
      split
      · rename_i hstart
        obtain ⟨more, hmore⟩ := List.isPrefixOf_iff_prefix.mp hstart
        exact ⟨more, hmore.symm⟩
      · rename_i hstart
        rw [if_neg hstart] at h
        exact ih h

theorem head?_fromSlashes (line : Text) : ∀ c ∈ (fromSlashes line).head?, c = '/' := by
  intro c hc
  have hne : fromSlashes line ≠ [] := by
    rintro hnil
    rw [hnil] at hc
    cases hc
  obtain ⟨rest, hrest⟩ := exists_of_fromSlashes_ne_nil hne
  rw [hrest] at hc
  cases hc
  rfl

theorem not_mem_beforeSlashes {c : Char} (h : c ∉ line) : c ∉ beforeSlashes line := by
  rw [← beforeSlashes_append_fromSlashes line] at h
  exact fun hmem => h (List.mem_append_left _ hmem)

/-- No two slashes are left. -/
theorem beforeSlashes_beforeSlashes (line : Text) :
    beforeSlashes (beforeSlashes line) = beforeSlashes line := by
  induction line with
  | nil => rfl
  | cons c rest ih =>
      rw [beforeSlashes]
      split
      · rfl
      · rename_i hstart
        -- two slashes at the start of what is left would stand at the start of the line
        have hleft : ¬ "//".toList.isPrefixOf (c :: beforeSlashes rest) = true := by
          rw [List.isPrefixOf_iff_prefix] at hstart ⊢
          intro hslash
          refine hstart (hslash.trans ?_)
          conv => rhs; rw [← beforeSlashes_append_fromSlashes rest]
          exact List.prefix_append (c :: beforeSlashes rest) (fromSlashes rest)
        rw [beforeSlashes, if_neg hleft, ih]

/-- On one line every comment goes on to the end. -/
theorem beforeComment_eq_beforeSlashes (hline : '\n' ∉ line) :
    beforeComment line = beforeSlashes line := by
  induction line with
  | nil => rfl
  | cons c rest ih =>
      have hrest : '\n' ∉ rest := fun hmem => hline (List.mem_cons_of_mem c hmem)
      rw [beforeComment, beforeSlashes, fitsLine_of_not_mem hline, Bool.and_true, ih hrest]

/-! ## Readers that do not see the comment -/

/-- A closing brace is one with a comment behind it and without. -/
theorem isClosing_beforeSlashes (hline : '\n' ∉ line) :
    isClosing (beforeSlashes line) = isClosing line := by
  rw [isClosing, isClosing, beforeComment_eq_beforeSlashes hline,
    beforeComment_eq_beforeSlashes (not_mem_beforeSlashes hline), beforeSlashes_beforeSlashes]

section Behind

variable {behind : Text} (hbehind : ∀ c ∈ behind.head?, c = '/')

include hbehind

theorem startsOutside_behind {p : Char → Bool} (hp : p '/' = false) : StartsOutside p behind := by
  intro c hc
  rw [hbehind c hc]
  exact hp

theorem skipBlanks?_append_behind (t : Text) :
    skipBlanks? (t ++ behind) = (skipBlanks? t).map (· ++ behind) :=
  skipBlanks?_append_of_startsOutside (startsOutside_behind hbehind (by decide)) t

theorem takeWord?_append_behind (t : Text) :
    takeWord? (t ++ behind) = (takeWord? t).map fun r => (r.1, r.2 ++ behind) :=
  takeRun?_append_gap (startsOutside_behind hbehind (by decide)) t

theorem isPrefixOf?_append_behind {part : Text} (hpart : part.contains '/' = false) (t : Text) :
    part.isPrefixOf? (t ++ behind) = (part.isPrefixOf? t).map (· ++ behind) :=
  isPrefixOf?_append_of_startsOutside (startsOutside_behind hbehind hpart) t

theorem trimStart_append_behind (t : Text) : trimStart (t ++ behind) = trimStart t ++ behind :=
  trimStart_append_of_startsOutside (startsOutside_behind hbehind (by decide)) t

theorem interfaceName?_append_behind (t : Text) :
    interfaceName? (t ++ behind) = interfaceName? t := by
  simp only [interfaceName?, Option.bind_eq_bind]
  rw [isPrefixOf?_append_behind hbehind (by decide), Option.bind_map]
  refine Option.bind_congr fun afterKeyword _ => ?_
  rw [Function.comp_apply, skipBlanks?_append_behind hbehind, Option.bind_map]
  refine Option.bind_congr fun t _ => ?_
  rw [Function.comp_apply, takeWord?_append_behind hbehind, Option.bind_map]
  rfl

theorem interfaceHeader?_append_behind (line : Text) :
    interfaceHeader? (line ++ behind) = interfaceHeader? line := by
  rw [interfaceHeader?, interfaceHeader?, trimStart_append_behind hbehind,
    isPrefixOf?_append_behind hbehind (by decide)]
  cases "export".toList.isPrefixOf? (trimStart line) with
  | none => exact interfaceName?_append_behind hbehind _
  | some rest =>
      simp only [Option.map_some, Option.bind_eq_bind]
      rw [skipBlanks?_append_behind hbehind, Option.bind_map]
      exact Option.bind_congr fun t _ => interfaceName?_append_behind hbehind t

theorem structHeader?_append_behind (line : Text) :
    structHeader? (line ++ behind) = structHeader? line := by
  simp only [structHeader?, Option.bind_eq_bind]
  rw [trimStart_append_behind hbehind, isPrefixOf?_append_behind hbehind (by decide),
    Option.bind_map]
  refine Option.bind_congr fun afterKeyword _ => ?_
  rw [Function.comp_apply, skipBlanks?_append_behind hbehind, Option.bind_map]
  refine Option.bind_congr fun t _ => ?_
  rw [Function.comp_apply, takeWord?_append_behind hbehind, Option.bind_map]
  refine Option.bind_congr fun found _ => ?_
  rw [Function.comp_apply, skipBlanks?_append_behind hbehind, Option.bind_map]
  refine Option.bind_congr fun t _ => ?_
  rw [Function.comp_apply, isPrefixOf?_append_behind hbehind (by decide), Option.bind_map]
  refine Option.bind_congr fun rest _ => ?_
  rw [Function.comp_apply, any_head?_append (startsOutside_behind hbehind (by decide))]

end Behind

/-- A header is one with a comment behind it and without. -/
theorem Notation.header?_beforeSlashes (n : Notation) (line : Text) :
    n.header? (beforeSlashes line) = n.header? line := by
  conv => rhs; rw [← beforeSlashes_append_fromSlashes line]
  cases n with
  | struct => exact (structHeader?_append_behind (head?_fromSlashes line) _).symm
  | interface => exact (interfaceHeader?_append_behind (head?_fromSlashes line) _).symm

/-! ## The braces at the end of a header -/

/-- Braces at the end of a line stand behind its slashes. -/
theorem endsInBraces_append_slash (before rest : Text) :
    EndsInBraces (before ++ '/' :: rest) ↔ EndsInBraces rest := by
  constructor
  · rintro ⟨start, inner, gap, tail, hline, hinner, hgap, htail⟩
    have hblank : ∀ {u : Text}, (∀ c ∈ u, isBlank c = true) → '/' ∉ u :=
      fun h => not_mem_of_class h (by decide)
    have htailFree : '/' ∉ tail := by
      rcases htail with rfl | ⟨more, rfl, hmore⟩
      · simp
      · rw [List.mem_cons, not_or]
        exact ⟨by decide, hblank hmore⟩
    have hfree : '/' ∉ '\x7b' :: (inner ++ '}' :: (gap ++ tail)) := by
      simp only [List.mem_cons, List.mem_append, not_or]
      exact ⟨by decide, hblank hinner, by decide, hblank hgap, htailFree⟩
    rcases List.append_eq_append_iff.mp hline with ⟨more, hstart, hmore⟩ | ⟨more, -, hmore⟩
    · cases more with
      | nil =>
          rw [List.nil_append] at hmore
          exact absurd (hmore ▸ List.mem_cons_self) hfree
      | cons c more =>
          obtain ⟨rfl, hrest⟩ := List.cons.inj hmore
          exact ⟨more, inner, gap, tail, hrest, hinner, hgap, htail⟩
    · exact absurd (by rw [hmore]; simp) hfree
  · rintro ⟨start, inner, gap, tail, rfl, hinner, hgap, htail⟩
    exact ⟨before ++ '/' :: start, inner, gap, tail, by simp, hinner, hgap, htail⟩

/-- Of a line with a comment only the comment decides whether the line ends
in empty braces. -/
theorem endsInBraces_iff_comment (h : fromSlashes line ≠ []) :
    EndsInBraces line ↔ EndsInBraces (fromSlashes line) := by
  obtain ⟨rest, hrest⟩ := exists_of_fromSlashes_ne_nil h
  conv => lhs; rw [← beforeSlashes_append_fromSlashes line]
  rw [hrest, endsInBraces_append_slash]
  exact (endsInBraces_append_slash [] ('/' :: rest)).symm

/-! ## All lines of a text -/

/-- The text without the comments of its lines. -/
def uncommented (t : Text) : Text := unlines ((lines t).map beforeSlashes)

theorem lines_uncommented (t : Text) : lines (uncommented t) = (lines t).map beforeSlashes := by
  refine lines_unlines (by simpa using lines_ne_nil t) fun line hline => ?_
  obtain ⟨source, hsource, rfl⟩ := List.mem_map.mp hline
  exact not_mem_beforeSlashes (not_mem_of_mem_lines hsource)

namespace Block

/-- The role of a line and the progress after it. -/
def Mark.status (m : Mark) : Role × Progress := (m.role, m.progress)

/-- The roles of some lines and the progress after each, read on from a
progress. -/
def statusesFrom (n : Notation) (p : Progress) (ls : List Text) : List (Role × Progress) :=
  (marksFrom n p ls).map Mark.status

/-- The roles of the lines of a text and the progress after each. -/
def statuses (n : Notation) (t : Text) : List (Role × Progress) := (marks n t).map Mark.status

/-- The first line that opens a declaration. -/
def headerLine? (n : Notation) (t : Text) : Option Text :=
  (lines t).find? fun line => (n.header? line).isSome

/-- Behind the header a line has its status with a comment and without. -/
theorem status_mark_beforeSlashes {p : Progress} (hp : p ≠ .searching) (hline : '\n' ∉ line) :
    (mark n p (beforeSlashes line)).status = (mark n p line).status := by
  cases p with
  | searching => exact absurd rfl hp
  | inside =>
      rw [mark, mark, isClosing_beforeSlashes hline]
      split <;> rfl
  | done => rfl

/-- The search for a header is over once it has been found. -/
theorem progress_mark_ne_searching {p : Progress} (hp : p ≠ .searching) (line : Text) :
    (mark n p line).progress ≠ .searching := by
  cases p with
  | searching => exact absurd rfl hp
  | inside =>
      rw [mark]
      split <;> simp
  | done => simp [mark]

/-- Behind the header all lines have their status with comments and
without. -/
theorem statusesFrom_map_beforeSlashes {p : Progress} (hp : p ≠ .searching)
    (hls : ∀ line ∈ ls, '\n' ∉ line) :
    statusesFrom n p (ls.map beforeSlashes) = statusesFrom n p ls := by
  induction ls generalizing p with
  | nil => rfl
  | cons line ls ih =>
      have hstatus := status_mark_beforeSlashes (n := n) hp (hls line (by simp))
      have hprogress : (mark n p (beforeSlashes line)).progress = (mark n p line).progress :=
        congrArg Prod.snd hstatus
      have hrest := ih (progress_mark_ne_searching (n := n) hp line)
        fun l hl => hls l (List.mem_cons_of_mem line hl)
      simp only [statusesFrom] at hrest
      simp only [statusesFrom, List.map_cons, marksFrom, hstatus, hprogress, hrest]

/-- The progress behind a header. -/
def progressBehind (header : Text) : Progress := if closesItself header then .done else .inside

theorem progressBehind_eq_iff {header header' : Text} :
    progressBehind header = progressBehind header' ↔
      (EndsInBraces header ↔ EndsInBraces header') := by
  rw [progressBehind, progressBehind, ← closesItself_iff, ← closesItself_iff]
  cases closesItself header <;> cases closesItself header' <;> simp

theorem statusesFrom_cons_of_none (h : n.header? line = none) (ls : List Text) :
    statusesFrom n .searching (line :: ls)
      = (.outside, .searching) :: statusesFrom n .searching ls := by
  simp only [statusesFrom, marksFrom, mark, h]
  rfl

theorem statusesFrom_cons_of_some {name : Text} (h : n.header? line = some name)
    (ls : List Text) : statusesFrom n .searching (line :: ls)
      = (.header, progressBehind line) :: statusesFrom n (progressBehind line) ls := by
  simp only [statusesFrom, marksFrom, mark, h]
  rfl

/-- The comments count if the header ends in empty braces only with its
comment or only without it. -/
theorem statusesFrom_searching_iff (hls : ∀ line ∈ ls, '\n' ∉ line) :
    statusesFrom n .searching (ls.map beforeSlashes) = statusesFrom n .searching ls ↔
      ∀ line, ls.find? (fun line => (n.header? line).isSome) = some line →
        (EndsInBraces (beforeSlashes line) ↔ EndsInBraces line) := by
  induction ls with
  | nil => simp [statusesFrom, marksFrom]
  | cons line ls ih =>
      have hrest : ∀ l ∈ ls, '\n' ∉ l := fun l hl => hls l (List.mem_cons_of_mem line hl)
      have hcut := n.header?_beforeSlashes line
      rw [List.map_cons]
      cases hheader : n.header? line with
      | none =>
          -- the search goes on behind the line
          rw [hheader] at hcut
          rw [statusesFrom_cons_of_none hcut, statusesFrom_cons_of_none hheader,
            List.cons_inj_right, ih hrest, List.find?_cons_of_neg (by simp [hheader])]
      | some name =>
          -- behind the header both go on from the same progress, or they differ here
          have hne : progressBehind line ≠ .searching := by
            rw [progressBehind]
            split <;> simp
          rw [hheader] at hcut
          rw [statusesFrom_cons_of_some hcut, statusesFrom_cons_of_some hheader,
            List.find?_cons_of_pos (by simp [hheader])]
          simp only [Option.some.injEq, forall_eq', ← progressBehind_eq_iff]
          constructor
          · intro heq
            exact congrArg Prod.snd (List.cons.inj heq).1
          · intro heq
            rw [heq, statusesFrom_map_beforeSlashes hne hrest]

theorem isComplete_eq_any_statuses (n : Notation) (t : Text) :
    isComplete n t = (statuses n t).any (·.2 = .done) := by
  rw [statuses, List.any_map]
  rfl

theorem name?_uncommented (n : Notation) (t : Text) : name? n (uncommented t) = name? n t := by
  rw [name?, name?, lines_uncommented, List.findSome?_map]
  exact congrArg (List.findSome? · (lines t)) (funext n.header?_beforeSlashes)

/-- **Comments do not count, but for the one behind a header.** Without the
comments of its lines a text has the same header. All lines have the same
roles and progress, and the block is as complete as it was, exactly if the
header ends in empty braces with its comment and without it, or in neither
case. With a comment only the comment decides whether it does. -/
theorem statuses_uncommented (n : Notation) (t : Text) :
    lines (uncommented t) = (lines t).map beforeSlashes ∧
    name? n (uncommented t) = name? n t ∧
    (statuses n (uncommented t) = statuses n t ↔
      ∀ line, headerLine? n t = some line →
        (EndsInBraces (beforeSlashes line) ↔ EndsInBraces line)) ∧
    (statuses n (uncommented t) = statuses n t →
      isComplete n (uncommented t) = isComplete n t) ∧
    ∀ line, fromSlashes line ≠ [] → (EndsInBraces line ↔ EndsInBraces (fromSlashes line)) := by
  refine ⟨lines_uncommented t, name?_uncommented n t, ?_, fun h => ?_,
    fun line => endsInBraces_iff_comment⟩
  · rw [statuses, statuses, marks, marks, lines_uncommented]
    exact statusesFrom_searching_iff fun line hline => not_mem_of_mem_lines hline
  · rw [isComplete_eq_any_statuses, isComplete_eq_any_statuses, h]

/-- A struct without fields, with a comment behind its braces. -/
def emptyCrate : Text := "type Crate struct \x7b\x7d // nothing inside".toList

/-- A struct with braces in the comment behind its header. -/
def formerCrate : Text :=
  "type Crate struct \x7b // was struct\x7b\x7d\n\tWeight int\n\x7d".toList

/-- A comment behind empty braces keeps a block open, and braces in the
comment behind a header close it. -/
theorem statuses_uncommented_crate :
    (statuses .struct emptyCrate ≠ statuses .struct (uncommented emptyCrate) ∧
      isComplete .struct emptyCrate = false ∧
      isComplete .struct (uncommented emptyCrate) = true) ∧
    statuses .struct formerCrate ≠ statuses .struct (uncommented formerCrate) ∧
      body .struct formerCrate = [] ∧
      body .struct (uncommented formerCrate) = ["\tWeight int".toList] := by
  decide +kernel

end Block

end WireTypes
