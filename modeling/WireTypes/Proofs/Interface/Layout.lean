import WireTypes.Proofs.Interface.Property
import WireTypes.Proofs.TypeExpr.Marks

/-!
# Interface — Property lines however they are laid out

Between the parts of a property line there may be blanks, and the word
`readonly` and the terminator may be missing. The line is cut at its first
colon: what stands in front of it is a `Head`, and no other cut can be read
(`head?_before`, `exists_head_of_head?`). What stands behind it is a type
and an end, where the type goes as far as a semicolon or a slash lets it
(`ofHead?_append`). So a line is read back as its parts in every layout,
and the lines that are read at all are those of one form
(`interfaceField?_layout`).
-/

namespace WireTypes.Property

open Text TypeExpr

variable {line t type : Text} {p : Property}

/-! ## The name -/

/-- A word behind the word `readonly` and blanks is the name. -/
theorem name?_behindKeyword {gap name rest : Text} (hgap : gap ≠ [])
    (hblank : ∀ c ∈ gap, isBlank c = true) (hne : name ≠ []) (hname : ∀ c ∈ name, isWord c = true)
    (hrest : StartsOutside isWord rest) :
    name? ("readonly".toList ++ (gap ++ (name ++ rest))) = some (name, rest) := by
  have hkeyword : "readonly".toList.isPrefixOf? ("readonly".toList ++ (gap ++ (name ++ rest)))
      = some (gap ++ (name ++ rest)) := List.isPrefixOf?_eq_some_iff_append_eq.mpr rfl
  have hskip : skipBlanks? (gap ++ (name ++ rest)) = some (name ++ rest) := by
    apply skipBlanks?_append hgap hblank
    rw [startsOutside_append hne]
    exact startsOutside_of_forall fun c hc => isBlank_of_isWord (hname c hc)
  have htake : takeWord? (name ++ rest) = some (name, rest) := takeRun?_append hne hname hrest
  rw [name?, hkeyword]
  simp only [hskip, Option.bind_some, htake]

/-- The word `readonly` with blanks behind it, if there are any. -/
def keywordText : Option Gap → Text
  | none => []
  | some gap => "readonly".toList ++ gap.text

theorem keywordText_some (gap : Gap) : keywordText (some gap) = "readonly".toList ++ gap.text := rfl

theorem exists_keyword_of_name? {name rest : Text} (h : name? t = some (name, rest)) :
    ∃ keyword : Option Gap, (∀ gap ∈ keyword, gap.text ≠ []) ∧
      t = keywordText keyword ++ (name ++ rest) := by
  have hbare : takeWord? t = some (name, rest) → ∃ keyword : Option Gap,
      (∀ gap ∈ keyword, gap.text ≠ []) ∧ t = keywordText keyword ++ (name ++ rest) :=
    fun htake => ⟨none, by simp, (takeRun?_eq_some_iff.mp htake).1⟩
  rw [name?] at h
  split at h
  · exact hbare h
  · rename_i behind hprefix
    split at h
    · rename_i hfound
      rw [h] at hfound
      obtain ⟨u, hskip, htake⟩ := Option.bind_eq_some_iff.mp hfound
      obtain ⟨gap, hbehind, hne, hblank, -⟩ := skipBlanks?_eq_some_iff.mp hskip
      obtain ⟨hword, -⟩ := takeRun?_eq_some_iff.mp htake
      refine ⟨some ⟨gap, hblank⟩, by simpa using hne, ?_⟩
      rw [← List.isPrefixOf?_eq_some_iff_append_eq.mp hprefix, hbehind, hword, keywordText_some,
        List.append_assoc]
    · exact hbare h

/-! ## In front of the colon -/

/-- What stands in front of the colon. -/
structure Head where
  indent : Gap
  /-- The blanks behind the word `readonly`, if the line has it. -/
  keyword : Option Gap
  keyword_ne_nil : ∀ gap ∈ keyword, gap.text ≠ []
  name : Text
  name_ne_nil : name ≠ []
  name_word : ∀ c ∈ name, isWord c = true
  /-- Whether the name is followed by a question mark. -/
  optional : Bool
  beforeColon : Gap

/-- Whether a question mark stands at the start, and what follows it. -/
def takeMark : Text → Bool × Text
  | '?' :: rest => (true, rest)
  | t => (false, t)

/-- The name of a property, whether it is optional, and what stands behind
its colon. -/
def head? (line : Text) : Option (Text × Bool × Text) := do
  let (name, afterName) ← name? (trimStart line)
  let afterColon ← ":".toList.isPrefixOf? (trimStart (takeMark afterName).2)
  return (name, (takeMark afterName).1, afterColon)

/-- The property with this name and mark and this text behind its colon. -/
def ofHead? : Text × Bool × Text → Option Property
  | (name, optional, afterColon) => do
    let (type, tail) ← typeAndTail? (trimStart afterColon)
    if ((trimStart afterColon).takeWhile isTypeChar).isEmpty then
      if (trimStart afterColon).length < afterColon.length then
        some ⟨name, optional, [' '], tail.comment?⟩
      else none
    else some ⟨name, optional, type, tail.comment?⟩

theorem ofLine?_eq_bind (line : Text) : ofLine? line = (head? line).bind ofHead? := by
  simp only [ofLine?, head?, Option.bind_eq_bind, Option.bind_assoc]
  refine Option.bind_congr fun found _ => ?_
  obtain ⟨name, afterName⟩ := found
  cases afterName with
  | nil => rfl
  | cons c rest =>
      by_cases hmark : c = '?'
      · subst hmark
        simp [takeMark, ofHead?]
      · simp [takeMark, ofHead?, hmark]

namespace Head

/-- What follows the name on a line that goes on with `after` behind its
colon. -/
def afterName (h : Head) (after : Text) : Text :=
  (if h.optional then ['?'] else []) ++ (h.beforeColon.text ++ ':' :: after)

/-- The line that goes on with `after` behind its colon. -/
def before (h : Head) (after : Text) : Text :=
  h.indent.text ++ (keywordText h.keyword ++ (h.name ++ h.afterName after))

variable (h : Head) (after : Text)

theorem trimStart_colon : trimStart (h.beforeColon.text ++ ':' :: after) = ':' :: after :=
  trimStart_append_cons h.beforeColon.blank (by decide)

theorem takeMark_afterName :
    takeMark (h.afterName after) = (h.optional, h.beforeColon.text ++ ':' :: after) := by
  rw [afterName]
  cases h.optional with
  | true => rfl
  | false =>
      have hblank := h.beforeColon.blank
      cases hgap : h.beforeColon.text with
      | nil => rfl
      | cons c gap =>
          have hc : c ≠ '?' := ne_of_class (hblank c (by simp [hgap])) (by decide)
          simp [takeMark, hc]

/-- The name is a word of its own, blanks or not. -/
theorem startsOutside_afterName : StartsOutside isWord (h.afterName after) ∧
    StartsOutside isWord (trimStart (h.afterName after)) := by
  have hmark : isWord '?' = false := by decide
  have hcolon : isWord ':' = false := by decide
  rw [afterName]
  cases h.optional with
  | true =>
      rw [if_pos rfl, List.singleton_append, startsOutside_cons,
        trimStart_of_startsOutside (startsOutside_cons.mpr (by decide)), startsOutside_cons]
      exact ⟨hmark, hmark⟩
  | false =>
      rw [if_neg (by decide), List.nil_append, h.trimStart_colon after, startsOutside_cons]
      refine ⟨?_, hcolon⟩
      cases hgap : h.beforeColon.text with
      | nil => exact startsOutside_cons.mpr hcolon
      | cons c gap =>
          rw [List.cons_append, startsOutside_cons]
          exact isWord_of_isBlank (h.beforeColon.blank c (by simp [hgap]))

theorem name?_before : name? (trimStart (h.before after)) = some (h.name, h.afterName after) := by
  obtain ⟨hword, htrim⟩ := h.startsOutside_afterName after
  have hname : StartsOutside isBlank (h.name ++ h.afterName after) := by
    rw [startsOutside_append h.name_ne_nil]
    exact startsOutside_of_forall fun c hc => isBlank_of_isWord (h.name_word c hc)
  rw [before, trimStart_append h.indent.blank]
  cases hkeyword : h.keyword with
  | none =>
      show name? (trimStart (h.name ++ h.afterName after)) = _
      rw [trimStart_of_startsOutside hname]
      exact name?_append h.name_ne_nil h.name_word hword htrim
  | some gap =>
      have hstart : StartsOutside isBlank "readonly".toList := by decide
      rw [keywordText_some, List.append_assoc, trimStart_of_startsOutside]
      · exact name?_behindKeyword (h.keyword_ne_nil gap hkeyword) gap.blank h.name_ne_nil
          h.name_word hword
      · exact (startsOutside_append (by decide)).mpr hstart

/-- **A line is cut at the colon behind its head.** -/
theorem head?_before : head? (h.before after) = some (h.name, h.optional, after) := by
  have hcolon : ":".toList.isPrefixOf? (':' :: after) = some after :=
    List.isPrefixOf?_eq_some_iff_append_eq.mpr rfl
  rw [head?, h.name?_before after]
  simp only [Option.bind_eq_bind, Option.bind_some, h.takeMark_afterName after,
    h.trimStart_colon after, hcolon]
  rfl

theorem ofLine?_before : ofLine? (h.before after) = ofHead? (h.name, h.optional, after) := by
  rw [ofLine?_eq_bind, h.head?_before after, Option.bind_some]

end Head

theorem eq_of_takeMark (t : Text) :
    t = (if (takeMark t).1 then ['?'] else []) ++ (takeMark t).2 := by
  rw [takeMark.eq_def]
  split
  · rfl
  · simp

/-- A line that can be cut starts with a head. -/
theorem exists_head_of_head? {name after : Text} {optional : Bool}
    (h : head? line = some (name, optional, after)) :
    ∃ head : Head, line = head.before after ∧ head.name = name ∧ head.optional = optional := by
  simp only [head?, Option.bind_eq_bind, Option.bind_eq_some_iff] at h
  obtain ⟨⟨found, afterName⟩, hname, after', hcolon, h⟩ := h
  cases h
  obtain ⟨keyword, hkeyword, hline⟩ := exists_keyword_of_name? hname
  obtain ⟨hne, hword⟩ := word_of_name? hname
  obtain ⟨indent, hindent, hblank⟩ := exists_trimStart_append line
  obtain ⟨gap, hgap, hgapBlank⟩ := exists_trimStart_append (takeMark afterName).2
  have hafterName : afterName = (if (takeMark afterName).1 then ['?'] else []) ++
      (gap ++ ':' :: after) := by
    rw [← List.isPrefixOf?_eq_some_iff_append_eq.mp hcolon] at hgap
    conv => lhs; rw [eq_of_takeMark afterName, hgap]
    rfl
  refine ⟨⟨⟨indent, hblank⟩, keyword, hkeyword, found, hne, hword, (takeMark afterName).1,
    ⟨gap, hgapBlank⟩⟩, ?_, rfl, rfl⟩
  rw [hindent, hline, Head.before, Head.afterName, ← hafterName]

/-! ## Behind the colon -/

section Behind

variable {body stop rest : Text}

/-- What may stand where the type stops: a semicolon, and a comment. -/
def ending? (stop : Text) : Option Tail :=
  match stop with
  | ';' :: rest => Tail.ofText? (trimStart rest)
  | _ => Tail.ofText? stop

/-- The text of the type, of what stands between the colon and the stop. A
comma that ends it is part of it only before a semicolon. -/
def typeText (body stop : Text) : Text :=
  if trimStart body = [] then [' ']
  else if stop.head? = some ';' then trim body else dropComma (trim body)

variable (hbody : ∀ c ∈ body, isTypeChar c = true) (hstop : StartsOutside isTypeChar stop)

include hstop in
theorem startsOutside_blank_of_stop : StartsOutside isBlank stop := by
  intro c hc
  cases hb : isBlank c with
  | false => rfl
  | true =>
      have hout := hstop c hc
      rw [isTypeChar_of_isBlank hb] at hout
      exact absurd hout (by decide)

include hstop in
theorem trimStart_append_stop : trimStart (body ++ stop) = trimStart body ++ stop := by
  by_cases hne : trimStart body = []
  · have hblank : ∀ c ∈ body, isBlank c = true := List.dropWhile_eq_nil_iff.mp hne
    rw [trimStart_append hblank, hne, List.nil_append,
      trimStart_of_startsOutside (startsOutside_blank_of_stop hstop)]
  · rw [trimStart, List.dropWhile_append, ← trimStart, if_neg (by simpa using hne)]

theorem ending?_of_head (h : stop.head? ≠ some ';') : ending? stop = Tail.ofText? stop := by
  rw [ending?.eq_def]
  split
  · exact absurd rfl h
  · rfl

include hbody hstop in
theorem typeAndTail?_append_stop : typeAndTail? (trimStart body ++ stop)
    = (ending? stop).map fun tail => (if stop.head? = some ';' then trim body
        else dropComma (trim body), tail) := by
  have hchars : ∀ c ∈ trimStart body, isTypeChar c = true :=
    fun c hc => hbody c (List.dropWhile_subset _ hc)
  rw [typeAndTail?, takeWhile_append_rest hchars hstop, dropWhile_append_rest hchars hstop, ← trim,
    Option.map_eq_bind]
  split
  · rfl
  · rename_i hopen
    have hhead : stop.head? ≠ some ';' := by
      intro hhead
      obtain ⟨rest, rfl⟩ := List.head?_eq_some_iff.mp hhead
      exact hopen rest rfl
    rw [ending?_of_head hhead, if_neg hhead]
    rfl

include hbody hstop in
/-- **What stands behind the colon is cut where the type stops.** -/
theorem ofHead?_append (name : Text) (optional : Bool) : ofHead? (name, optional, body ++ stop)
    = if body = [] then none else (ending? stop).map fun tail =>
        ⟨name, optional, typeText body stop, tail.comment?⟩ := by
  have hchars : ∀ c ∈ trimStart body, isTypeChar c = true :=
    fun c hc => hbody c (List.dropWhile_subset _ hc)
  rw [ofHead?, trimStart_append_stop hstop, typeAndTail?_append_stop hbody hstop,
    takeWhile_append_rest hchars hstop]
  cases ending? stop with
  | none => simp
  | some tail =>
      by_cases hblank : trimStart body = []
      · -- only a blank that is there can be the type
        by_cases hne : body = []
        · have hnil : trimStart [] = [] := rfl
          simp [hne, hnil]
        · simp [hblank, hne, typeText]
      · have hne : body ≠ [] := by
          rintro rfl
          exact hblank rfl
        simp [hblank, hne, typeText]

end Behind

/-! ## The end of the line -/

section End

variable {body : Text} {comment : Option Text} {tail : Tail}

/-- A comment stands to the end of the line, if there is one. -/
theorem exists_tail_of_start (hstart : ∀ c ∈ comment, "//".toList <+: c)
    (hline : '\n' ∉ comment.getD []) :
    ∃ tail, Tail.ofText? (comment.getD []) = some tail ∧ tail.comment? = comment := by
  cases comment with
  | none => exact ⟨.nothing, rfl, rfl⟩
  | some c =>
      rw [Option.getD_some] at hline ⊢
      have hprefix := List.isPrefixOf_iff_prefix.mpr (hstart c rfl)
      obtain ⟨rest, rfl⟩ := hstart c rfl
      refine ⟨.comment _, ?_, rfl⟩
      rw [Tail.ofText?.eq_2 _ (by simp), hprefix, fitsLine_of_not_mem hline,
        dropFinalNewline_of_not_mem hline]
      rfl

theorem eq_of_tail (hline : '\n' ∉ t) (h : Tail.ofText? t = some tail) :
    t = tail.comment?.getD [] ∧ ∀ c ∈ tail.comment?, "//".toList <+: c := by
  rw [Tail.ofText?.eq_def] at h
  split at h
  · cases h
    exact ⟨rfl, by simp [Tail.comment?]⟩
  · split at h
    · rename_i hstart
      cases h
      rw [Bool.and_eq_true, List.isPrefixOf_iff_prefix] at hstart
      rw [dropFinalNewline_of_not_mem hline]
      exact ⟨rfl, by simpa [Tail.comment?] using hstart.1⟩
    · cases h

theorem startsOutside_comment (hstart : ∀ c ∈ comment, "//".toList <+: c) {q : Char → Bool}
    (hq : q '/' = false) : StartsOutside q (comment.getD []) := by
  cases comment with
  | none => exact startsOutside_nil
  | some c =>
      obtain ⟨rest, rfl⟩ := hstart c rfl
      exact startsOutside_cons.mpr hq

/-- No semicolon stands at the start of a comment. -/
theorem head?_comment (hstart : ∀ c ∈ comment, "//".toList <+: c) :
    (comment.getD []).head? ≠ some ';' := by
  intro hhead
  exact absurd (startsOutside_comment hstart (q := (· == ';')) (by decide) ';' hhead) (by decide)

variable (hbody : ∀ c ∈ body, isTypeChar c = true) (hne : trimStart body ≠ [])
  (hstart : ∀ c ∈ comment, "//".toList <+: c) (hline : '\n' ∉ comment.getD [])

include hbody hne hstart hline in
/-- Without a semicolon the type goes up to the comment, less a comma. -/
theorem ofHead?_beforeComment (name : Text) (optional : Bool) :
    ofHead? (name, optional, body ++ comment.getD [])
      = some ⟨name, optional, dropComma (trim body), comment⟩ := by
  obtain ⟨tail, htail, hcomment⟩ := exists_tail_of_start hstart hline
  have hhead := head?_comment hstart
  have hbodyNe : body ≠ [] := by
    rintro rfl
    exact hne rfl
  rw [ofHead?_append hbody (startsOutside_comment hstart (by decide)), if_neg hbodyNe,
    ending?_of_head hhead, htail, Option.map_some, hcomment, typeText, if_neg hne, if_neg hhead]

include hbody hne hstart hline in
/-- With a semicolon the type goes up to it. -/
theorem ofHead?_beforeSemicolon (name : Text) (optional : Bool) (gap : Gap) :
    ofHead? (name, optional, body ++ ';' :: (gap.text ++ comment.getD []))
      = some ⟨name, optional, trim body, comment⟩ := by
  obtain ⟨tail, htail, hcomment⟩ := exists_tail_of_start hstart hline
  have hgap : trimStart (gap.text ++ comment.getD []) = comment.getD [] := by
    rw [trimStart_append gap.blank, trimStart_of_startsOutside]
    exact startsOutside_comment hstart (by decide)
  have hbodyNe : body ≠ [] := by
    rintro rfl
    exact hne rfl
  rw [ofHead?_append hbody (startsOutside_cons.mpr (by decide)), if_neg hbodyNe, ending?, hgap,
    htail, Option.map_some, hcomment, typeText, if_neg hne, if_pos (List.head?_cons)]

end End

/-! ## Written properties -/

/-- **A written property is read as its parts.** Blanks in front of the
type belong to the gap behind the colon. -/
theorem ofLine?_written {indent name rest : Text} {optional : Bool}
    (hindent : ∀ c ∈ indent, isBlank c = true) (hne : name ≠ [])
    (hname : ∀ c ∈ name, isWord c = true) (htypeNe : trimStart type ≠ [])
    (htype : ∀ c ∈ type, isTypeChar c = true) (hend : EndsOutside isBlank type) :
    ofLine? (indent ++ (name ++ ((if optional then ['?'] else []) ++
      (": ".toList ++ (type ++ ';' :: rest)))))
      = (Tail.ofText? (trimStart rest)).map
          fun tail => ⟨name, optional, trimStart type, tail.comment?⟩ := by
  have hbody : ∀ c ∈ ' ' :: type, isTypeChar c = true := by
    rintro c (_ | ⟨_, hc⟩)
    · decide
    · exact htype c hc
  have htrimStart : trimStart (' ' :: type) = trimStart type := by
    rw [trimStart, List.dropWhile_cons_of_pos isBlank_space, trimStart]
  have htrim : trim (' ' :: type) = trimStart type := by
    rw [trim, htrimStart]
    exact trimEnd_of_endsOutside (hend.of_suffix (List.dropWhile_suffix _))
  have hread := Head.ofLine?_before ⟨⟨indent, hindent⟩, none, by simp, name, hne, hname, optional,
    .none⟩ (' ' :: (type ++ ';' :: rest))
  rw [← List.cons_append, ofHead?_append hbody (startsOutside_cons.mpr (by decide)),
    if_neg (by simp), ending?, typeText, htrimStart, if_neg htypeNe, if_pos (List.head?_cons),
    htrim] at hread
  exact hread

/-! ## Layouts -/

/-- What may end a property in front of its comment. -/
inductive Terminator where
  | nothing
  | comma
  | semicolon
deriving DecidableEq, Repr

/-- The terminator as it is written. -/
def Terminator.toText : Terminator → Text
  | nothing => []
  | comma => [',']
  | semicolon => [';']

/-- A property line with the blanks between its parts. -/
structure Layout extends Head where
  beforeType : Gap
  type : Text
  type_ne_nil : type ≠ []
  type_chars : ∀ c ∈ type, isTypeChar c = true
  type_trimmed : trim type = type
  type_noComma : type.getLast? ≠ some ','
  afterType : Gap
  terminator : Terminator
  afterTerminator : Gap
  /-- The comment with all that follows it on the line. -/
  comment : Option Text
  comment_start : ∀ c ∈ comment, "//".toList <+: c

namespace Layout

/-- What stands behind the terminator. -/
def ending (s : Layout) : Text := s.afterTerminator.text ++ s.comment.getD []

/-- The line. -/
def toText (s : Layout) : Text :=
  s.before (s.beforeType.text ++ (s.type ++ (s.afterType.text ++
    (s.terminator.toText ++ s.ending))))

/-! ### The type -/

theorem type_outside (s : Layout) :
    StartsOutside isBlank s.type ∧ EndsOutside isBlank s.type := by
  rw [← s.type_trimmed]
  exact ⟨startsOutside_trim s.type, endsOutside_trim s.type⟩

theorem dropComma_concat (h : t ≠ []) : dropComma (t ++ [',']) = trimEnd t := by
  obtain ⟨u, c, rfl⟩ := (List.eq_nil_or_concat' t).resolve_left h
  simp [dropComma]

theorem dropComma_of_getLast? (h : t.getLast? ≠ some ',') : dropComma t = t := by
  rw [dropComma.eq_def]
  split
  · rename_i c rest heq
    rw [← List.head?_reverse, heq] at h
    exact absurd rfl h
  · rfl

/-- A text between blanks, behind a colon, is of type characters if it is. -/
theorem typeChars_between (first last : Gap) (h : ∀ c ∈ t, isTypeChar c = true) :
    ∀ c ∈ first.text ++ (t ++ last.text), isTypeChar c = true := by
  intro c hc
  rw [List.mem_append, List.mem_append] at hc
  rcases hc with hc | hc | hc
  · exact isTypeChar_of_isBlank (first.blank c hc)
  · exact h c hc
  · exact isTypeChar_of_isBlank (last.blank c hc)

theorem trimStart_between_ne_nil (first last : Gap) (hne : t ≠ [])
    (h : StartsOutside isBlank t) : trimStart (first.text ++ (t ++ last.text)) ≠ [] := by
  rw [trimStart_append first.blank, trimStart_of_startsOutside ((startsOutside_append hne).mpr h)]
  exact List.append_ne_nil_of_left_ne_nil hne _

theorem trim_type (s : Layout) (gap : Gap) :
    trim (s.beforeType.text ++ (s.type ++ gap.text)) = s.type := by
  rw [trim_append_append s.beforeType.blank gap.blank s.type_outside.1 s.type_ne_nil,
    trimEnd_of_endsOutside s.type_outside.2]

/-! ### A type with a comma behind it -/

/-- The type up to the comma. -/
def commaType (s : Layout) : Text := s.type ++ (s.afterType.text ++ [','])

theorem commaType_ne_nil (s : Layout) : s.commaType ≠ [] := by
  simp [commaType]

theorem commaType_chars (s : Layout) : ∀ c ∈ s.commaType, isTypeChar c = true := by
  intro c hc
  rw [commaType, List.mem_append, List.mem_append, List.mem_singleton] at hc
  rcases hc with hc | hc | rfl
  · exact s.type_chars c hc
  · exact isTypeChar_of_isBlank (s.afterType.blank c hc)
  · decide

theorem startsOutside_commaType (s : Layout) : StartsOutside isBlank s.commaType :=
  (startsOutside_append s.type_ne_nil).mpr s.type_outside.1

/-- The comma is dropped, and the blanks in front of it. -/
theorem dropComma_commaType (s : Layout) :
    dropComma (trim (s.beforeType.text ++ (s.commaType ++ s.afterTerminator.text))) = s.type := by
  have htrim : trim (s.beforeType.text ++ (s.commaType ++ s.afterTerminator.text))
      = s.type ++ s.afterType.text ++ [','] := by
    rw [trim_append_append s.beforeType.blank s.afterTerminator.blank s.startsOutside_commaType
      s.commaType_ne_nil, commaType, ← List.append_assoc,
      trimEnd_of_endsOutside (endsOutside_concat.mpr (by decide))]
  rw [htrim, dropComma_concat (List.append_ne_nil_of_left_ne_nil s.type_ne_nil _),
    trimEnd_append s.afterType.blank, trimEnd_of_endsOutside s.type_outside.2]

/-! ### The line as a whole -/

/-- **The type and the comment are found between the blanks**, whatever the
terminator. -/
theorem ofHead?_toText (s : Layout) (hline : '\n' ∉ s.comment.getD []) :
    ofHead? (s.name, s.optional, s.beforeType.text ++ (s.type ++ (s.afterType.text ++
      (s.terminator.toText ++ s.ending)))) = some ⟨s.name, s.optional, s.type, s.comment⟩ := by
  cases hterminator : s.terminator with
  | nothing =>
      have hblank : ∀ c ∈ s.afterType.text ++ s.afterTerminator.text, isBlank c = true :=
        fun c hc => (List.mem_append.mp hc).elim (s.afterType.blank c) (s.afterTerminator.blank c)
      have hread := ofHead?_beforeComment
        (typeChars_between s.beforeType ⟨_, hblank⟩ s.type_chars)
        (trimStart_between_ne_nil _ _ s.type_ne_nil s.type_outside.1) s.comment_start hline s.name
        s.optional
      rw [trim_type, dropComma_of_getLast? s.type_noComma] at hread
      rw [← hread, Terminator.toText, ending]
      simp only [List.append_assoc, List.nil_append]
  | comma =>
      have hread := ofHead?_beforeComment
        (typeChars_between s.beforeType s.afterTerminator s.commaType_chars)
        (trimStart_between_ne_nil _ _ s.commaType_ne_nil s.startsOutside_commaType)
        s.comment_start hline s.name s.optional
      rw [dropComma_commaType] at hread
      rw [← hread, Terminator.toText, ending, commaType]
      simp only [List.append_assoc]
  | semicolon =>
      have hread := ofHead?_beforeSemicolon
        (typeChars_between s.beforeType s.afterType s.type_chars)
        (trimStart_between_ne_nil _ _ s.type_ne_nil s.type_outside.1) s.comment_start hline s.name
        s.optional s.afterTerminator
      rw [trim_type] at hread
      rw [← hread, Terminator.toText, ending]
      simp only [List.append_assoc, List.singleton_append]

theorem comment_oneLine {s : Layout} (h : '\n' ∉ s.toText) : '\n' ∉ s.comment.getD [] :=
  fun hmem => h (by simp [toText, Head.before, Head.afterName, ending, hmem])

/-- **A property is read back from its line in every layout.** -/
theorem ofLine?_toText (s : Layout) (h : '\n' ∉ s.toText) :
    ofLine? s.toText = some ⟨s.name, s.optional, s.type, s.comment⟩ := by
  rw [toText, Head.ofLine?_before, s.ofHead?_toText (comment_oneLine h)]

end Layout

/-! ## The lines that are read -/

/-- A line of the form of a property: a head, a colon, text up to a semicolon
or a slash, and the end. -/
structure Form extends Head where
  body : Text
  body_ne_nil : body ≠ []
  body_chars : ∀ c ∈ body, isTypeChar c = true
  semicolon : Bool
  gap : Gap
  comment : Option Text
  comment_start : ∀ c ∈ comment, "//".toList <+: c

namespace Form

/-- What follows the text behind the colon. -/
def ending (s : Form) : Text :=
  (if s.semicolon then [';'] else []) ++ (s.gap.text ++ s.comment.getD [])

/-- The line. -/
def toText (s : Form) : Text := s.before (s.body ++ s.ending)

theorem comment_oneLine {s : Form} (h : '\n' ∉ s.toText) : '\n' ∉ s.comment.getD [] :=
  fun hmem => h (by simp [toText, Head.before, Head.afterName, ending, hmem])

/-- Behind the colon of such a line a type is found. -/
theorem isSome_ofHead? {s : Form} (h : '\n' ∉ s.toText) :
    (ofHead? (s.name, s.optional, s.body ++ s.ending)).isSome = true := by
  obtain ⟨tail, htail, -⟩ := exists_tail_of_start s.comment_start (comment_oneLine h)
  rw [ending]
  cases s.semicolon with
  | true =>
      have hgap : trimStart (s.gap.text ++ s.comment.getD []) = s.comment.getD [] := by
        rw [trimStart_append s.gap.blank, trimStart_of_startsOutside]
        exact startsOutside_comment s.comment_start (by decide)
      have hending : ending? (';' :: (s.gap.text ++ s.comment.getD [])) = some tail := by
        rw [ending?, hgap, htail]
      rw [if_pos rfl, List.singleton_append, ofHead?_append s.body_chars
        (startsOutside_cons.mpr (by decide)), if_neg s.body_ne_nil, hending]
      rfl
  | false =>
      -- without a semicolon the blanks belong to the text in front of them
      have hchars : ∀ c ∈ s.body ++ s.gap.text, isTypeChar c = true := by
        intro c hc
        rcases List.mem_append.mp hc with hc | hc
        · exact s.body_chars c hc
        · exact isTypeChar_of_isBlank (s.gap.blank c hc)
      have hstop : StartsOutside isTypeChar (s.comment.getD []) :=
        startsOutside_comment s.comment_start (by decide)
      rw [if_neg (by decide), List.nil_append, ← List.append_assoc, ofHead?_append hchars hstop,
        if_neg (List.append_ne_nil_of_left_ne_nil s.body_ne_nil _),
        ending?_of_head (head?_comment s.comment_start), htail]
      rfl

end Form

theorem exists_of_ending? {stop : Text} {tail : Tail} (hline : '\n' ∉ stop)
    (h : ending? stop = some tail) : ∃ (semicolon : Bool) (gap : Gap) (comment : Option Text),
      stop = (if semicolon then [';'] else []) ++ (gap.text ++ comment.getD []) ∧
        ∀ c ∈ comment, "//".toList <+: c := by
  rw [ending?.eq_def] at h
  split at h
  · rename_i rest
    obtain ⟨gap, hrest, hblank⟩ := exists_trimStart_append rest
    have hline' : '\n' ∉ trimStart rest :=
      fun hmem => hline (List.mem_cons_of_mem _ (List.dropWhile_subset _ hmem))
    obtain ⟨htail, hstart⟩ := eq_of_tail hline' h
    refine ⟨true, ⟨gap, hblank⟩, tail.comment?, ?_, hstart⟩
    rw [← htail, ← hrest]
    rfl
  · obtain ⟨htail, hstart⟩ := eq_of_tail hline h
    exact ⟨false, .none, tail.comment?, htail, hstart⟩

/-- **The lines that are read as a property are those of the form.** -/
theorem isSome_ofLine?_iff (hline : '\n' ∉ line) :
    (ofLine? line).isSome = true ↔ ∃ s : Form, s.toText = line := by
  constructor
  · intro h
    obtain ⟨p, hp⟩ := Option.isSome_iff_exists.mp h
    rw [ofLine?_eq_bind] at hp
    obtain ⟨⟨name, optional, after⟩, hhead, hread⟩ := Option.bind_eq_some_iff.mp hp
    obtain ⟨head, rfl, -, -⟩ := exists_head_of_head? hhead
    have hafter : after.takeWhile isTypeChar ++ after.dropWhile isTypeChar = after :=
      List.takeWhile_append_dropWhile
    have hchars : ∀ c ∈ after.takeWhile isTypeChar, isTypeChar c = true :=
      fun c hc => List.mem_takeWhile_imp hc
    rw [← hafter, ofHead?_append hchars (startsOutside_dropWhile after)] at hread
    split at hread
    · cases hread
    · rename_i hne
      obtain ⟨tail, hending, -⟩ := Option.map_eq_some_iff.mp hread
      have hstop : '\n' ∉ after.dropWhile isTypeChar := by
        intro hmem
        refine hline ?_
        simp [Head.before, Head.afterName, List.dropWhile_subset _ hmem]
      obtain ⟨semicolon, gap, comment, hsplit, hstart⟩ := exists_of_ending? hstop hending
      refine ⟨⟨head, _, hne, hchars, semicolon, gap, comment, hstart⟩, ?_⟩
      rw [Form.toText, Form.ending, ← hsplit, hafter]
  · rintro ⟨s, rfl⟩
    rw [Form.toText, Head.ofLine?_before]
    exact Form.isSome_ofHead? hline

/-- **Property lines, however they are laid out.** A line is read back as
its parts in every layout, and a line gives a field exactly if it has the
form of a property. -/
theorem interfaceField?_layout (v : Vocabulary) :
    (∀ s : Layout, '\n' ∉ s.toText → interfaceField? v s.toText = some
      { name := s.name
        type := Union.toType v s.optional s.type
        jsonName := s.name
        omittable := s.optional
        comment := s.comment.map trim }) ∧
    ∀ line : Text, '\n' ∉ line →
      ((interfaceField? v line).isSome = true ↔ ∃ s : Form, s.toText = line) := by
  refine ⟨fun s hline => ?_, fun line hline => ?_⟩
  · rw [interfaceField?, s.ofLine?_toText hline]
    rfl
  · rw [interfaceField?, Option.isSome_map]
    exact isSome_ofLine?_iff hline

/-- A property whose name goes on where `readonly` ends, behind that word, and
whose type has a comma of its own in front of the one that ends it. -/
def parcels : Layout where
  indent := ⟨"\t ".toList, List.all_eq_true.mp (by decide)⟩
  keyword := some ⟨"  ".toList, List.all_eq_true.mp (by decide)⟩
  keyword_ne_nil := by simp
  name := "readonlyParcels".toList
  name_ne_nil := by decide
  name_word := List.all_eq_true.mp (by decide)
  optional := true
  beforeColon := ⟨" ".toList, List.all_eq_true.mp (by decide)⟩
  beforeType := .none
  type := "Map<string, Parcel>".toList
  type_ne_nil := by decide
  type_chars := List.all_eq_true.mp (by decide)
  type_trimmed := by decide
  type_noComma := by decide
  afterType := ⟨" ".toList, List.all_eq_true.mp (by decide)⟩
  terminator := .comma
  afterTerminator := ⟨"\t".toList, List.all_eq_true.mp (by decide)⟩
  comment := some "// by zone; \r".toList
  comment_start := by
    rintro _ ⟨⟩
    exact ⟨_, rfl⟩

theorem interfaceField?_layout_parcels :
    '\n' ∉ parcels.toText ∧
    parcels.toText = "\t readonly  readonlyParcels? :Map<string, Parcel> ,\t// by zone; \r".toList ∧
    interfaceField? .default parcels.toText = some
      { name := "readonlyParcels".toList
        type := .named "Map<string, Parcel>".toList
        jsonName := "readonlyParcels".toList
        omittable := true
        comment := some "// by zone;".toList } ∧
    (∃ s : Form, s.toText = parcels.toText) ∧
    '\n' ∉ "weight: kg / m".toList ∧ ¬ ∃ s : Form, s.toText = "weight: kg / m".toList := by
  have hline : '\n' ∉ parcels.toText := by decide +kernel
  have hother : '\n' ∉ "weight: kg / m".toList := by decide
  obtain ⟨hread, hform⟩ := interfaceField?_layout .default
  have hfield := hread parcels hline
  have htype : Union.toType .default parcels.optional parcels.type
      = .named "Map<string, Parcel>".toList := by decide +kernel
  have hcomment : parcels.comment.map trim = some "// by zone;".toList := by decide +kernel
  rw [htype, hcomment] at hfield
  refine ⟨hline, by decide +kernel, hfield, (hform _ hline).mp (by rw [hfield]; rfl), hother, ?_⟩
  rw [← hform _ hother]
  decide +kernel

end WireTypes.Property
