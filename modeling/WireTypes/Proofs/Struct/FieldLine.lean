import WireTypes.Proofs.Name.Characters
import WireTypes.Proofs.Struct.Tag
import WireTypes.Proofs.Text.Comment

/-!
# Struct — Field lines read and written

A field line has one reading. `FieldLine.ofLine?_eq_some_iff` says how a
line is put together that is read as given parts; the lemmas on tails do
the same for what stands behind the type. Statements about tags, repairs
and conversions take lines apart and build them with these, and do not
open the readers again.
-/

namespace WireTypes

open Text

/-! ## What stands behind the type -/

namespace FieldTail

variable {t tag rest gap : Text}

/-- **A tail with a tag**: blanks, the tag between backquotes, and behind it
at most one line. -/
theorem tagged?_eq_some_iff {tail : FieldTail} :
    tagged? t = some tail ↔ ∃ gap tag rest, t = gap ++ '`' :: (tag ++ '`' :: rest) ∧ gap ≠ [] ∧
      (∀ c ∈ gap, isBlank c = true) ∧ '`' ∉ tag ∧ fitsLine (trimStart rest) = true ∧
      tail = .tagged tag (commentAfterTag (trimStart rest)) := by
  constructor
  · intro h
    rw [tagged?] at h
    simp only [Option.bind_eq_bind, Option.bind_eq_some_iff] at h
    obtain ⟨afterGap, hgap, opened, hopen, rest, hclose, h⟩ := h
    obtain ⟨gap, rfl, hne, hblank, -⟩ := skipBlanks?_eq_some_iff.mp hgap
    split at h
    · rename_i hfits
      cases h
      refine ⟨gap, _, rest, ?_, hne, hblank, ?_, hfits, rfl⟩
      · have hopened : opened.takeWhile (· != '`') ++ '`' :: rest = opened := by
          conv => rhs; rw [← List.takeWhile_append_dropWhile (p := (· != '`')) (l := opened)]
          rw [← List.isPrefixOf?_eq_some_iff_append_eq.mp hclose]
          rfl
        rw [hopened, ← List.isPrefixOf?_eq_some_iff_append_eq.mp hopen]
        rfl
      · exact fun hmem => absurd (List.mem_takeWhile_imp hmem) (by decide)
    · cases h
  · rintro ⟨gap, tag, rest, rfl, hne, hgap, htag, hfits, rfl⟩
    have hall : ∀ c ∈ tag, (c != '`') = true := bne_of_not_mem htag
    have hstop : StartsOutside (· != '`') ('`' :: rest) := by simp
    have hskip : skipBlanks? (gap ++ '`' :: (tag ++ '`' :: rest))
        = some ('`' :: (tag ++ '`' :: rest)) :=
      skipBlanks?_append hne hgap (by simp; decide)
    have hopen : "`".toList.isPrefixOf? ('`' :: (tag ++ '`' :: rest)) = some (tag ++ '`' :: rest) :=
      List.isPrefixOf?_eq_some_iff_append_eq.mpr rfl
    have hclose : "`".toList.isPrefixOf? ('`' :: rest) = some rest :=
      List.isPrefixOf?_eq_some_iff_append_eq.mpr rfl
    rw [tagged?, hskip]
    simp only [Option.bind_eq_bind, Option.bind_some, hopen,
      takeWhile_append_rest hall hstop, dropWhile_append_rest hall hstop, hclose, hfits, if_true]

/-- A tag behind blanks is read up to its closing quote. -/
theorem tagged?_append (hne : gap ≠ []) (hgap : ∀ c ∈ gap, isBlank c = true)
    (htag : '`' ∉ tag) (hrest : '\n' ∉ rest) :
    tagged? (gap ++ '`' :: (tag ++ '`' :: rest))
      = some (.tagged tag (commentAfterTag (trimStart rest))) :=
  tagged?_eq_some_iff.mpr ⟨gap, tag, rest, rfl, hne, hgap, htag,
    fitsLine_of_not_mem fun h => hrest (List.dropWhile_subset _ h), rfl⟩

/-- What starts no tag is no tail with one. -/
theorem tagged?_eq_none (h : StartsOutside (· == '`') (trimStart t)) : tagged? t = none := by
  rw [Option.eq_none_iff_forall_ne_some]
  intro tail htail
  obtain ⟨gap, tag, rest, rfl, -, hgap, -⟩ := tagged?_eq_some_iff.mp htail
  rw [trimStart_append_cons hgap (by decide), startsOutside_cons] at h
  exact absurd h (by decide)

/-- Behind a tag a comment of either kind is kept. -/
theorem commentAfterTag_of_start (h : "//".toList <+: t ∨ "/*".toList <+: t) :
    commentAfterTag t = some (dropFinalNewline t) := by
  rw [commentAfterTag, if_pos]
  rw [Bool.or_eq_true, List.isPrefixOf_iff_prefix, List.isPrefixOf_iff_prefix]
  exact h

/-- A line comment behind a tag is kept. -/
theorem commentAfterTag_comment {comment after : Text} (h : IsLineComment comment)
    (hafter : '\n' ∉ after) :
    commentAfterTag (comment ++ after) = some (comment ++ after) := by
  rw [commentAfterTag_of_start (Or.inl (h.start.trans (List.prefix_append comment after))),
    dropFinalNewline_of_not_mem]
  rw [List.mem_append, not_or]
  exact ⟨h.oneLine, hafter⟩

theorem commentAfterTag_nil : commentAfterTag [] = none := by decide

/-- Without a tag there is at most a comment between blanks. -/
theorem exists_of_untagged? {tail : FieldTail} (h : untagged? t = some tail) :
    (tail = .untagged none ∧ ∀ c ∈ t, isBlank c = true) ∨
    ∃ gap comment after, tail = .untagged (some (gap ++ comment)) ∧
      t = gap ++ (comment ++ after) ∧ (∀ c ∈ gap, isBlank c = true) ∧
      IsLineComment comment ∧ ∀ c ∈ after, isBlank c = true := by
  obtain ⟨after, ht, hafter⟩ := exists_trimEnd_append (trimStart t)
  have hgap : ∀ c ∈ t.takeWhile isBlank, isBlank c = true :=
    fun c hc => List.mem_takeWhile_imp hc
  have hsplit : t = t.takeWhile isBlank ++ (trimEnd (trimStart t) ++ after) := by
    rw [← ht]
    exact List.takeWhile_append_dropWhile.symm
  rw [untagged?] at h
  split at h
  · rename_i hempty
    cases h
    left
    refine ⟨rfl, fun c hc => ?_⟩
    rw [hsplit, List.isEmpty_iff.mp hempty, List.nil_append, List.mem_append] at hc
    rcases hc with hc | hc
    · exact hgap c hc
    · exact hafter c hc
  · split at h
    · rename_i hcomment
      cases h
      rw [Bool.and_eq_true, List.isPrefixOf_iff_prefix] at hcomment
      right
      exact ⟨t.takeWhile isBlank, trimEnd (trimStart t), after, rfl, hsplit, hgap,
        ⟨hcomment.1, by simpa using hcomment.2, endsOutside_trimEnd _⟩, hafter⟩
    · cases h

/-- A tag stands in the text it is read from, and what follows it on the
line may be a comment. -/
theorem exists_of_tagged? {tail : FieldTail} (h : tagged? t = some tail) :
    ∃ tag after, tail = .tagged tag (commentAfterTag after) ∧ (∀ c ∈ tag, c ∈ t) ∧
      fitsLine after = true := by
  obtain ⟨gap, tag, rest, rfl, -, -, -, hfits, rfl⟩ := tagged?_eq_some_iff.mp h
  exact ⟨tag, _, rfl, fun c hc => by simp [hc], hfits⟩

/-- A tag ends at the first backquote. -/
theorem not_backquote_mem_tag {comment : Option Text} (h : tagged? t = some (.tagged tag comment)) :
    '`' ∉ tag := by
  obtain ⟨gap, tag', rest, -, -, -, htag, -, heq⟩ := tagged?_eq_some_iff.mp h
  rw [FieldTail.tagged.injEq] at heq
  rwa [heq.1]

/-- A comment behind a tag is one once the blanks at its end are gone. -/
theorem isComment_commentAfterTag {comment : Text} (hfits : fitsLine t = true)
    (h : commentAfterTag t = some comment) : IsComment (trim comment) := by
  rw [commentAfterTag] at h
  split at h
  · rename_i hstart
    cases h
    rw [Bool.or_eq_true, List.isPrefixOf_iff_prefix, List.isPrefixOf_iff_prefix] at hstart
    exact isComment_trim (hstart.imp (prefix_dropFinalNewline (by decide))
      (prefix_dropFinalNewline (by decide))) (not_mem_dropFinalNewline hfits)
  · cases h

/-- A tail read without a tag is one of these. -/
theorem untagged?_of_ofText? {comment : Option Text}
    (h : ofText? t = some (.untagged comment)) : untagged? t = some (.untagged comment) := by
  rw [ofText?] at h
  split at h
  · rename_i tail htail
    cases h
    obtain ⟨tag, after, htagged, -⟩ := exists_of_tagged? htail
    cases htagged
  · exact h

/-- A tail read with a tag is one with a tag. -/
theorem tagged?_of_ofText? {tag : Text} {comment : Option Text}
    (h : ofText? t = some (.tagged tag comment)) : tagged? t = some (.tagged tag comment) := by
  rw [ofText?] at h
  split at h
  · rename_i tail htail
    rwa [htail]
  · rcases exists_of_untagged? h with ⟨htail, -⟩ | ⟨_, _, _, htail, -⟩
    · cases htail
    · cases htail

theorem ofText?_of_tagged? {tail : FieldTail} (h : tagged? t = some tail) :
    ofText? t = some tail := by
  rw [ofText?, h]

/-- What starts neither a tag nor a comment is no tail. -/
theorem ofText?_eq_none {c : Char} (h : trimStart t = c :: rest) (hquote : c ≠ '`')
    (hslash : c ≠ '/') : ofText? t = none := by
  have htagged : tagged? t = none := by
    apply tagged?_eq_none
    rw [h, startsOutside_cons]
    exact beq_eq_false_iff_ne.mpr hquote
  have hstart : StartsOutside isBlank (c :: rest) := h ▸ startsOutside_trimStart t
  obtain ⟨more, hmore⟩ : ∃ more, trimEnd (c :: rest) = c :: more := by
    obtain ⟨gap, hsplit, -⟩ := exists_trimEnd_append (c :: rest)
    obtain ⟨d, more, hd⟩ := List.exists_cons_of_ne_nil (trimEnd_ne_nil hstart (by simp))
    rw [hd, List.cons_append, List.cons.injEq] at hsplit
    exact ⟨more, by rw [hd, hsplit.1]⟩
  rw [ofText?, htagged, untagged?, h, hmore]
  simp [List.isPrefixOf, Ne.symm hslash]

end FieldTail

/-! ## Whole lines -/

namespace FieldLine

/-- The parts of a line that can be told apart again: the name is a
word, the type is made of type characters, and the indent is blank. -/
structure WellFormed (l : FieldLine) : Prop where
  indent : ∀ c ∈ l.indent, isBlank c = true
  name_ne_nil : l.name ≠ []
  name : ∀ c ∈ l.name, isWord c = true
  type_ne_nil : l.type ≠ []
  type : ∀ c ∈ l.type, isStructTypeChar c = true

namespace WellFormed

variable {l : FieldLine} {t : Text}

theorem name_startsOutside (h : l.WellFormed) : StartsOutside isBlank (l.name ++ t) := by
  rw [startsOutside_append h.name_ne_nil]
  exact startsOutside_of_forall fun c hc => isBlank_of_isWord (h.name c hc)

theorem type_startsOutside (h : l.WellFormed) : StartsOutside isBlank (l.type ++ t) := by
  rw [startsOutside_append h.type_ne_nil]
  exact startsOutside_of_forall fun c hc => isBlank_of_isStructTypeChar (h.type c hc)

end WellFormed

/-- **A line is read as given parts iff it is these parts**, with blanks
between the name and the type and a tail that does not prolong the
type. -/
theorem ofLine?_eq_some_iff {line : Text} {l : FieldLine} :
    ofLine? line = some l ↔
      l.WellFormed ∧ ∃ gap rest, line = l.indent ++ (l.name ++ (gap ++ (l.type ++ rest))) ∧
        gap ≠ [] ∧ (∀ c ∈ gap, isBlank c = true) ∧ StartsOutside isStructTypeChar rest ∧
        FieldTail.ofText? rest = some l.tail := by
  constructor
  · intro h
    simp only [ofLine?, Option.bind_eq_bind, Option.bind_eq_some_iff, takeWord?] at h
    obtain ⟨⟨name, afterName⟩, hname, afterGap, hgap, ⟨type, rest⟩, htype, tail, htail, h⟩ := h
    cases h
    obtain ⟨hline, hne, hword, -⟩ := takeRun?_eq_some_iff.mp hname
    obtain ⟨gap, rfl, hgne, hblank, -⟩ := skipBlanks?_eq_some_iff.mp hgap
    obtain ⟨rfl, htne, hchars, hrest⟩ := takeRun?_eq_some_iff.mp htype
    refine ⟨⟨fun c hc => List.mem_takeWhile_imp hc, hne, hword, htne, hchars⟩,
      gap, rest, ?_, hgne, hblank, hrest, htail⟩
    show line = line.takeWhile isBlank ++ (name ++ (gap ++ (type ++ rest)))
    rw [← hline]
    exact List.takeWhile_append_dropWhile.symm
  · rintro ⟨hl, gap, rest, rfl, hgne, hblank, hrest, htail⟩
    obtain ⟨indent, name, type, tail⟩ := l
    have hstart : StartsOutside isBlank (name ++ (gap ++ (type ++ rest))) :=
      hl.name_startsOutside
    have hafter : StartsOutside isWord (gap ++ (type ++ rest)) := by
      rw [startsOutside_append hgne]
      exact startsOutside_of_forall fun c hc => isWord_of_isBlank (hblank c hc)
    have htrim : trimStart (indent ++ (name ++ (gap ++ (type ++ rest))))
        = name ++ (gap ++ (type ++ rest)) := by
      rw [trimStart_append hl.indent, trimStart_of_startsOutside hstart]
    have hindent : (indent ++ (name ++ (gap ++ (type ++ rest)))).takeWhile isBlank = indent :=
      takeWhile_append_rest hl.indent hstart
    rw [ofLine?, htrim, hindent, takeWord?, takeRun?_append hl.name_ne_nil hl.name hafter]
    simp only [Option.bind_eq_bind, Option.bind_some,
      skipBlanks?_append hgne hblank hl.type_startsOutside,
      takeRun?_append hl.type_ne_nil hl.type hrest, htail]
    rfl

/-- A line gives a field if the field is exported under a name that is no
dash. -/
theorem toField?_eq_some_iff {v : Vocabulary} {l : FieldLine} {f : Field} :
    l.toField? v = some f ↔ Name.isExported l.name = true ∧ l.serialised.name ≠ ['-'] ∧
      f = { name := l.name
            type := TypeExpr.ofStruct v l.type
            jsonName := l.serialised.name
            omittable := l.serialised.omittable
            comment := l.comment?.map trim } := by
  rw [toField?]
  constructor
  · intro h
    split at h
    · rename_i hkept
      rw [Bool.and_eq_true, bne_iff_ne] at hkept
      exact ⟨hkept.1, hkept.2, (Option.some.inj h).symm⟩
    · cases h
  · rintro ⟨hexported, hdash, rfl⟩
    rw [hexported, bne_iff_ne.mpr hdash]
    rfl

/-- An exported field under a name that is no dash is part of the
serialised form. -/
theorem toField?_of_serialised {v : Vocabulary} {l : FieldLine} {e : JsonEntry}
    (hexported : Name.isExported l.name = true) (he : l.serialised = e) (hdash : e.name ≠ ['-']) :
    l.toField? v = some
      { name := l.name
        type := TypeExpr.ofStruct v l.type
        jsonName := e.name
        omittable := e.omittable
        comment := l.comment?.map trim } := by
  subst he
  exact toField?_eq_some_iff.mpr ⟨hexported, hdash, rfl⟩

/-! ## Serialised names -/

section Serialised

variable {l : FieldLine}

theorem serialised_of_entry {e : JsonEntry} (h : l.entry? = some e) :
    l.serialised = if e.name = [] then ⟨l.name, e.omittable⟩ else e := by
  obtain ⟨name, omittable⟩ := e
  rw [serialised, h]
  cases name <;> rfl

theorem serialised_of_no_entry (h : l.entry? = none) :
    l.serialised = ⟨Name.camel l.name, false⟩ := by
  rw [serialised, h]

theorem serialised_of_untagged {comment : Option Text} (h : l.tail = .untagged comment) :
    l.serialised = ⟨Name.camel l.name, false⟩ :=
  serialised_of_no_entry (by unfold FieldLine.entry?; rw [h])

end Serialised

/-! ## What is read of a line -/

section Read

variable {line comment : Text} {l : FieldLine}

/-- The comment of a line without a tag is a line comment once the blanks
around it are gone. -/
theorem isLineComment_of_untagged (h : ofLine? line = some l)
    (htail : l.tail = .untagged (some comment)) : IsLineComment (trim comment) := by
  obtain ⟨-, gap, rest, -, -, -, -, hread⟩ := ofLine?_eq_some_iff.mp h
  rw [htail] at hread
  rcases FieldTail.exists_of_untagged? (FieldTail.untagged?_of_ofText? hread) with
    ⟨hnone, -⟩ | ⟨blanks, text, after, hsome, -, hblanks, htext, -⟩
  · cases hnone
  · cases hsome
    have htrim : trim (blanks ++ (text ++ [])) = text := htext.trim_append hblanks (by simp)
    rw [List.append_nil] at htrim
    rwa [htrim]

/-- The comment of a line is one once the blanks around it are gone. -/
theorem isComment_of_ofLine? (h : ofLine? line = some l) (hcomment : l.comment? = some comment) :
    IsComment (trim comment) := by
  obtain ⟨-, gap, rest, -, -, -, -, htail⟩ := ofLine?_eq_some_iff.mp h
  rw [comment?] at hcomment
  split at hcomment
  · rename_i tag found heq
    subst hcomment
    rw [heq] at htail
    obtain ⟨tag', after, htail', -, hfits⟩ :=
      FieldTail.exists_of_tagged? (FieldTail.tagged?_of_ofText? htail)
    rw [FieldTail.tagged.injEq] at htail'
    exact FieldTail.isComment_commentAfterTag hfits htail'.2.symm
  · rename_i found heq
    subst hcomment
    exact (isLineComment_of_untagged h heq).isComment

/-- The tag of a line stands on it. -/
theorem mem_of_tail_eq {tag : Text} {comment : Option Text} (h : ofLine? line = some l)
    (htail : l.tail = .tagged tag comment) : ∀ c ∈ tag, c ∈ line := by
  obtain ⟨-, gap, rest, hline, -, -, -, hread⟩ := ofLine?_eq_some_iff.mp h
  rw [htail] at hread
  obtain ⟨tag', after, htail', hmem, -⟩ :=
    FieldTail.exists_of_tagged? (FieldTail.tagged?_of_ofText? hread)
  rw [FieldTail.tagged.injEq] at htail'
  rw [htail'.1, hline]
  intro c hc
  simp [hmem c hc]

/-- Where a serialised name may get a character from: it is the field's
own, that of the entry in the tag, or the camel form. -/
theorem not_mem_serialised {c : Char} (h : ofLine? line = some l)
    (hinert : isInertChar c = false)
    (htag : ∀ tag comment, l.tail = .tagged tag comment → c ∉ tag) : c ∉ l.serialised.name := by
  obtain ⟨hl, -⟩ := ofLine?_eq_some_iff.mp h
  rw [serialised]
  split
  · exact fun hmem => ne_of_class (isInertChar_of_isWord (hl.name c hmem)) hinert rfl
  · rename_i entry hnamed hentry
    rw [FieldLine.entry?] at hentry
    split at hentry
    · rename_i tag comment htail
      exact fun hmem => htag tag comment htail (JsonEntry.mem_of_ofTag? hentry c hmem)
    · cases hentry
  · exact not_mem_of_class (Name.isInertChar_of_mem_camel hl.name) hinert

/-- A serialised name is there and stays on the line. -/
theorem serialised_spec (h : ofLine? line = some l) (hline : '\n' ∉ line) :
    l.serialised.name ≠ [] ∧ '\n' ∉ l.serialised.name := by
  obtain ⟨hl, -⟩ := ofLine?_eq_some_iff.mp h
  refine ⟨?_, not_mem_serialised h (by decide) fun tag comment htail hmem =>
    hline (mem_of_tail_eq h htail _ hmem)⟩
  rw [serialised]
  split
  · exact hl.name_ne_nil
  · rename_i entry hnamed hentry
    intro hnil
    refine hnamed entry.omittable ?_
    rw [← hnil]
  · exact Name.camel_ne_nil hl.name_ne_nil

/-- A serialised name can be put between backquotes. -/
theorem not_backquote_mem_serialised (h : ofLine? line = some l) : '`' ∉ l.serialised.name := by
  refine not_mem_serialised h (by decide) fun tag comment htail => ?_
  obtain ⟨-, gap, rest, -, -, -, -, hread⟩ := ofLine?_eq_some_iff.mp h
  rw [htail] at hread
  exact FieldTail.not_backquote_mem_tag (FieldTail.tagged?_of_ofText? hread)

end Read

end FieldLine

end WireTypes
