import WireTypes.Proofs.Conversion.ToInterface
import WireTypes.Proofs.Conversion.ToStruct
import WireTypes.Proofs.Declaration.LineEnds
import WireTypes.Proofs.TypeExpr.Settling

/-!
# Conversion — Properties of any type

The type of a property is whatever stands between its colon and the end,
and a struct is written for it all the same. Its members stay on their
lines (`not_newline_mem`, `endsOutside`). When the type holds none of the
marks that end a type on a line, such a line is read as it was written or
not at all (`fitsStruct_of_structField?`): a type that a struct cannot
have keeps it from being read. Interfaces that were written for a struct
declare only such types (`plainMarks_of_interfaceField?`).
-/

namespace WireTypes

open Text

namespace Property

variable {t u rest name type : Text} {optional : Bool} {p : Property} {line : Text}

/-! ## The type of a property on its line -/

theorem mem_of_mem_dropComma {c : Char} (h : c ∈ dropComma t) : c ∈ t := by
  rw [dropComma] at h
  split at h
  · rename_i d more heq
    have hmem := mem_of_mem_trimEnd h
    rw [List.mem_reverse] at hmem
    rw [← List.mem_reverse, heq]
    exact List.mem_cons_of_mem _ hmem
  · exact h

theorem mem_of_typeAndTail? {tail : Tail} (h : typeAndTail? t = some (type, tail)) :
    ∀ c ∈ type, c ∈ t.takeWhile isTypeChar := by
  rw [typeAndTail?] at h
  split at h
  · obtain ⟨found, -, heq⟩ := Option.bind_eq_some_iff.mp h
    cases heq
    exact fun c hc => mem_of_mem_trimEnd hc
  · obtain ⟨found, -, heq⟩ := Option.bind_eq_some_iff.mp h
    cases heq
    exact fun c hc => mem_of_mem_trimEnd (mem_of_mem_dropComma hc)

/-- The type stands behind the colon, up to the first mark that ends it;
only a space may stand in for it. -/
theorem mem_of_ofHead? (h : ofHead? (name, optional, t) = some p) :
    ∀ c ∈ p.type, c = ' ' ∨ c ∈ (trimStart t).takeWhile isTypeChar := by
  simp only [ofHead?, Option.bind_eq_bind, Option.bind_eq_some_iff] at h
  obtain ⟨⟨type, tail⟩, htype, h⟩ := h
  split at h
  · split at h
    · cases h
      exact fun c hc => Or.inl (List.mem_singleton.mp hc)
    · cases h
  · cases h
    exact fun c hc => Or.inr (mem_of_typeAndTail? htype c hc)

/-- Nothing behind a semicolon belongs to the type. -/
theorem mem_of_mem_takeWhile_isTypeChar {c : Char}
    (h : c ∈ (trimStart (u ++ ';' :: rest)).takeWhile isTypeChar) : c ∈ u := by
  have htrim : trimStart (u ++ ';' :: rest) = trimStart u ++ ';' :: rest :=
    dropWhile_append_of_startsOutside (startsOutside_cons.mpr (by decide)) u
  rw [htrim, takeWhile_append_of_startsOutside (startsOutside_cons.mpr (by decide))] at h
  exact List.dropWhile_subset _ (List.takeWhile_subset _ h)

/-- **On a line with a colon and a semicolon behind it, the type stands
before the semicolon.** -/
theorem mem_type_of_ofLine? {before : Text}
    (h : ofLine? (before ++ ':' :: (u ++ ';' :: rest)) = some p) :
    ∀ c ∈ p.type, c = ' ' ∨ (c ∈ before ++ ':' :: u ∧ isTypeChar c = true) := by
  rw [ofLine?_eq_bind] at h
  obtain ⟨⟨name, optional, afterColon⟩, hhead, hp⟩ := Option.bind_eq_some_iff.mp h
  obtain ⟨front, hline, hcolon⟩ := exists_of_head? hhead
  -- the line is cut at its first colon, which is this one or one before it
  obtain ⟨piece, hpiece, hmem⟩ : ∃ piece, afterColon = piece ++ ';' :: rest ∧
      ∀ c ∈ piece, c ∈ before ++ ':' :: u := by
    rcases List.append_eq_append_iff.mp hline with ⟨more, hfront, hmore⟩ | ⟨more, hbefore, hmore⟩
    · cases more with
      | nil =>
          obtain ⟨-, rfl⟩ := List.cons.inj hmore
          exact ⟨u, rfl, fun c hc => by simp [hc]⟩
      | cons d more =>
          obtain ⟨rfl, -⟩ := List.cons.inj hmore
          exact absurd (by rw [hfront]; simp) hcolon
    · cases more with
      | nil =>
          obtain ⟨-, rfl⟩ := List.cons.inj hmore
          exact ⟨u, rfl, fun c hc => by simp [hc]⟩
      | cons d more =>
          obtain ⟨rfl, rfl⟩ := List.cons.inj hmore
          refine ⟨more ++ ':' :: u, by simp, fun c hc => ?_⟩
          rw [hbefore]
          simp only [List.mem_append, List.mem_cons] at hc ⊢
          rcases hc with hc | hc
          · exact Or.inl (Or.inr (Or.inr hc))
          · exact Or.inr hc
  intro c hc
  rcases mem_of_ofHead? hp c hc with hspace | htaken
  · exact Or.inl hspace
  · refine Or.inr ⟨?_, List.mem_takeWhile_imp htaken⟩
    rw [hpiece] at htaken
    exact hmem c (mem_of_mem_takeWhile_isTypeChar htaken)

/-- The type of a property stands on its line. -/
theorem mem_line_of_mem_type (h : ofLine? line = some p) : ∀ c ∈ p.type, c = ' ' ∨ c ∈ line := by
  rw [ofLine?_eq_bind] at h
  obtain ⟨⟨name, optional, afterColon⟩, hhead, hp⟩ := Option.bind_eq_some_iff.mp h
  intro c hc
  rcases mem_of_ofHead? hp c hc with hspace | htaken
  · exact Or.inl hspace
  · exact Or.inr (mem_of_head? hhead c
      (List.dropWhile_subset _ (List.takeWhile_subset _ htaken)))

end Property

namespace Conversion

open Emission TypeExpr

variable {line : Text} {f f' : Field}

/-! ## Members of a struct for any property -/

/-- A field as it is read from a line of an interface: its name is a word
and its comment a line comment, but its type may be anything that stands
between blanks on a line. -/
structure IsProperty (f : Field) : Prop where
  key_ne_nil : f.jsonName ≠ []
  key_word : ∀ c ∈ f.jsonName, isWord c = true
  comment : ∀ c ∈ f.comment, IsLineComment c
  type_ne_nil : f.type.toStruct .default ≠ []
  type_starts : StartsOutside isBlank (f.type.toStruct .default)
  type_ends : EndsOutside isBlank (f.type.toStruct .default)
  type_oneLine : '\n' ∉ f.type.toStruct .default

theorem isProperty_of_interfaceField? (hline : '\n' ∉ line)
    (h : interfaceField? .default line = some f) : IsProperty f := by
  obtain ⟨p, hp, rfl⟩ := Option.map_eq_some_iff.mp h
  obtain ⟨hne, hword⟩ := Property.word_of_ofLine? hp
  have hwritten := written_toType p.optional p.type
  constructor
  case key_ne_nil => exact hne
  case key_word => exact hword
  case comment =>
    intro comment hcomment
    obtain ⟨raw, hraw, rfl⟩ := Option.map_eq_some_iff.mp (Option.mem_def.mp hcomment)
    exact Property.isLineComment_of_ofLine? hp hraw
  case type_ne_nil => exact hwritten.ne_nil
  case type_starts => exact hwritten.starts
  case type_ends => exact hwritten.ends
  case type_oneLine =>
    intro hmem
    rcases hwritten.mem _ hmem with htype | hchar
    · rcases Property.mem_line_of_mem_type hp _ htype with hspace | hmem
      · exact absurd hspace (by decide)
      · exact hline hmem
    · exact absurd hchar (by decide)

namespace IsProperty

variable (h : IsProperty f)

include h

theorem isComment : ∀ c ∈ f.comment, IsComment c := fun c hc => (h.comment c hc).isComment

theorem not_newline_mem : '\n' ∉ memberLine .default .struct f :=
  not_newline_mem_structLine (not_mem_of_class h.key_word (by decide))
    (not_mem_of_class (Name.isInertChar_of_mem_pascal h.key_word) (by decide)) h.type_oneLine
    h.isComment

theorem endsOutside : EndsOutside isBlank (memberLine .default .struct f) :=
  endsOutside_structLine h.isComment

/-- A type of type characters is all that is missing. -/
theorem fitsStruct (hchars : ∀ c ∈ f.type.toStruct .default, isStructTypeChar c = true) :
    FitsStruct .default f where
  key_ne_nil := h.key_ne_nil
  key := fun c hc => isKeyChar_of_isWord (h.key_word c hc)
  name_oneLine := not_mem_of_class (Name.isInertChar_of_mem_pascal h.key_word) (by decide)
  type_ne_nil := h.type_ne_nil
  type := hchars
  comment := h.isComment

/-- **A line that gives a field has a type of a struct on it**, unless
the type holds a mark that ends a type. -/
theorem fitsStruct_of_structField? (hquote : '`' ∉ f.type.toStruct .default)
    (hslash : '/' ∉ f.type.toStruct .default)
    (hread : structField? .default (memberLine .default .struct f) = some f') :
    FitsStruct .default f := by
  obtain ⟨l, hl, -⟩ := Option.bind_eq_some_iff.mp hread
  have hname := name_of_ofLine?_memberLine h.key_ne_nil h.key_word hl
  obtain ⟨hwell, gap, rest, hline, hgap, hblank, hrest, htail⟩ :=
    FieldLine.ofLine?_eq_some_iff.mp hl
  rw [memberLine_struct_eq] at hline
  obtain ⟨after, hafter⟩ : ∃ after,
      after = '`' :: (tagOf f ++ '`' :: commentSuffix f.comment) := ⟨_, rfl⟩
  rw [← hafter] at hline
  -- behind the name, what was written and what is read are the same text
  have hpascal : StartsOutside isBlank (Name.pascal f.jsonName ++
      ([' '] ++ (f.type.toStruct .default ++ ([' '] ++ after)))) :=
    (startsOutside_append (Name.pascal_ne_nil h.key_ne_nil)).mpr
      (startsOutside_of_forall fun c hc => isBlank_of_isKeyChar (isKeyChar_of_isInertChar
        (Name.isInertChar_of_mem_pascal h.key_word c hc)))
  have hparts : f.type.toStruct .default ++ ([' '] ++ after) = l.type ++ rest := by
    have htab : ∀ c ∈ "\t".toList, isBlank c = true := List.all_eq_true.mp (by decide)
    have htrim := congrArg trimStart hline
    rw [trimStart_append htab, trimStart_of_startsOutside hpascal, trimStart_append hwell.indent,
      trimStart_of_startsOutside hwell.name_startsOutside, hname] at htrim
    have hbehind := congrArg trimStart (List.append_cancel_left htrim)
    rwa [trimStart_append (by simp [isBlank_space]), trimStart_append hblank,
      trimStart_of_startsOutside hwell.type_startsOutside,
      trimStart_of_startsOutside ((startsOutside_append h.type_ne_nil).mpr h.type_starts)]
      at hbehind
  refine h.fitsStruct ?_
  rcases List.append_eq_append_iff.mp hparts with ⟨more, hmore, -⟩ | ⟨more, hmore, hstop⟩
  · intro c hc
    refine hwell.type c ?_
    rw [hmore]
    exact List.mem_append_left _ hc
  · -- the type would go on behind what is read of it, and what follows is no tail
    by_cases hnil : more = []
    · rw [hmore, hnil, List.append_nil]
      exact hwell.type
    · have hends : EndsOutside isBlank more := by
        have hends := h.type_ends
        rwa [hmore, endsOutside_append hnil] at hends
      obtain ⟨d, hd⟩ := Option.isSome_iff_exists.mp (List.getLast?_isSome.mpr hnil)
      have htrim : trimStart more ≠ [] :=
        trimStart_ne_nil (List.mem_of_getLast? hd) (hends d hd)
      obtain ⟨c, tail, hc⟩ := List.exists_cons_of_ne_nil htrim
      have hmem : c ∈ f.type.toStruct .default := by
        rw [hmore]
        exact List.mem_append_right _ (List.dropWhile_subset _ (by rw [← trimStart, hc]; simp))
      have hrestTrim : trimStart rest = c :: (tail ++ ([' '] ++ after)) := by
        rw [hstop, trimStart_append_of_ne_nil _ htrim, hc]
        rfl
      have hnone : FieldTail.ofText? rest = none :=
        FieldTail.ofText?_eq_none hrestTrim (fun hc => hquote (hc ▸ hmem))
          fun hc => hslash (hc ▸ hmem)
      rw [hnone] at htail
      cases htail

end IsProperty

/-! ## Properties of an emitted interface -/

theorem not_backquote_mem_interfaceTypeText (h : structField? .default line = some f) :
    '`' ∉ interfaceTypeText .default f := by
  obtain ⟨l, hl, hf⟩ := Option.bind_eq_some_iff.mp h
  obtain ⟨-, -, rfl⟩ := FieldLine.toField?_eq_some_iff.mp hf
  obtain ⟨hwell, -⟩ := FieldLine.ofLine?_eq_some_iff.mp hl
  rw [interfaceTypeText_eq, List.mem_append, not_or]
  refine ⟨not_mem_of_class (toInterface_ofStruct hwell.type).2 (by decide), ?_⟩
  split <;> decide

/-- **The properties of the interface of a struct have no marks in their
types** that would end them on a line of a struct. -/
theorem plainMarks_of_interfaceField? (h : structField? .default line = some f)
    (hread : interfaceField? .default (memberLine .default .interface f) = some f') :
    '`' ∉ f'.type.toStruct .default ∧ '/' ∉ f'.type.toStruct .default := by
  obtain ⟨p, hp, rfl⟩ := Option.map_eq_some_iff.mp hread
  have hwritten := written_toType p.optional p.type
  -- the type stands on the line before the semicolon, and so among the name and the type there
  have hshape : memberLine .default .interface f
      = ("  ".toList ++ (f.jsonName ++ if f.omittable then ['?'] else [])) ++
        ':' :: ((' ' :: interfaceTypeText .default f) ++ ';' :: commentSuffix f.comment) := by
    rw [memberLine]
    simp only [List.append_assoc]
    rfl
  rw [hshape] at hp
  have hmem := Property.mem_type_of_ofLine? hp
  constructor
  · intro hquote
    rcases hwritten.mem _ hquote with htype | hchar
    · rcases hmem _ htype with hspace | ⟨hparts, -⟩
      · exact absurd hspace (by decide)
      · obtain ⟨l, hl, hf⟩ := Option.bind_eq_some_iff.mp h
        have htext := not_backquote_mem_interfaceTypeText h
        have hname : '`' ∉ f.jsonName := by
          obtain ⟨-, -, rfl⟩ := FieldLine.toField?_eq_some_iff.mp hf
          exact FieldLine.not_backquote_mem_serialised hl
        have hmark : '`' ∉ (if f.omittable then ['?'] else []) := by
          split <;> decide
        simp only [List.mem_append, List.mem_cons, hname, hmark, htext] at hparts
        exact absurd hparts (by decide)
    · exact absurd hchar (by decide)
  · intro hslash
    rcases hwritten.mem _ hslash with htype | hchar
    · rcases hmem _ htype with hspace | ⟨-, hclass⟩
      · exact absurd hspace (by decide)
      · exact absurd hclass (by decide)
    · exact absurd hchar (by decide)

end Conversion

end WireTypes
