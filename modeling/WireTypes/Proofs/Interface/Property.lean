import WireTypes.Proofs.Text.Comment
import WireTypes.Interface.Property

/-!
# Interface — The parts of a property line

The name at the start of a property may be any word: `readonly` is passed
over only when blanks and another word follow it (`name?_append`). What ends
the line is nothing or a line comment, and no block comment
(`tail_blockComment`). In the other direction, the name of every property
that is read is a word, and its comment is a line comment
(`word_of_ofLine?`, `isLineComment_of_ofLine?`).
-/

namespace WireTypes.Property

open Text

variable {name type rest comment : Text}

/-- A class without the semicolon and the slash is one of type
characters. -/
theorem isTypeChar_of_class {q : Char → Bool} {c : Char} (hc : q c = true)
    (hsemicolon : q ';' = false) (hslash : q '/' = false) : isTypeChar c = true := by
  rw [isTypeChar, bne_iff_ne.mpr (ne_of_class hc hsemicolon),
    bne_iff_ne.mpr (ne_of_class hc hslash)]
  rfl

theorem isTypeChar_of_isStructTypeChar {c : Char} (h : isStructTypeChar c = true) :
    isTypeChar c = true := isTypeChar_of_class h (by decide) (by decide)

theorem isTypeChar_of_isBlank {c : Char} (h : isBlank c = true) : isTypeChar c = true :=
  isTypeChar_of_class h (by decide) (by decide)

/-- Without a word behind the blanks there is no name behind a keyword. -/
theorem skipBlanks?_bind_takeWord? (h : StartsOutside isWord (trimStart rest)) :
    (skipBlanks? rest).bind takeWord? = none := by
  rw [skipBlanks?]
  split
  · exact takeRun?_of_startsOutside h
  · rfl

/-- A word that no word character follows is the name, neither directly nor
behind blanks, even one that starts like `readonly`. -/
theorem name?_append (hne : name ≠ []) (hname : ∀ c ∈ name, isWord c = true)
    (hword : StartsOutside isWord rest) (hbehind : StartsOutside isWord (trimStart rest)) :
    name? (name ++ rest) = some (name, rest) := by
  have htake : takeWord? (name ++ rest) = some (name, rest) := takeRun?_append hne hname hword
  rw [name?]
  split
  · exact htake
  · rename_i after hprefix
    have hnone : (skipBlanks? after).bind takeWord? = none := by
      rcases List.append_eq_append_iff.mp (List.isPrefixOf?_eq_some_iff_append_eq.mp hprefix) with
        ⟨more, hsplit, rfl⟩ | ⟨more, hsplit, hrest⟩
      · -- the name starts with the keyword
        cases more with
        | nil => exact skipBlanks?_bind_takeWord? hbehind
        | cons c more =>
            rw [skipBlanks?_of_startsOutside, Option.bind_none]
            rw [List.cons_append, startsOutside_cons]
            exact isBlank_of_isWord (hname c (by rw [hsplit]; simp))
      · -- the keyword is the whole name: it cannot run into what follows
        cases more with
        | nil =>
            rw [hrest, List.nil_append] at hbehind
            exact skipBlanks?_bind_takeWord? hbehind
        | cons c more =>
            have hkeyword : ∀ d ∈ "readonly".toList, isWord d = true :=
              List.all_eq_true.mp (by decide)
            have hc : isWord c = true := hkeyword c (by rw [hsplit]; simp)
            rw [hrest, List.cons_append, startsOutside_cons, hc] at hword
            exact absurd hword (by decide)
    rw [hnone]
    exact htake

/-! ## Type and tail -/

theorem tail_nothing : Tail.ofText? (trimStart []) = some .nothing := rfl

theorem tail_comment (h : IsLineComment comment) :
    Tail.ofText? (trimStart (' ' :: comment)) = some (.comment comment) := by
  have htrim : trimStart (' ' :: comment) = comment :=
    trimStart_space (h.startsOutside_self (by decide))
  have hprefix : "//".toList.isPrefixOf comment = true :=
    List.isPrefixOf_iff_prefix.mpr h.start
  obtain ⟨more, rfl⟩ := h.exists_eq
  rw [htrim, Tail.ofText?, hprefix, fitsLine_of_not_mem h.oneLine,
    dropFinalNewline_of_not_mem h.oneLine]
  · rfl
  · simp

/-- A block comment is no tail of a property. -/
theorem tail_blockComment (hstart : "/*".toList <+: comment) :
    Tail.ofText? (trimStart (' ' :: comment)) = none := by
  obtain ⟨more, rfl⟩ := hstart
  rfl

/-! ## What is read of a line -/

variable {line t : Text} {p : Property}

theorem word_of_name? {after : Text} (h : name? t = some (name, after)) :
    name ≠ [] ∧ ∀ c ∈ name, isWord c = true := by
  rw [name?] at h
  split at h
  · exact word_of_takeWord? h
  · split at h
    · rename_i hfound
      cases h
      obtain ⟨u, -, hu⟩ := Option.bind_eq_some_iff.mp hfound
      exact word_of_takeWord? hu
    · exact word_of_takeWord? h

theorem exists_of_typeAndTail? {tail : Tail} (h : typeAndTail? t = some (type, tail)) :
    ∃ u, Tail.ofText? u = some tail := by
  rw [typeAndTail?] at h
  split at h
  · obtain ⟨tail', htail, heq⟩ := Option.bind_eq_some_iff.mp h
    cases heq
    exact ⟨_, htail⟩
  · obtain ⟨tail', htail, heq⟩ := Option.bind_eq_some_iff.mp h
    cases heq
    exact ⟨_, htail⟩

/-- The name and the comment of a property were read as such. -/
theorem exists_of_ofLine? (h : ofLine? line = some p) :
    (∃ t after, name? t = some (p.name, after)) ∧
      ∃ t tail, Tail.ofText? t = some tail ∧ p.comment = tail.comment? := by
  simp only [ofLine?, Option.bind_eq_bind, Option.bind_eq_some_iff] at h
  obtain ⟨⟨name, after⟩, hname, afterColon, -, ⟨type, tail⟩, htype, h⟩ := h
  obtain ⟨t, htail⟩ := exists_of_typeAndTail? htype
  split at h
  · split at h
    · cases h
      exact ⟨⟨_, after, hname⟩, t, tail, htail, rfl⟩
    · cases h
  · cases h
    exact ⟨⟨_, after, hname⟩, t, tail, htail, rfl⟩

theorem word_of_ofLine? (h : ofLine? line = some p) :
    p.name ≠ [] ∧ ∀ c ∈ p.name, isWord c = true := by
  obtain ⟨⟨_, _, hname⟩, -⟩ := exists_of_ofLine? h
  exact word_of_name? hname

/-- The comment of a property is a line comment between blanks. -/
theorem isLineComment_of_ofLine? (h : ofLine? line = some p) (hcomment : p.comment = some comment) :
    IsLineComment (trim comment) := by
  obtain ⟨-, t, tail, htail, heq⟩ := exists_of_ofLine? h
  rw [heq] at hcomment
  rw [Tail.ofText?.eq_def] at htail
  split at htail
  · cases htail
    cases hcomment
  · split at htail
    · rename_i hread
      cases htail
      cases hcomment
      rw [Bool.and_eq_true, List.isPrefixOf_iff_prefix] at hread
      exact isLineComment_trim (prefix_dropFinalNewline (by decide) hread.1)
        (not_mem_dropFinalNewline hread.2)
    · cases htail

end WireTypes.Property
