import WireTypes.Proofs.Json.Strings
import WireTypes.Proofs.Table.Merging

/-!
# JSON — An indented value is read back

A value that is written over several lines, with every item and member on a
line of its own, is read back as it was (`ofText_indented`). The values are
those of `Storable`: no floating-point numbers, no whole number that the
reader would refuse, and objects with distinct keys.

Each part is read back with anything behind it that does not go on with a
number, and with fuel for each of its characters; a list is read item by
item, an object member by member.
-/

namespace WireTypes.Json

open Text

variable {j : Json} {c : Char} {t rest gap : Text} {level fuel : Nat} {items : List Json}
  {members : Table Json}

/-- The values that stay as they are when they are written and read. -/
inductive Storable : Json → Prop where
  | null : Storable .null
  | bool (b : Bool) : Storable (.bool b)
  | whole {n : Int} (short : (Text.ofNat n.natAbs).length ≤ maxWholeDigits) : Storable (.whole n)
  | string (t : Text) : Storable (.string t)
  | list {items : List Json} (each : ∀ item ∈ items, Storable item) : Storable (.list items)
  | object {members : Table Json} (distinct : members.keys.Nodup)
      (each : ∀ member ∈ members, Storable member.2) : Storable (.object members)

/-! ## The first character -/

/-- A character that a value starts with. -/
def isValueStart (c : Char) : Bool :=
  c == 'n' || c == 't' || c == 'f' || c == '"' || c == '[' || c == '\x7b' || c == '-' ||
    isAsciiDigit c

theorem isValueStart_of_isAsciiDigit (h : isAsciiDigit c = true) : isValueStart c = true := by
  simp [isValueStart, h]

/-- No value starts with a blank. -/
theorem isSpace_of_isValueStart (h : isValueStart c = true) : isSpace c = false := by
  cases hspace : isSpace c with
  | false => rfl
  | true =>
      simp only [isSpace, Bool.or_eq_true, beq_iff_eq] at hspace
      rcases hspace with ((rfl | rfl) | rfl) | rfl <;> exact absurd h (by decide)

theorem exists_writeWhole_eq (n : Int) : ∃ c t, writeWhole n = c :: t ∧
    (isAsciiDigit c = true ∨ c = '-' ∧ ∃ d digits, t = d :: digits ∧ isAsciiDigit d = true) := by
  obtain ⟨d, digits, hdigits⟩ := List.exists_cons_of_ne_nil (ofNat_ne_nil n.natAbs)
  have hd : isAsciiDigit d = true := isAsciiDigit_of_mem_ofNat (n := n.natAbs) (by simp [hdigits])
  rw [writeWhole, hdigits]
  split
  · exact ⟨'-', d :: digits, rfl, Or.inr ⟨rfl, d, digits, rfl, hd⟩⟩
  · exact ⟨d, digits, rfl, Or.inl hd⟩

theorem exists_enclose_eq (left right : Char) (level : Nat) (entries : List Text) :
    ∃ t, enclose left right level entries = left :: t := by
  rw [enclose]
  split
  · exact ⟨_, rfl⟩
  · exact ⟨_, rfl⟩

theorem Storable.exists_indented_eq (h : Storable j) (level : Nat) :
    ∃ c t, indented level j = c :: t ∧ isValueStart c = true := by
  cases h with
  | null => exact ⟨_, _, rfl, rfl⟩
  | bool b => cases b <;> exact ⟨_, _, rfl, rfl⟩
  | whole short =>
      rename_i n
      obtain ⟨c, t, hwritten, hc | ⟨rfl, -⟩⟩ := exists_writeWhole_eq n
      · exact ⟨c, t, hwritten, isValueStart_of_isAsciiDigit hc⟩
      · exact ⟨_, _, hwritten, rfl⟩
  | string t => exact ⟨_, _, rfl, rfl⟩
  | list each =>
      obtain ⟨t, ht⟩ := exists_enclose_eq '[' ']' level (indentedItems (level + 1) _)
      exact ⟨_, t, ht, rfl⟩
  | object distinct each =>
      obtain ⟨t, ht⟩ := exists_enclose_eq '\x7b' '\x7d' level (indentedMembers (level + 1) _)
      exact ⟨_, t, ht, rfl⟩

/-! ## Blanks -/

theorem isSpace_of_mem_newline (h : c ∈ newline level) : isSpace c = true := by
  rcases List.mem_cons.mp h with rfl | hspace
  · rfl
  · rw [List.eq_of_mem_replicate hspace]
    rfl

theorem skipSpace_cons (hc : isSpace c = false) : skipSpace (c :: rest) = c :: rest :=
  dropWhile_of_startsOutside (startsOutside_cons.mpr hc)

theorem skipSpace_newline_append (level : Nat) (hc : isSpace c = false) :
    skipSpace (newline level ++ c :: rest) = c :: rest :=
  dropWhile_append_rest (fun _ hd => isSpace_of_mem_newline hd) (by simpa using hc)

theorem startsOutside_newline_append : StartsOutside isNumberChar (newline level ++ rest) := by
  rw [newline, List.cons_append]
  exact startsOutside_cons.mpr rfl

/-! ## Scalars -/

theorem readValue_scalar (h : ∀ c ∈ t.head?, c ≠ '"' ∧ c ≠ '[' ∧ c ≠ '\x7b') :
    readValue (fuel + 1) t = (readWord? t).elim (readNumber t) .ok := by
  rw [readValue]
  · cases readWord? t <;> rfl
  · rintro _ rfl
    simp at h
  · rintro _ rfl
    simp at h
  · rintro _ rfl
    simp at h

/-- No word is a number. -/
theorem readWord?_writeWhole (n : Int) (rest : Text) :
    readWord? (writeWhole n ++ rest) = none := by
  obtain ⟨c, t, hwritten, hc | ⟨rfl, d, digits, rfl, hd⟩⟩ := exists_writeWhole_eq n
  · have hne : ∀ letter, isAsciiDigit letter = false → letter ≠ c :=
      fun _ hletter => (ne_of_class hc hletter).symm
    rw [hwritten]
    simp [readWord?, words, List.isPrefixOf?, hne 'n' rfl, hne 't' rfl, hne 'f' rfl, hne 'N' rfl,
      hne 'I' rfl, hne '-' rfl]
  · have hd' : 'I' ≠ d := (ne_of_class hd rfl).symm
    rw [hwritten]
    simp [readWord?, words, List.isPrefixOf?, hd']

/-- What is written for a value is read back, with enough fuel and with
nothing behind it that goes on with a number. -/
def ReadsBack (j : Json) : Prop :=
  ∀ level fuel rest, StartsOutside isNumberChar rest → (indented level j).length ≤ fuel →
    readValue (fuel + 1) (indented level j ++ rest) = .ok (j, rest)

theorem readsBack_null : ReadsBack .null := fun _ _ _ _ _ => rfl

theorem readsBack_bool (b : Bool) : ReadsBack (.bool b) := by
  intro level fuel rest _ _
  cases b <;> rfl

theorem readsBack_whole {n : Int} (hshort : (Text.ofNat n.natAbs).length ≤ maxWholeDigits) :
    ReadsBack (.whole n) := by
  intro level fuel rest hrest _
  have hplain : ∀ d ∈ (writeWhole n ++ rest).head?, d ≠ '"' ∧ d ≠ '[' ∧ d ≠ '\x7b' := by
    obtain ⟨c, t, hwritten, hc⟩ := exists_writeWhole_eq n
    rw [hwritten]
    intro d hd
    obtain rfl : c = d := Option.some.inj hd
    rcases hc with hc | ⟨rfl, -⟩
    · exact ⟨ne_of_class hc rfl, ne_of_class hc rfl, ne_of_class hc rfl⟩
    · decide
  rw [indented, readValue_scalar hplain, readWord?_writeWhole]
  exact readNumber_writeWhole hshort hrest

theorem readsBack_string (t : Text) : ReadsBack (.string t) := by
  intro level fuel rest _ _
  rw [indented, writeString, List.append_assoc, List.singleton_append, List.cons_append,
    readValue, readString_writeString]
  rfl

/-! ## Lists -/

theorem indentedItems_eq_map (level : Nat) (items : List Json) :
    indentedItems level items = items.map (indented level) := by
  induction items with
  | nil => rfl
  | cons item items ih => rw [indentedItems, ih, List.map_cons]

/-- The entries between brackets, up to the closing one. -/
def entriesText (level : Nat) (entries : List Text) : Text :=
  List.intercalate (',' :: newline (level + 1)) entries

theorem entriesText_singleton (level : Nat) (e : Text) : entriesText level [e] = e := by
  simp [entriesText, List.intercalate]

theorem entriesText_cons_cons (level : Nat) (e e' : Text) (entries : List Text) :
    entriesText level (e :: e' :: entries)
      = e ++ (',' :: (newline (level + 1) ++ entriesText level (e' :: entries))) := by
  simp [entriesText, List.intercalate, List.intersperse]

/-- The entries start as the first of them. -/
theorem exists_entriesText_eq (level : Nat) (entries : List Text) :
    ∃ t', entriesText level ((c :: t) :: entries) = c :: t' := by
  cases entries with
  | nil => exact ⟨t, entriesText_singleton level _⟩
  | cons e entries => exact ⟨_, entriesText_cons_cons level (c :: t) e entries⟩

/-- What is behind a bracket or a comma starts with the next entry. -/
theorem skipSpace_newline_entriesText (level : Nat) (entries : List Text) (rest : Text) {e : Text}
    (hstart : ∃ c t, e = c :: t ∧ isValueStart c = true) :
    skipSpace (newline (level + 1) ++ (entriesText level (e :: entries) ++ rest))
      = entriesText level (e :: entries) ++ rest := by
  obtain ⟨c, t, rfl, hc⟩ := hstart
  obtain ⟨t', ht'⟩ := exists_entriesText_eq (c := c) (t := t) level entries
  rw [ht', List.cons_append]
  exact skipSpace_newline_append (level + 1) (isSpace_of_isValueStart hc)

/-- No entry is taken for a closing bracket. -/
theorem entriesText_append_ne {right : Char} (hright : isValueStart right = false) (level : Nat)
    (entries : List Text) (rest behind : Text) {e : Text}
    (hstart : ∃ c t, e = c :: t ∧ isValueStart c = true) :
    entriesText level (e :: entries) ++ rest ≠ right :: behind := by
  obtain ⟨c, t, rfl, hc⟩ := hstart
  obtain ⟨t', ht'⟩ := exists_entriesText_eq (c := c) (t := t) level entries
  rw [ht', List.cons_append]
  exact fun heq => ne_of_class hc hright (List.cons.inj heq).1

theorem enclose_of_ne_nil {left right : Char} {entries : List Text} (h : entries ≠ []) :
    enclose left right level entries ++ rest
      = left :: (newline (level + 1) ++
          (entriesText level entries ++ (newline level ++ right :: rest))) := by
  rw [enclose, if_neg (by simpa using h), entriesText]
  simp

theorem length_newline (level : Nat) : (newline level).length = 2 * level + 1 := by
  simp [newline]

theorem length_enclose {left right : Char} {entries : List Text} (h : entries ≠ []) :
    (enclose left right level entries).length
      = (entriesText level entries).length + 4 * level + 6 := by
  have heq : enclose left right level entries ++ [] = _ := enclose_of_ne_nil h
  rw [List.append_nil] at heq
  simp only [heq, List.length_cons, List.length_append, length_newline, List.length_nil]
  omega

theorem readItems_entriesText (level fuel : Nat) (rest : Text) (hne : items ≠ [])
    (hstorable : ∀ item ∈ items, Storable item) (hback : ∀ item ∈ items, ReadsBack item)
    (hfuel : (entriesText level (items.map (indented (level + 1)))).length + 2 ≤ fuel) :
    readItems fuel (entriesText level (items.map (indented (level + 1))) ++
      (newline level ++ ']' :: rest)) = .ok (items, rest) := by
  induction items generalizing fuel with
  | nil => exact absurd rfl hne
  | cons item items ih =>
      obtain ⟨fuel, rfl⟩ : ∃ n, fuel = n + 2 := ⟨fuel - 2, by omega⟩
      have hitem : ReadsBack item := hback item (by simp)
      cases items with
      | nil =>
          rw [List.map_singleton, entriesText_singleton] at hfuel ⊢
          have hread := hitem (level + 1) fuel (newline level ++ ']' :: rest)
            startsOutside_newline_append (by omega)
          have hskip : skipSpace (newline level ++ ']' :: rest) = ']' :: rest :=
            skipSpace_newline_append level rfl
          rw [readItems, hread]
          simp only [bind, Except.bind, hskip, pure, Except.pure]
      | cons item' items =>
          rw [List.map_cons, List.map_cons, entriesText_cons_cons] at hfuel ⊢
          simp only [List.length_append, List.length_cons, length_newline] at hfuel
          have hskip := skipSpace_newline_entriesText level (items.map (indented (level + 1)))
            (newline level ++ ']' :: rest)
            ((hstorable item' (by simp)).exists_indented_eq (level + 1))
          have hbehind := ih (fuel + 1) (by simp) (fun i hi => hstorable i (by simp [hi]))
            (fun i hi => hback i (by simp [hi])) (by rw [List.map_cons]; omega)
          rw [List.map_cons] at hbehind
          have hread := hitem (level + 1) fuel (',' :: (newline (level + 1) ++
            (entriesText level (indented (level + 1) item' :: items.map (indented (level + 1))) ++
              (newline level ++ ']' :: rest)))) (startsOutside_cons.mpr rfl) (by omega)
          rw [List.append_assoc, List.cons_append, List.append_assoc, readItems, hread]
          simp only [bind, Except.bind, skipSpace_cons (c := ',') rfl, hskip, hbehind, pure,
            Except.pure]

theorem readsBack_list (hstorable : ∀ item ∈ items, Storable item)
    (hback : ∀ item ∈ items, ReadsBack item) : ReadsBack (.list items) := by
  intro level fuel rest _ hfuel
  rw [indented, indentedItems_eq_map] at hfuel ⊢
  cases items with
  | nil => rfl
  | cons item items =>
      have hne : (item :: items).map (indented (level + 1)) ≠ [] := by simp
      rw [length_enclose hne] at hfuel
      have hitems := readItems_entriesText level fuel rest (by simp) hstorable hback (by omega)
      have hstart := (hstorable item (by simp)).exists_indented_eq (level + 1)
      have hskip := skipSpace_newline_entriesText level (items.map (indented (level + 1)))
        (newline level ++ ']' :: rest) hstart
      rw [enclose_of_ne_nil hne, readValue, List.map_cons, hskip]
      split
      · rename_i heq
        exact absurd heq (entriesText_append_ne rfl level _ _ _ hstart)
      · rw [← List.map_cons, hitems]
        rfl

/-! ## Objects -/

/-- A member on its line. -/
def memberText (level : Nat) (member : Text × Json) : Text :=
  writeString false member.1 ++ ": ".toList ++ indented level member.2

theorem indentedMembers_eq_map (level : Nat) (members : Table Json) :
    indentedMembers level members = members.map (memberText level) := by
  induction members with
  | nil => rfl
  | cons member members ih => rw [indentedMembers, ih, List.map_cons, memberText]

theorem memberText_append (level : Nat) (member : Text × Json) (rest : Text) :
    memberText level member ++ rest
      = '"' :: (member.1.flatMap (stringChar false) ++ '"' :: ':' :: ' ' ::
          (indented level member.2 ++ rest)) := by
  simp [memberText, writeString]

theorem exists_memberText_eq (level : Nat) (member : Text × Json) :
    ∃ c t, memberText level member = c :: t ∧ isValueStart c = true :=
  ⟨'"', _, rfl, rfl⟩

/-- A member is read up to what is behind its value: the end of the object,
or a comma and more members. -/
theorem readMembers_memberText {member : Text × Json} (level fuel : Nat) (rest : Text)
    (hstorable : Storable member.2) (hback : ReadsBack member.2)
    (hrest : StartsOutside isNumberChar rest)
    (hfuel : (memberText level member).length ≤ fuel) :
    (∀ behind, skipSpace rest = '\x7d' :: behind →
      readMembers (fuel + 2) (memberText level member ++ rest) = .ok ([member], behind)) ∧
    ∀ behind, skipSpace rest = ',' :: behind →
      readMembers (fuel + 2) (memberText level member ++ rest)
        = (readMembers (fuel + 1) (skipSpace behind)).map fun (members, rest) =>
          (member :: members, rest) := by
  obtain ⟨c, t, hwritten, hc⟩ := hstorable.exists_indented_eq level
  have hlength := congrArg List.length (memberText_append level member [])
  simp only [List.append_nil, List.length_cons, List.length_append] at hlength
  have hvalue := hback level fuel rest hrest (by omega)
  have hskip : skipSpace (' ' :: (indented level member.2 ++ rest))
      = indented level member.2 ++ rest := by
    rw [hwritten]
    exact skipSpace_cons (isSpace_of_isValueStart hc)
  constructor
  · intro behind hbehind
    rw [memberText_append, readMembers, readString_writeString]
    simp only [bind, Except.bind, skipSpace_cons (c := ':') rfl, hskip, hvalue, pure, Except.pure,
      hbehind]
  · intro behind hbehind
    rw [memberText_append, readMembers, readString_writeString]
    simp only [bind, Except.bind, skipSpace_cons (c := ':') rfl, hskip, hvalue, pure, Except.pure,
      hbehind]
    cases readMembers (fuel + 1) (skipSpace behind) <;> rfl

theorem readMembers_entriesText (level fuel : Nat) (rest : Text) (hne : members ≠ [])
    (hstorable : ∀ member ∈ members, Storable member.2)
    (hback : ∀ member ∈ members, ReadsBack member.2)
    (hfuel : (entriesText level (members.map (memberText (level + 1)))).length + 2 ≤ fuel) :
    readMembers fuel (entriesText level (members.map (memberText (level + 1))) ++
      (newline level ++ '\x7d' :: rest)) = .ok (members, rest) := by
  induction members generalizing fuel with
  | nil => exact absurd rfl hne
  | cons member members ih =>
      obtain ⟨fuel, rfl⟩ : ∃ n, fuel = n + 2 := ⟨fuel - 2, by omega⟩
      have hread := fun behind => readMembers_memberText (level + 1) fuel behind
        (hstorable member (by simp)) (hback member (by simp))
      cases members with
      | nil =>
          rw [List.map_singleton, entriesText_singleton] at hfuel ⊢
          exact (hread _ startsOutside_newline_append (by omega)).1 _
            (skipSpace_newline_append level rfl)
      | cons member' members =>
          rw [List.map_cons, List.map_cons, entriesText_cons_cons] at hfuel ⊢
          simp only [List.length_append, List.length_cons, length_newline] at hfuel
          have hbehind := ih (fuel + 1) (by simp) (fun m hm => hstorable m (by simp [hm]))
            (fun m hm => hback m (by simp [hm])) (by rw [List.map_cons]; omega)
          rw [List.map_cons] at hbehind
          rw [List.append_assoc, List.cons_append, List.append_assoc,
            (hread _ (startsOutside_cons.mpr rfl) (by omega)).2 _ (skipSpace_cons (c := ',') rfl)]
          have hstart := exists_memberText_eq (level + 1) member'
          simp only [skipSpace_newline_entriesText level _ _ hstart, hbehind, Except.map]

theorem readsBack_object (hdistinct : members.keys.Nodup)
    (hstorable : ∀ member ∈ members, Storable member.2)
    (hback : ∀ member ∈ members, ReadsBack member.2) : ReadsBack (.object members) := by
  intro level fuel rest _ hfuel
  rw [indented, indentedMembers_eq_map] at hfuel ⊢
  cases members with
  | nil => rfl
  | cons member members =>
      have hne : List.map (memberText (level + 1)) (member :: members) ≠ [] := by simp
      rw [length_enclose hne] at hfuel
      have hmembers := readMembers_entriesText level fuel rest (by simp) hstorable hback (by omega)
      have hstart := exists_memberText_eq (level + 1) member
      rw [enclose_of_ne_nil hne, readValue, List.map_cons,
        skipSpace_newline_entriesText level _ _ hstart]
      split
      · rename_i heq
        exact absurd heq (entriesText_append_ne rfl level _ _ _ hstart)
      · rw [← List.map_cons, hmembers]
        simp only [bind, Except.bind, pure, Except.pure, Table.ofPairs_of_nodup hdistinct]

/-! ## Whole texts -/

theorem Storable.readsBack (h : Storable j) : ReadsBack j := by
  induction h with
  | null => exact readsBack_null
  | bool b => exact readsBack_bool b
  | whole short => exact readsBack_whole short
  | string t => exact readsBack_string t
  | list each ih => exact readsBack_list each ih
  | object distinct each ih => exact readsBack_object distinct each ih

/-- **A value that is written indented is read back.** -/
theorem ofText_indented (h : Storable j) : ofText (indented 0 j) = .ok j := by
  obtain ⟨c, t, hwritten, hc⟩ := h.exists_indented_eq 0
  have hmark : (indented 0 j).head? ≠ some '\ufeff' := by
    rw [hwritten]
    rintro heq
    obtain rfl : c = '\ufeff' := Option.some.inj heq
    exact absurd hc (by decide)
  have hskip : skipSpace (indented 0 j) = indented 0 j := by
    rw [hwritten]
    exact skipSpace_cons (isSpace_of_isValueStart hc)
  have hread := h.readsBack 0 (2 * (indented 0 j).length + 1) [] startsOutside_nil (by omega)
  rw [List.append_nil] at hread
  rw [ofText, if_neg hmark, hskip, hread]
  rfl

/-! ## Line endings -/

theorem unifyNewlines_of_not_mem (h : '\r' ∉ t) : unifyNewlines t = t := by
  induction t with
  | nil => rfl
  | cons c t ih =>
      simp only [List.mem_cons, not_or] at h
      rw [unifyNewlines, ih h.2]
      · exact fun _ heq => absurd heq.symm h.1
      · exact fun heq => absurd heq.symm h.1

theorem not_mem_stringChar (c : Char) : '\r' ∉ stringChar false c := by
  have hspelling := spelling_stringChar c
  generalize stringChar false c = spelled at hspelling ⊢
  cases hspelling with
  | escaped stands =>
      rename_i letter
      have hletter : letter ≠ '\r' := by
        rintro rfl
        cases stands
      simp [Ne.symm hletter]
  | numeric control =>
      have hdigits : ∀ n < 0x20, '\r' ∉ unitEscape n := by decide
      exact hdigits c.toNat control
  | self quote backslash prints =>
      intro hmem
      obtain rfl : '\r' = c := List.mem_singleton.mp hmem
      exact prints (by decide)

theorem not_mem_writeString (t : Text) : '\r' ∉ writeString false t := by
  simp [writeString, not_mem_stringChar]

theorem not_mem_newline (level : Nat) : '\r' ∉ newline level := by
  simp [newline]

theorem not_mem_entriesText {entries : List Text} (h : ∀ e ∈ entries, '\r' ∉ e) :
    '\r' ∉ entriesText level entries := by
  induction entries with
  | nil => simp [entriesText, List.intercalate]
  | cons e entries ih =>
      have hbehind := ih fun e he => h e (by simp [he])
      cases entries with
      | nil => simpa [entriesText_singleton] using h
      | cons e' entries =>
          simp [entriesText_cons_cons, h e (by simp), not_mem_newline, hbehind]

theorem not_mem_enclose {left right : Char} {entries : List Text} (hleft : '\r' ≠ left)
    (hright : '\r' ≠ right) (h : ∀ e ∈ entries, '\r' ∉ e) :
    '\r' ∉ enclose left right level entries := by
  by_cases hnil : entries = []
  · subst hnil
    simp [enclose, hleft, hright]
  · rw [← List.append_nil (enclose left right level entries), enclose_of_ne_nil hnil]
    simp [hleft, hright, not_mem_newline, not_mem_entriesText h]

/-- What is written holds no carriage return. -/
theorem Storable.not_mem_indented (h : Storable j) (level : Nat) : '\r' ∉ indented level j := by
  induction h generalizing level with
  | null => simp [indented]
  | bool b => cases b <;> simp [indented]
  | whole short =>
      rename_i n
      have hdigits : '\r' ∉ Text.ofNat n.natAbs :=
        not_mem_of_class (fun c hc => isAsciiDigit_of_mem_ofNat hc) rfl
      rw [indented, writeWhole]
      split <;> simp [hdigits]
  | string t => exact not_mem_writeString t
  | list each ih =>
      rw [indented, indentedItems_eq_map]
      refine not_mem_enclose (by decide) (by decide) fun e he => ?_
      obtain ⟨item, hitem, rfl⟩ := List.mem_map.mp he
      exact ih item hitem (level + 1)
  | object distinct each ih =>
      rw [indented, indentedMembers_eq_map]
      refine not_mem_enclose (by decide) (by decide) fun e he => ?_
      obtain ⟨member, hmember, rfl⟩ := List.mem_map.mp he
      simp [memberText, not_mem_writeString, ih member hmember (level + 1)]

/-- **Line endings do not matter for it.** -/
theorem ofText_unifyNewlines_indented (h : Storable j) :
    ofText (unifyNewlines (indented 0 j)) = .ok j := by
  rw [unifyNewlines_of_not_mem (h.not_mem_indented 0), ofText_indented h]

end WireTypes.Json
