import WireTypes.Proofs.Text.Lines
import WireTypes.Struct.Tag

/-!
# Struct — Tags read back

The tag that is written for an entry is read as that entry, whatever the
name is, as long as it holds neither of the two marks that end it (the
quote and the comma) and has no blanks at its ends.
-/

namespace WireTypes.JsonEntry

open Text

/-- The value of an entry: its name, then the option. -/
def value (e : JsonEntry) : Text :=
  e.name ++ (if e.omittable then ",omitempty".toList else [])

theorem toTag_eq (e : JsonEntry) : e.toTag = "json:\"".toList ++ (e.value ++ ['"']) := by
  unfold toTag value
  rw [List.append_assoc, List.append_assoc, List.append_assoc]

/-- A key at the start of a tag gives the text up to the next quote. -/
theorem valueAfter?_start {t : Text} (h : '"' ∉ t) (rest : Text) :
    valueAfter? none ("json:\"".toList ++ (t ++ '"' :: rest)) = some t := by
  have htake : (t ++ '"' :: rest).takeWhile (· != '"') = t :=
    takeWhile_append_rest (bne_of_not_mem h) (by simp)
  have hstart : valueAtStart? ("json:\"".toList ++ (t ++ '"' :: rest)) = some t := by
    have hkey : "json:\"".toList.isPrefixOf? ("json:\"".toList ++ (t ++ '"' :: rest))
        = some (t ++ '"' :: rest) := List.isPrefixOf?_eq_some_iff_append_eq.mpr rfl
    rw [valueAtStart?, hkey]
    simp [htake]
  rw [show "json:\"".toList ++ (t ++ '"' :: rest)
    = 'j' :: ("son:\"".toList ++ (t ++ '"' :: rest)) from rfl] at hstart ⊢
  rw [valueAfter?]
  simp only [Option.any_none, Bool.false_eq_true, if_false, hstart]

/-- The value of an entry holds its name and nothing else in front of
the first comma. -/
theorem ofValue_value {e : JsonEntry} (hcomma : ',' ∉ e.name) (htrim : trim e.name = e.name) :
    ofValue e.value = e := by
  obtain ⟨name, omittable⟩ := e
  rw [ofValue, value]
  cases omittable with
  | false => simp [splitOn_of_not_mem hcomma, htrim]
  | true =>
      have hsplit : splitOn ',' (name ++ ",omitempty".toList) = [name, "omitempty".toList] :=
        splitOn_append_cons hcomma
      simp only [if_true, hsplit, htrim]
      rfl

/-- **A tag is read back as the entry it was written for.** -/
theorem ofTag?_toTag {e : JsonEntry} (hquote : '"' ∉ e.name) (hcomma : ',' ∉ e.name)
    (htrim : trim e.name = e.name) : ofTag? e.toTag = some e := by
  have hvalue : '"' ∉ e.value := by
    rw [value, List.mem_append, not_or]
    refine ⟨hquote, ?_⟩
    split <;> decide
  rw [ofTag?, toTag_eq, valueAfter?_start hvalue, Option.map_some, ofValue_value hcomma htrim]

/-- A name of key characters meets all three conditions. -/
theorem ofTag?_toTag_of_key {e : JsonEntry} (h : ∀ c ∈ e.name, isKeyChar c = true) :
    ofTag? e.toTag = some e := by
  refine ofTag?_toTag (not_mem_of_class h (by decide)) (not_mem_of_class h (by decide)) ?_
  have hblank : ∀ c ∈ e.name, isBlank c = false := fun c hc => isBlank_of_isKeyChar (h c hc)
  exact trim_of_outside (startsOutside_of_forall hblank) (endsOutside_of_forall hblank)

/-- What stands nowhere in the name stands nowhere in the tag, the
characters that every tag has apart. -/
theorem not_mem_toTag {e : JsonEntry} {c : Char} (hname : c ∉ e.name)
    (hkey : c ∉ "json:\"".toList) (hoption : c ∉ ",omitempty".toList) (hquote : c ≠ '"') :
    c ∉ e.toTag := by
  rw [toTag_eq, value]
  simp only [List.mem_append, List.mem_singleton, not_or]
  refine ⟨hkey, ⟨hname, ?_⟩, hquote⟩
  split
  · exact hoption
  · exact List.not_mem_nil

/-! ## Where the name of an entry comes from -/

theorem mem_of_valueAtStart? {t value : Text} (h : valueAtStart? t = some value) :
    ∀ c ∈ value, c ∈ t := by
  rw [valueAtStart?] at h
  simp only [Option.bind_eq_bind, Option.bind_eq_some_iff] at h
  obtain ⟨rest, hkey, h⟩ := h
  split at h
  · cases h
    intro c hc
    rw [← List.isPrefixOf?_eq_some_iff_append_eq.mp hkey]
    exact List.mem_append_right _ ((List.takeWhile_prefix _).subset hc)
  · cases h

/-- A value stands in the tag it is read from. -/
theorem mem_of_valueAfter? {before : Option Char} {t value : Text}
    (h : valueAfter? before t = some value) : ∀ c ∈ value, c ∈ t := by
  induction t generalizing before with
  | nil => cases h
  | cons d rest ih =>
      rw [valueAfter?] at h
      split at h
      · rename_i found hfound
        cases h
        split at hfound
        · cases hfound
        · exact mem_of_valueAtStart? hfound
      · exact fun c hc => List.mem_cons_of_mem d (ih h c hc)

/-- So does the name of an entry. -/
theorem mem_of_ofTag? {t : Text} {e : JsonEntry} (h : ofTag? t = some e) :
    ∀ c ∈ e.name, c ∈ t := by
  obtain ⟨value, hvalue, rfl⟩ := Option.map_eq_some_iff.mp h
  intro c hc
  apply mem_of_valueAfter? hvalue
  rw [ofValue] at hc
  split at hc
  · simp at hc
  · rename_i name options hpieces
    exact mem_of_mem_splitOn (by rw [hpieces]; simp) (mem_of_mem_trim hc)

end WireTypes.JsonEntry
