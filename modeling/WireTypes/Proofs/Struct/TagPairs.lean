import WireTypes.Declaration.Basic
import WireTypes.Proofs.Struct.Tag

/-!
# Struct — Tags of several pairs

The entry of a tag is looked for as a text, without taking the tag apart
into its pairs. In a tag of pairs the search finds the right one even so: a
key that only ends in `json` runs into a word character, any other key does
not go on with the mark, and a value that does not hold the key is passed
over with its quotes. So the search stops at the first pair whose key is
`json` (`TagPair.valueAfter?_tagText`).
-/

namespace WireTypes.JsonEntry

open Text

variable {before : Option Char} {c d : Char} {t rest run opener more value : Text}

/-! ## Where a search goes on -/

/-- A run of a class in front of a text that goes on like an opener and its
mark is the opener, if the class has the opener and not the mark. -/
theorem run_eq_opener {p : Char → Bool} (hopener : ∀ c ∈ opener, p c = true) (hd : p d = false)
    (hrun : ∀ c ∈ run, p c = true) (hrest : StartsOutside p rest)
    (h : opener ++ [d] <+: run ++ rest) : run = opener := by
  obtain ⟨more, hmore⟩ := h
  rw [← takeWhile_append_rest hrun hrest, ← hmore, List.append_assoc]
  exact takeWhile_append_rest hopener (startsOutside_cons.mpr hd)

theorem valueAtStart?_eq_none (h : ¬ "json:\"".toList <+: t) : valueAtStart? t = none := by
  have hkey : "json:\"".toList.isPrefixOf? t = none := by
    rw [Option.eq_none_iff_forall_ne_some]
    exact fun rest hrest => h ⟨rest, List.isPrefixOf?_eq_some_iff_append_eq.mp hrest⟩
  rw [valueAtStart?, hkey]
  rfl

/-- Where the key with its quote does not stand, the search goes on. -/
theorem valueAfter?_cons (h : ¬ "json:\"".toList <+: c :: t) :
    valueAfter? before (c :: t) = valueAfter? (some c) t := by
  rw [valueAfter?, valueAtStart?_eq_none h, ite_self]

/-- Behind a word character it goes on in any case. -/
theorem valueAfter?_cons_of_word (hd : isWord d = true) :
    valueAfter? (some d) (c :: t) = valueAfter? (some c) t := by
  rw [valueAfter?]
  simp only [Option.any_some, hd, if_true]

/-- Behind a character that is in no word the search is like one from the
start. -/
theorem valueAfter?_of_not_word (hc : isWord c = false) :
    valueAfter? (some c) t = valueAfter? none t := by
  cases t with
  | nil => rfl
  | cons d t =>
      rw [valueAfter?, valueAfter?]
      simp only [Option.any_some, hc, Option.any_none]

/-- A character that is not the first of the key is passed over. -/
theorem valueAfter?_cons_of_ne (hc : c ≠ 'j') :
    valueAfter? before (c :: t) = valueAfter? (some c) t := by
  refine valueAfter?_cons ?_
  rintro ⟨more, hmore⟩
  exact hc (List.head_eq_of_cons_eq hmore).symm

theorem valueAfter?_space : valueAfter? none (' ' :: t) = valueAfter? none t := by
  rw [valueAfter?_cons_of_ne (by decide), valueAfter?_of_not_word (by decide)]

theorem valueAfter?_spaces (n : Nat) :
    valueAfter? none (List.replicate n ' ' ++ t) = valueAfter? none t := by
  induction n with
  | zero => rfl
  | succ n ih => rw [List.replicate_succ, List.cons_append, valueAfter?_space, ih]

/-- Inside a word no key starts. -/
theorem valueAfter?_word (hd : isWord d = true) (hrun : ∀ c ∈ run, isWord c = true) :
    valueAfter? (some d) (run ++ ':' :: t) = valueAfter? none t := by
  induction run generalizing d with
  | nil =>
      rw [List.nil_append, valueAfter?_cons_of_word hd, valueAfter?_of_not_word (by decide)]
  | cons c run ih =>
      rw [List.cons_append, valueAfter?_cons_of_word hd]
      exact ih (hrun c (by simp)) fun e he => hrun e (by simp [he])

/-- Another key is passed over, with its colon. -/
theorem valueAfter?_key {key : Text} (hne : key ≠ []) (hword : ∀ c ∈ key, isWord c = true)
    (hkey : key ≠ "json".toList) :
    valueAfter? none (key ++ ':' :: t) = valueAfter? none t := by
  have hopen : ¬ "json:\"".toList <+: key ++ ':' :: t := by
    intro h
    have hcolon : "json".toList ++ [':'] <+: key ++ ':' :: t :=
      (show "json".toList ++ [':'] <+: "json:\"".toList from ⟨['"'], rfl⟩).trans h
    exact hkey (run_eq_opener (List.all_eq_true.mp (by decide)) (by decide) hword
      (by rw [startsOutside_cons]; decide) hcolon)
  obtain ⟨c, run, rfl⟩ := List.exists_cons_of_ne_nil hne
  rw [List.cons_append] at hopen ⊢
  rw [valueAfter?_cons hopen]
  exact valueAfter?_word (hword c (by simp)) fun e he => hword e (by simp [he])

/-- A value is passed over, with its closing quote, if it does not hold the
key and its colon. -/
theorem valueAfter?_value (hquote : '"' ∉ value) (hjson : ¬ "json:".toList <:+: value) :
    valueAfter? before (value ++ '"' :: t) = valueAfter? none t := by
  induction value generalizing before with
  | nil =>
      rw [List.nil_append, valueAfter?_cons_of_ne (by decide), valueAfter?_of_not_word (by decide)]
  | cons c value ih =>
      rw [List.infix_cons_iff, not_or] at hjson
      have hopen : ¬ "json:\"".toList <+: c :: value ++ '"' :: t := by
        intro h
        have hvalue : c :: value = "json:".toList :=
          run_eq_opener (p := (· != '"')) (List.all_eq_true.mp (by decide)) (by decide)
            (bne_of_not_mem hquote) (by simp) h
        exact hjson.1 (hvalue ▸ List.prefix_refl _)
      rw [List.cons_append] at hopen ⊢
      rw [valueAfter?_cons hopen]
      exact ih (fun h => hquote (List.mem_cons_of_mem _ h)) hjson.2

/-! ## Tags of several pairs -/

/-- A pair of a tag, behind some spaces: a key, which is a word, and a
quoted value. -/
structure TagPair where
  /-- How many spaces stand in front of the pair. -/
  spaces : Nat
  key : Text
  value : Text
  key_ne_nil : key ≠ []
  isWord_key : ∀ c ∈ key, isWord c = true
  not_mem_value : '"' ∉ value
  not_infix_value : ¬ "json:".toList <:+: value

namespace TagPair

/-- The pair with the spaces in front of it. -/
def toText (p : TagPair) : Text :=
  List.replicate p.spaces ' ' ++ (p.key ++ ':' :: '"' :: (p.value ++ ['"']))

/-- The tag of these pairs, with some spaces at its end. -/
def tagText (ps : List TagPair) (spaces : Nat) : Text :=
  ps.flatMap toText ++ List.replicate spaces ' '

variable {p : TagPair} {ps : List TagPair}

theorem toText_append (p : TagPair) (t : Text) : p.toText ++ t
    = List.replicate p.spaces ' ' ++ (p.key ++ ':' :: '"' :: (p.value ++ '"' :: t)) := by
  simp only [toText, List.append_assoc, List.cons_append, List.nil_append]

/-- A pair with another key is passed over. -/
theorem valueAfter?_append (h : p.key ≠ "json".toList) :
    valueAfter? none (p.toText ++ t) = valueAfter? none t := by
  rw [toText_append, valueAfter?_spaces, valueAfter?_key p.key_ne_nil p.isWord_key h,
    valueAfter?_cons_of_ne (by decide), valueAfter?_value p.not_mem_value p.not_infix_value]

/-- A pair with the key gives its value. -/
theorem valueAfter?_append_json (h : p.key = "json".toList) :
    valueAfter? none (p.toText ++ t) = some p.value := by
  rw [toText_append, valueAfter?_spaces, h]
  exact valueAfter?_start p.not_mem_value t

/-- **The search finds the first pair with the key.** -/
theorem valueAfter?_tagText (ps : List TagPair) (spaces : Nat) :
    valueAfter? none (tagText ps spaces)
      = (ps.find? fun p => p.key = "json".toList).map (·.value) := by
  rw [tagText]
  induction ps with
  | nil =>
      have hspaces := valueAfter?_spaces (t := []) spaces
      rwa [List.append_nil] at hspaces
  | cons p ps ih =>
      rw [List.flatMap_cons, List.append_assoc]
      by_cases hkey : p.key = "json".toList
      · rw [valueAfter?_append_json hkey, List.find?_cons_of_pos (by simpa using hkey),
          Option.map_some]
      · rw [valueAfter?_append hkey, ih, List.find?_cons_of_neg (by simpa using hkey)]

end TagPair

/-! ## The entry of a value -/

theorem allowsOmission_iff {option : Text} :
    allowsOmission option = true ↔ option = "omitempty".toList ∨ option = "omitzero".toList := by
  rw [allowsOmission, Bool.or_eq_true, beq_iff_eq, beq_iff_eq]

theorem name_ofValue (value : Text) :
    (ofValue value).name = trim (value.takeWhile (· != ',')) := by
  obtain ⟨pieces, hpieces⟩ := exists_splitOn_eq ',' value
  rw [ofValue, hpieces]

/-- The options of a value are its pieces behind the first comma. -/
theorem omittable_ofValue_iff :
    (ofValue value).omittable = true ↔
      ∃ option, IsLaterPiece ',' option value ∧ allowsOmission (trim option) = true := by
  obtain ⟨pieces, hpieces⟩ := exists_splitOn_eq ',' value
  simp only [← mem_tail_splitOn_iff, hpieces, List.tail_cons]
  rw [ofValue, hpieces]
  exact List.any_eq_true

/-- **The entry of a tag of pairs.** A tag has an entry exactly if one of
its pairs has the key, and then the first of these gives it: the name is
what stands before the first comma of its value, and the field may be left
out if one of the texts between the other commas says so. The tag that is
written for a field is read as that field's entry. -/
theorem ofTag?_tagText :
    (∀ (ps : List TagPair) (spaces : Nat),
      ((∀ p ∈ ps, p.key ≠ "json".toList) → ofTag? (TagPair.tagText ps spaces) = none) ∧
      ∀ (before : List TagPair) (p : TagPair) (after : List TagPair), ps = before ++ p :: after →
        (∀ q ∈ before, q.key ≠ "json".toList) → p.key = "json".toList →
        ∃ e, ofTag? (TagPair.tagText ps spaces) = some e ∧
          e.name = trim (p.value.takeWhile (· != ',')) ∧
          (e.omittable = true ↔ ∃ option, IsLaterPiece ',' option p.value ∧
            (trim option = "omitempty".toList ∨ trim option = "omitzero".toList))) ∧
    ∀ f : Field, '"' ∉ f.jsonName → ',' ∉ f.jsonName → trim f.jsonName = f.jsonName →
      ofTag? (JsonEntry.mk f.jsonName f.omittable).quotedTag.tail.dropLast
        = some ⟨f.jsonName, f.omittable⟩ := by
  refine ⟨fun ps spaces => ⟨fun hkeys => ?_, ?_⟩, fun f hquote hcomma htrim => ?_⟩
  · have hnone : (ps.find? fun p => p.key = "json".toList) = none :=
      List.find?_eq_none.mpr fun p hp => by simpa using hkeys p hp
    rw [ofTag?, TagPair.valueAfter?_tagText, hnone, Option.map_none, Option.map_none]
  · rintro before p after rfl hbefore hkey
    have hfound : ((before ++ p :: after).find? fun p => p.key = "json".toList) = some p :=
      List.find?_eq_some_iff_append.mpr ⟨by simpa using hkey, before, after, rfl,
        fun q hq => by simpa using hbefore q hq⟩
    refine ⟨ofValue p.value, ?_, name_ofValue p.value, ?_⟩
    · rw [ofTag?, TagPair.valueAfter?_tagText, hfound, Option.map_some, Option.map_some]
    · simp only [omittable_ofValue_iff, allowsOmission_iff]
  · have hinner : ∀ e : JsonEntry, e.quotedTag.tail.dropLast = e.toTag := by
      intro e
      rw [quotedTag, List.cons_append, List.tail_cons, List.dropLast_concat]
    rw [hinner]
    exact ofTag?_toTag hquote hcomma htrim

/-- Pairs with a key that ends in `json`, and with the key twice. -/
def stampPairs : List TagPair :=
  [⟨0, "xml".toList, "ID".toList, by decide, List.all_eq_true.mp (by decide), by decide,
      by decide +kernel⟩,
   ⟨2, "myjson".toList, "no".toList, by decide, List.all_eq_true.mp (by decide), by decide,
      by decide +kernel⟩,
   ⟨1, "json".toList, " id ,string, omitzero".toList, by decide,
      List.all_eq_true.mp (by decide), by decide, by decide +kernel⟩,
   ⟨1, "json".toList, "other".toList, by decide, List.all_eq_true.mp (by decide), by decide,
      by decide +kernel⟩]

/-- A field with a name that is no word. -/
def stampField : Field where
  name := "UserID".toList
  type := .known "string".toList
  jsonName := "user.id".toList
  omittable := true

theorem ofTag?_tagText_stamp :
    TagPair.tagText stampPairs 1
      = "xml:\"ID\"  myjson:\"no\" json:\" id ,string, omitzero\" json:\"other\" ".toList ∧
    ofTag? (TagPair.tagText stampPairs 1) = some ⟨"id".toList, true⟩ ∧
    ofTag? (TagPair.tagText (stampPairs.take 2) 0) = none ∧
    ofTag? (JsonEntry.mk stampField.jsonName stampField.omittable).quotedTag.tail.dropLast
      = some ⟨"user.id".toList, true⟩ := by
  obtain ⟨e, he, hname, homittable⟩ := (ofTag?_tagText.1 stampPairs 1).2 (stampPairs.take 2)
    stampPairs[2] [stampPairs[3]] rfl (by decide +kernel) rfl
  have hoption : IsLaterPiece ',' " omitzero".toList stampPairs[2].value :=
    ⟨by decide, " id ,string".toList, [], rfl, startsOutside_nil⟩
  have hentry : e = ⟨"id".toList, true⟩ := by
    obtain ⟨name, omittable⟩ := e
    rw [JsonEntry.mk.injEq]
    exact ⟨hname.trans (by decide +kernel), homittable.mpr ⟨_, hoption, by decide +kernel⟩⟩
  exact ⟨by decide +kernel, hentry ▸ he,
    (ofTag?_tagText.1 (stampPairs.take 2) 0).1 (by decide +kernel),
    ofTag?_tagText.2 stampField (by decide) (by decide) (by decide +kernel)⟩

end WireTypes.JsonEntry
