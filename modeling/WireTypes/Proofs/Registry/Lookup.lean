import WireTypes.Proofs.Registry.Registration
import WireTypes.Proofs.Text.Lowercase

/-!
# Registry — Lookups are sound

In a registry that came about by registrations every entry stands under a
lowercase name and every alias stands for an entry (`Sound`). The second
holds also where a registration was refused half way, since the entry comes
before its aliases. So an alias leads to a name in one step, a name leads to
itself, and what is found has a reader and a writer (`sound_lookups`).
-/

namespace WireTypes.Registry

open Text

variable {r : Registry} {c : Call} {calls : List Call} {name n target : Text} {as : List Text}

/-! ## The invariant -/

/-- What holds of a registry at any time. -/
structure Sound (r : Registry) : Prop where
  /-- Lowering the name of an entry changes nothing. -/
  lowered : ∀ key, r.entries.contains key = true → lower key = key
  /-- What an alias stands for is the name of an entry. -/
  linked : ∀ pair ∈ r.aliases, r.entries.contains pair.2 = true

theorem sound_empty : Sound {} := ⟨fun _ h => (nomatch h), fun _ h => (nomatch h)⟩

theorem Sound.withEntry (h : Sound r) : Sound (r.withEntry c) where
  lowered key hkey := by
    rcases Table.contains_insert.mp hkey with rfl | hold
    · exact lower_lower c.name
    · exact h.lowered key hold
  linked pair hpair := Table.contains_insert.mpr (Or.inr (h.linked pair hpair))

/-- An alias that was stored for a name stands for it. -/
theorem mem_foldl_link {t : Table Text} {pair : Text × Text} (h : pair ∈ as.foldl (link name) t) :
    pair.2 = name ∨ pair ∈ t := by
  induction as generalizing t with
  | nil => exact Or.inr h
  | cons a as ih =>
      rcases ih h with hname | hhead
      · exact Or.inl hname
      · rw [link] at hhead
        split at hhead
        · exact Or.inr hhead
        · exact (Table.mem_of_mem_insert hhead).imp_left fun hpair => by rw [hpair]

theorem Sound.withAliases (h : Sound r) (hname : r.entries.contains name = true) :
    Sound (r.withAliases name as) where
  lowered := h.lowered
  linked pair hpair := by
    rcases mem_foldl_link hpair with hsecond | hold
    · rw [hsecond]
      exact hname
    · exact h.linked pair hold

/-- **A registration keeps a registry sound, also one that is refused.** -/
theorem Sound.call (h : Sound r) (c : Call) : Sound (r.call c).1 := by
  have hregistration := registration_call r c
  generalize r.call c = result at hregistration ⊢
  cases hregistration with
  | notReader => exact h
  | notWriter => exact h
  | passedOver => exact h
  | made => exact h.withEntry.withAliases contains_withEntry
  | halfMade => exact h.withEntry.withAliases contains_withEntry

theorem Sound.run (h : Sound r) (calls : List Call) : Sound (r.run calls) := by
  induction calls generalizing r with
  | nil => exact h
  | cons c calls ih => exact ih (h.call c)

theorem sound_after (calls : List Call) : Sound (after calls) := sound_empty.run calls

/-! ## Lookups -/

theorem mem_names : name ∈ r.names ↔ r.entries.contains name = true :=
  Table.mem_keys_sorted.trans Table.mem_keys_iff

/-- What is there can be looked up, and nothing else. -/
theorem supports_iff : r.supports n = true ↔ ∃ target, r.resolve n = .ok target := by
  rw [supports, resolve, Bool.or_eq_true]
  split
  · rename_i hname
    exact iff_of_true (Or.inl hname) ⟨_, rfl⟩
  · rename_i hname
    cases halias : r.aliases.get? (lower n) with
    | some target =>
        exact iff_of_true (Or.inr (Table.contains_eq_true_iff.mpr ⟨target, halias⟩)) ⟨target, rfl⟩
    | none =>
        have hfree : ¬ r.aliases.contains (lower n) = true := by simp [Table.contains, halias]
        exact iff_of_false (not_or_intro hname hfree) (by simp)

/-- A lookup leads to an entry. -/
theorem Sound.contains_of_resolve (h : Sound r) (hresolve : r.resolve n = .ok target) :
    r.entries.contains target = true := by
  rw [resolve] at hresolve
  split at hresolve
  · rename_i hname
    obtain rfl := Except.ok.inj hresolve
    exact hname
  · cases halias : r.aliases.get? (lower n) with
    | some other =>
        rw [halias] at hresolve
        obtain rfl : other = target := Except.ok.inj hresolve
        exact h.linked _ (Table.mem_of_get? halias)
    | none =>
        rw [halias] at hresolve
        cases hresolve

/-- The name of an entry leads to itself. -/
theorem Sound.resolve_of_contains (h : Sound r) (hname : r.entries.contains name = true) :
    r.resolve name = .ok name := by
  rw [resolve, h.lowered name hname, if_pos hname]

theorem entry_of_resolve {e : Component × Component} (hresolve : r.resolve n = .ok target)
    (hentry : r.entries.get? target = some e) : r.entry n = .ok e := by
  simp only [entry, hresolve, bind, Except.bind, hentry, pure, Except.pure]

/-- **Every lookup in a registry that came about by registrations is
sound.** Every alias stands for a name. What is there, and nothing else, can
be looked up, and leads to a name that leads to itself; its reader and its
writer are those that are stored for the name. -/
theorem sound_lookups (calls : List Call) :
    (∀ pair ∈ (after calls).aliases, pair.2 ∈ (after calls).names) ∧
    ∀ n, ((after calls).supports n = true ↔ ∃ target, (after calls).resolve n = .ok target) ∧
      ∀ target, (after calls).resolve n = .ok target →
        target ∈ (after calls).names ∧ (after calls).resolve target = .ok target ∧
        ∃ reader writer, (after calls).entries.get? target = some (reader, writer) ∧
          (after calls).reader n = usable reader ∧ (after calls).writer n = usable writer := by
  have hsound : Sound (after calls) := sound_after calls
  refine ⟨fun pair hpair => mem_names.mpr (hsound.linked pair hpair), fun n => ⟨supports_iff, ?_⟩⟩
  intro target hresolve
  have hname : (after calls).entries.contains target = true := hsound.contains_of_resolve hresolve
  obtain ⟨⟨reader, writer⟩, hentry⟩ := Table.contains_eq_true_iff.mp hname
  have hfound : (after calls).entry n = .ok (reader, writer) := entry_of_resolve hresolve hentry
  refine ⟨mem_names.mpr hname, hsound.resolve_of_contains hname, reader, writer, hentry, ?_, ?_⟩
  · rw [Registry.reader, hfound]
    rfl
  · rw [Registry.writer, hfound]
    rfl

/-- The name of a refused registration leads to its own entry, in capitals
too. -/
theorem sound_lookups_contested :
    (after [structCall, interfaceCall]).resolve "TypeScript".toList = .ok "typescript".toList ∧
    "typescript".toList ∈ (after [structCall, interfaceCall]).names ∧
    (after [structCall, interfaceCall]).resolve "typescript".toList
      = .ok "typescript".toList := by
  have hresolve : (after [structCall, interfaceCall]).resolve "TypeScript".toList
      = .ok "typescript".toList := rfl
  obtain ⟨hmem, hagain, -⟩ :=
    ((sound_lookups [structCall, interfaceCall]).2 "TypeScript".toList).2 _ hresolve
  exact ⟨hresolve, hmem, hagain⟩

end WireTypes.Registry
