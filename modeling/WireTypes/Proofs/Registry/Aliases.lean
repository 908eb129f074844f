import Mathlib.Data.List.Induction
import WireTypes.Proofs.Registry.Lookup
import WireTypes.Proofs.Table.Merging

/-!
# Registry — What a listed alias leads to

A lookup asks for names first, so an alias that is listed for a name leads
to it as long as no name is spelled like it. Listed aliases lead to their
names exactly when names and aliases are apart (`leads_iff_apart`), and
names and aliases that have met never part again.

A registration keeps them apart unless it brings in a name that is an alias
already (`Call.NamesAlias`), or replaces and asks for an alias that is
another name (`Call.AliasesName`). Leaving the first aside, the second is
the one way in which a history can make them meet (`listed_aliases`).
-/

namespace WireTypes.Registry

open Text

variable {r : Registry} {c : Call} {calls : List Call} {name n a key : Text} {as : List Text}

/-! ## The table of aliases -/

/-- What holds of a table of aliases at any time. -/
structure Linked (t : Table Text) : Prop where
  distinct : t.keys.Nodup
  /-- Lowering an alias changes nothing. -/
  lowered : ∀ pair ∈ t, lower pair.1 = pair.1
  /-- No alias stands for itself. -/
  other : ∀ pair ∈ t, pair.1 ≠ pair.2

theorem linked_nil : Linked [] := ⟨List.nodup_nil, by simp, by simp⟩

theorem Linked.link {t : Table Text} (h : Linked t) (name a : Text) : Linked (link name t a) := by
  rw [Registry.link]
  split
  · exact h
  · rename_i hne
    refine ⟨Table.nodup_keys_insert h.distinct, fun pair hpair => ?_, fun pair hpair => ?_⟩
    · rcases Table.mem_of_mem_insert hpair with rfl | hold
      · exact lower_lower a
      · exact h.lowered pair hold
    · rcases Table.mem_of_mem_insert hpair with rfl | hold
      · exact hne
      · exact h.other pair hold

theorem Linked.foldl {t : Table Text} (h : Linked t) (name : Text) (as : List Text) :
    Linked (as.foldl (Registry.link name) t) := by
  induction as generalizing t with
  | nil => exact h
  | cons a as ih => exact ih (h.link name a)

theorem Linked.call (h : Linked r.aliases) (c : Call) : Linked (r.call c).1.aliases := by
  have hregistration := registration_call r c
  generalize r.call c = result at hregistration ⊢
  cases hregistration with
  | notReader => exact h
  | notWriter => exact h
  | passedOver => exact h
  | made => exact h.foldl _ _
  | halfMade => exact h.foldl _ _

theorem linked_after (calls : List Call) : Linked (after calls).aliases := by
  have hrun : ∀ r : Registry, Linked r.aliases → Linked (r.run calls).aliases := by
    induction calls with
    | nil => exact fun _ h => h
    | cons c calls ih => exact fun r h => ih (r.call c).1 (h.call c)
  exact hrun {} linked_nil

/-- The aliases after some more were stored are those, and the ones that
were there. -/
theorem contains_foldl_link {t : Table Text} :
    (as.foldl (link name) t).contains key = true ↔
      (∃ a ∈ as, lower a ≠ name ∧ lower a = key) ∨ t.contains key = true := by
  induction as generalizing t with
  | nil => simp
  | cons a as ih =>
      rw [List.foldl_cons, ih, link]
      by_cases hsame : lower a = name
      · simp [hsame]
      · rw [if_neg hsame, Table.contains_insert]
        simp [hsame, or_assoc, or_left_comm]

/-! ## Listings -/

theorem mem_aliasesOf {target : Text} (hresolve : r.resolve n = .ok target) :
    ∃ as, r.aliasesOf n = .ok as ∧ ∀ a, a ∈ as ↔ (a, target) ∈ r.aliases := by
  refine ⟨(Table.sorted (r.aliases.filter fun pair => pair.2 = target)).keys, ?_, fun a => ?_⟩
  · rw [aliasesOf, hresolve]
    rfl
  · rw [Table.mem_keys_sorted, Table.keys, List.mem_map]
    constructor
    · rintro ⟨⟨a', t⟩, hmem, rfl⟩
      obtain ⟨hpair, rfl⟩ : (a', t) ∈ r.aliases ∧ t = target := by simpa using hmem
      exact hpair
    · exact fun hpair => ⟨(a, target), by simpa using hpair, rfl⟩

/-- An alias leads to the name it is listed for, unless it is a name. -/
theorem resolve_of_linked (hlinked : Linked r.aliases) (hpair : (a, n) ∈ r.aliases)
    (hfree : r.entries.contains a = false) : r.resolve a = .ok n := by
  have hlower : lower a = a := hlinked.lowered _ hpair
  have hfound : r.aliases.get? a = some n := Table.get?_of_mem hlinked.distinct hpair
  simp [resolve, hlower, hfree, hfound]

/-- No name is an alias. -/
def Apart (r : Registry) : Prop :=
  ∀ key, r.entries.contains key = true → r.aliases.contains key = false

/-- Every alias that is listed for a name leads to it. -/
def Leads (r : Registry) : Prop :=
  ∀ n ∈ r.names, ∃ as, r.aliasesOf n = .ok as ∧ ∀ a ∈ as, r.resolve a = .ok n

/-- **Listed aliases lead to their names exactly when names and aliases are
apart.** -/
theorem leads_iff_apart (hsound : Sound r) (hlinked : Linked r.aliases) : r.Leads ↔ r.Apart := by
  constructor
  · intro hleads key hname
    by_contra halias
    rw [Bool.not_eq_false] at halias
    -- the alias is listed for another name, but leads to itself
    obtain ⟨target, hget⟩ := Table.contains_eq_true_iff.mp halias
    have hpair : (key, target) ∈ r.aliases := Table.mem_of_get? hget
    have htarget : r.entries.contains target = true := hsound.linked _ hpair
    obtain ⟨as, has, hmem⟩ := mem_aliasesOf (hsound.resolve_of_contains htarget)
    obtain ⟨as', has', hall⟩ := hleads target (mem_names.mpr htarget)
    obtain rfl : as = as' := Except.ok.inj (has.symm.trans has')
    have hresolve := hall key ((hmem key).mpr hpair)
    rw [hsound.resolve_of_contains hname] at hresolve
    exact hlinked.other _ hpair (Except.ok.inj hresolve)
  · intro hapart n hn
    have hname : r.entries.contains n = true := mem_names.mp hn
    obtain ⟨as, has, hmem⟩ := mem_aliasesOf (hsound.resolve_of_contains hname)
    refine ⟨as, has, fun a ha => ?_⟩
    have hpair : (a, n) ∈ r.aliases := (hmem a).mp ha
    have halias : r.aliases.contains a = true :=
      Table.mem_keys_iff.mp (List.mem_map_of_mem hpair)
    refine resolve_of_linked hlinked hpair ?_
    by_contra hclash
    rw [Bool.not_eq_false] at hclash
    rw [hapart a hclash] at halias
    cases halias

/-! ## What makes names and aliases meet -/

/-- A registration of a new name that is an alias already. -/
def Call.NamesAlias (c : Call) (r : Registry) : Prop :=
  c.Valid ∧ r.entries.contains (lower c.name) = false ∧ r.aliases.contains (lower c.name) = true

/-- A replacing registration that asks for an alias that is another name. -/
def Call.AliasesName (c : Call) (r : Registry) : Prop :=
  c.Valid ∧ c.replacing = true ∧
    ∃ a ∈ c.aliases, lower a ≠ lower c.name ∧ r.entries.contains (lower a) = true

theorem Apart.withEntry (h : r.Apart) (hfree : r.aliases.contains (lower c.name) = false) :
    (r.withEntry c).Apart := by
  intro key hkey
  rcases Table.contains_insert.mp hkey with rfl | hold
  · exact hfree
  · exact h key hold

theorem Apart.withAliases (h : r.Apart)
    (hfree : ∀ a ∈ as, lower a ≠ name → r.entries.contains (lower a) = false) :
    (r.withAliases name as).Apart := by
  intro key hkey
  by_contra halias
  rw [Bool.not_eq_false] at halias
  have hentry : r.entries.contains key = true := hkey
  rcases contains_foldl_link.mp halias with ⟨a, ha, hne, rfl⟩ | hold
  · rw [hfree a ha hne] at hentry
    cases hentry
  · rw [h key hentry] at hold
    cases hold

/-- An alias that is not refused has no name's spelling. -/
theorem contains_of_refusal?_eq_none (h : refusal? false name r a = none) (hne : lower a ≠ name) :
    r.entries.contains (lower a) = false := by
  rw [refusal?, if_neg (by simp [hne]), aliasFault?] at h
  split at h
  · cases h
  · rename_i hfree
    simpa using hfree

/-- Aliases that replace nothing are stored only where no name is. -/
theorem Apart.addAliases (h : r.Apart) : (addAliases false name r as).1.Apart := by
  induction as generalizing r with
  | nil => exact h
  | cons a as ih =>
      rw [addAliases_cons]
      cases hrefusal : refusal? false name r a with
      | some fault => exact h
      | none =>
          refine ih (h.withAliases fun b hb hne => ?_)
          obtain rfl : b = a := List.mem_singleton.mp hb
          exact contains_of_refusal?_eq_none hrefusal hne

/-- Aliases that replace are all stored. -/
theorem addAliases_replacing : addAliases true name r as = (r.withAliases name as, none) := by
  have hlinking : Linking true name r as (addAliases true name r as) := linking_addAliases
  generalize addAliases true name r as = result at hlinking ⊢
  cases hlinking with
  | all => rfl
  | upTo split refused => exact absurd (refusal?_eq_some_iff.mp refused).2.1 (by simp)

/-- **What one registration does to names and aliases that are apart.** -/
theorem apart_call_iff (h : r.Apart) (hfresh : ¬ c.NamesAlias r) :
    (r.call c).1.Apart ↔ ¬ c.AliasesName r := by
  by_cases hvalid : c.Valid
  case neg =>
    have hsame : (r.call c).1 = r := by
      have hregistration := registration_call r c
      generalize r.call c = result at hregistration ⊢
      cases hregistration with
      | notReader => rfl
      | notWriter => rfl
      | passedOver => rfl
      | made valid => exact absurd valid hvalid
      | halfMade valid => exact absurd valid hvalid
    rw [hsame]
    exact iff_of_true h fun hname => hvalid hname.1
  rw [call_of_valid hvalid]
  split
  · rename_i hkept
    rw [Bool.and_eq_true, Bool.not_eq_true'] at hkept
    have hkeeping : c.replacing = false := hkept.2
    exact iff_of_true h fun hname => by simp [hname.2.1] at hkeeping
  · rename_i hopen
    have hfree : r.aliases.contains (lower c.name) = false := by
      cases hknown : r.entries.contains (lower c.name) with
      | true => exact h _ hknown
      | false => exact Bool.eq_false_iff.mpr fun halias => hfresh ⟨hvalid, hknown, halias⟩
    have hentry : (r.withEntry c).Apart := h.withEntry hfree
    cases hreplacing : c.replacing with
    | false => exact iff_of_true hentry.addAliases fun hname => by simp [hname.2.1] at hreplacing
    | true =>
        rw [addAliases_replacing]
        constructor
        · rintro hapart ⟨-, -, a, ha, hne, hknown⟩
          have hname : (r.withEntry c).entries.contains (lower a) = true :=
            Table.contains_insert.mpr (Or.inr hknown)
          have hfree := hapart (lower a) hname
          exact absurd (contains_foldl_link.mpr (Or.inl ⟨a, ha, hne, rfl⟩))
            (Bool.eq_false_iff.mp hfree)
        · intro hnone
          refine hentry.withAliases fun a ha hne => Bool.eq_false_iff.mpr fun hknown => ?_
          rcases Table.contains_insert.mp hknown with heq | hold
          · exact hne heq.symm
          · exact hnone ⟨hvalid, hreplacing, a, ha, hne, hold⟩

/-- Names and aliases that have met do not part again. -/
theorem apart_of_call (h : (r.call c).1.Apart) : r.Apart := by
  have hgrows : ∀ as, ((r.withEntry c).withAliases (lower c.name) as).Apart → r.Apart := by
    intro as hapart key hname
    by_contra halias
    rw [Bool.not_eq_false] at halias
    have hfree := hapart key (Table.contains_insert.mpr (Or.inr hname))
    exact absurd (contains_foldl_link.mpr (Or.inr halias)) (Bool.eq_false_iff.mp hfree)
  have hregistration := registration_call r c
  generalize r.call c = result at h hregistration
  cases hregistration with
  | notReader => exact h
  | notWriter => exact h
  | passedOver => exact h
  | made => exact hgrows _ h
  | halfMade => exact hgrows _ h

/-! ## Histories -/

/-- Every call of a history meets a condition on it and on the registry it
finds. -/
def Always (P : Call → Registry → Prop) (calls : List Call) : Prop :=
  ∀ before c later, calls = before ++ c :: later → P c (after before)

theorem always_nil {P : Call → Registry → Prop} : Always P [] :=
  fun _ _ _ h => absurd h (by simp)

theorem always_append_singleton {P : Call → Registry → Prop} :
    Always P (calls ++ [c]) ↔ Always P calls ∧ P c (after calls) := by
  constructor
  · intro h
    refine ⟨fun before c' later hsplit => ?_, h calls c [] rfl⟩
    exact h before c' (later ++ [c]) (by rw [hsplit]; simp)
  · rintro ⟨hcalls, hlast⟩ before c' later hsplit
    rcases List.eq_nil_or_concat later with rfl | ⟨later, last, rfl⟩
    · obtain ⟨rfl, hc⟩ := List.append_inj' hsplit rfl
      obtain rfl : c = c' := by simpa using hc
      exact hlast
    · rw [List.concat_eq_append, ← List.cons_append, ← List.append_assoc] at hsplit
      exact hcalls before c' later (List.append_inj' hsplit rfl).1

theorem after_append_singleton : after (calls ++ [c]) = ((after calls).call c).1 := by
  rw [after, run, List.foldl_append]
  rfl

/-- If no call brings in a name that is an alias, then names and aliases
are apart exactly when no call replaces a name by an alias. -/
theorem apart_after_iff (hfresh : Always (fun c r => ¬ c.NamesAlias r) calls) :
    (after calls).Apart ↔ Always (fun c r => ¬ c.AliasesName r) calls := by
  induction calls using List.reverseRecOn with
  | nil => exact iff_of_true (fun key h => (nomatch h)) always_nil
  | append_singleton calls c ih =>
      rw [always_append_singleton] at hfresh
      rw [always_append_singleton, after_append_singleton, ← ih hfresh.1]
      constructor
      · intro hafter
        have hbefore : (after calls).Apart := apart_of_call hafter
        exact ⟨hbefore, (apart_call_iff hbefore hfresh.2).mp hafter⟩
      · exact fun ⟨hbefore, hnone⟩ => (apart_call_iff hbefore hfresh.2).mpr hnone

/-- **What listed aliases lead to.** In every registry that came about by
registrations an alias leads to the name it is listed for, unless it is a
name itself. If no call of the history brings in a name that is an alias,
then all listed aliases lead to their names, and no name is an alias,
exactly when no call replaces and asks for an alias that is another name. -/
theorem listed_aliases (calls : List Call) :
    (∀ n ∈ (after calls).names, ∃ as, (after calls).aliasesOf n = .ok as ∧
      ∀ a ∈ as, a ∉ (after calls).names → (after calls).resolve a = .ok n) ∧
    (Always (fun c r => ¬ c.NamesAlias r) calls →
      ((after calls).Leads ∧ (after calls).Apart ↔
        Always (fun c r => ¬ c.AliasesName r) calls)) := by
  have hsound : Sound (after calls) := sound_after calls
  have hlinked : Linked (after calls).aliases := linked_after calls
  refine ⟨fun n hn => ?_, fun hfresh => ?_⟩
  · have hresolve := hsound.resolve_of_contains (mem_names.mp hn)
    obtain ⟨as, has, hmem⟩ := mem_aliasesOf hresolve
    refine ⟨as, has, fun a ha hfree => resolve_of_linked hlinked ((hmem a).mp ha) ?_⟩
    exact Bool.eq_false_iff.mpr fun hname => hfree (mem_names.mpr hname)
  · rw [leads_iff_apart hsound hlinked, and_self, apart_after_iff hfresh]

/-- A notation that takes over the alias of another one. -/
def handover : Call :=
  ⟨"typescript".toList, .reader .interface, .writer .interface, ["g".toList, "TS".toList], true⟩

theorem listed_aliases_handover :
    Always (fun c r => ¬ c.NamesAlias r) [structCall, handover] ∧
    Always (fun c r => ¬ c.AliasesName r) [structCall, handover] ∧
    (after [structCall, handover]).Leads ∧ (after [structCall, handover]).Apart ∧
    (after [structCall, handover]).resolve "ts".toList = .ok "typescript".toList := by
  have hfresh : Always (fun c r => ¬ c.NamesAlias r) ([] ++ [structCall] ++ [handover]) := by
    refine always_append_singleton.mpr
      ⟨always_append_singleton.mpr ⟨always_nil, fun h => ?_⟩, fun h => ?_⟩
    · exact absurd h.2.2 (by decide)
    · exact absurd h.2.2 (by decide)
  have hkept : Always (fun c r => ¬ c.AliasesName r) ([] ++ [structCall] ++ [handover]) := by
    refine always_append_singleton.mpr
      ⟨always_append_singleton.mpr ⟨always_nil, fun h => ?_⟩, fun h => ?_⟩
    · exact absurd h.2.1 (by decide)
    · obtain ⟨a, ha, -, hname⟩ := h.2.2
      have hnone : ∀ a ∈ handover.aliases,
          (after [structCall]).entries.contains (lower a) = false := by decide
      exact absurd hname (Bool.eq_false_iff.mp (hnone a ha))
  obtain ⟨hleads, hapart⟩ := ((listed_aliases [structCall, handover]).2 hfresh).mpr hkept
  exact ⟨hfresh, hkept, hleads, hapart, rfl⟩

/-- A notation that replaces and asks for the name of another one as an
alias. -/
def takeover : Call :=
  ⟨"typescript".toList, .reader .interface, .writer .interface, ["go".toList], true⟩

/-- **A listed alias can lead elsewhere**: a replacing registration may ask
for an alias that is a name, and the name is found first. -/
theorem listed_alias_astray :
    (¬ ∀ calls, (after calls).Leads ∧ (after calls).Apart) ∧
    (after [structCall, takeover]).aliasesOf "typescript".toList = .ok ["go".toList] ∧
    (after [structCall, takeover]).resolve "go".toList = .ok "go".toList ∧
    "go".toList ∈ (after [structCall, takeover]).names ∧
    (after [structCall, takeover]).aliases.contains "go".toList = true := by
  have hname : (after [structCall, takeover]).entries.contains "go".toList = true := rfl
  have halias : (after [structCall, takeover]).aliases.contains "go".toList = true := rfl
  refine ⟨fun hall => ?_, by cbv, rfl, mem_names.mpr hname, halias⟩
  rw [(hall [structCall, takeover]).2 _ hname] at halias
  cases halias

end WireTypes.Registry
