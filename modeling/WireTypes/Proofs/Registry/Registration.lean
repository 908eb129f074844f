import WireTypes.Registry

/-!
# Registry — What a registration does

A registration writes as it goes: first the entry of its name, then one
alias after the other, up to the first that is refused. `Registration` has
one constructor for each way a call can go, with the registry it leaves
(`registration_call`); what holds of all registries is proved from it.

A call that fails for its reader or its writer leaves the registry as it
was. One that fails for an alias does not (`refused_call`): its name is
stored by then, and so are the aliases before that one. From there on the
name counts as known, so a second call with better aliases is passed over
without a word (`HalfMade.passedOver`).
-/

namespace WireTypes.Registry

open Text

/-- What a registration asks for. -/
structure Call where
  name : Text
  reader : Component
  writer : Component
  aliases : List Text
  replacing : Bool
deriving DecidableEq, Repr

/-- The reader can read and the writer can write. -/
def Call.Valid (c : Call) : Prop := c.reader.isReader = true ∧ c.writer.isWriter = true

/-- Makes a registration. -/
def call (r : Registry) (c : Call) : Registry × Option Fault :=
  r.register c.name c.reader c.writer c.aliases c.replacing

/-- Makes registrations one after the other, whether or not one is refused. -/
def run (r : Registry) (calls : List Call) : Registry := calls.foldl (fun r c => (r.call c).1) r

/-- The registry after a history of registrations. -/
def after (calls : List Call) : Registry := run {} calls

variable {r r' : Registry} {c : Call} {fault : Fault} {replacing : Bool} {name a : Text}
  {as stored : List Text}

/-! ## Aliases -/

/-- Stores an alias of a name, unless it equals the name. -/
def link (name : Text) (t : Table Text) (a : Text) : Table Text :=
  if lower a = name then t else t.insert (lower a) name

/-- The registry with aliases of a name. -/
def withAliases (r : Registry) (name : Text) (as : List Text) : Registry :=
  { r with aliases := as.foldl (link name) r.aliases }

/-- Why an alias is refused. One that equals the name is passed over, and
one that replaces is never refused. -/
def refusal? (replacing : Bool) (name : Text) (r : Registry) (a : Text) : Option Fault :=
  if lower a = name ∨ replacing = true then none else r.aliasFault? name a

theorem refusal?_eq_some_iff :
    refusal? replacing name r a = some fault ↔
      lower a ≠ name ∧ replacing = false ∧ r.aliasFault? name a = some fault := by
  rw [refusal?]
  by_cases hsame : lower a = name <;> cases replacing <;> simp [hsame]

/-- An alias is refused because a notation has its name or because it
stands for another name. -/
theorem aliasFault?_eq_some (h : r.aliasFault? name a = some fault) :
    fault = .aliasIsName a ∨ ∃ other, fault = .aliasTaken a other := by
  rw [aliasFault?] at h
  split at h
  · exact Or.inl (Option.some.inj h).symm
  · split at h
    · rename_i other _
      split at h
      · cases h
      · exact Or.inr ⟨other, (Option.some.inj h).symm⟩
    · cases h

theorem addAliases_cons :
    addAliases replacing name r (a :: as) =
      match refusal? replacing name r a with
      | some fault => (r, some fault)
      | none => addAliases replacing name (r.withAliases name [a]) as := by
  rw [addAliases, refusal?, withAliases, List.foldl_cons, List.foldl_nil, link]
  by_cases hsame : lower a = name
  · rw [if_pos hsame, if_pos (Or.inl hsame), if_pos hsame]
  · rw [if_neg hsame, if_neg hsame]
    cases replacing with
    | false =>
        have hkeeping : ¬ (lower a = name ∨ false = true) := by simp [hsame]
        rw [if_neg hkeeping]
        rfl
    | true => rw [if_pos (Or.inr rfl), if_pos rfl]

/-- How storing aliases can go: all of them are stored, or those before the
first that is refused. -/
inductive Linking (replacing : Bool) (name : Text) (r : Registry) (as : List Text) :
    Registry × Option Fault → Prop where
  | all : Linking replacing name r as (r.withAliases name as, none)
  | upTo {stored rest : List Text} {a : Text} {fault : Fault} (split : as = stored ++ a :: rest)
      (refused : refusal? replacing name (r.withAliases name stored) a = some fault) :
      Linking replacing name r as (r.withAliases name stored, some fault)

/-- An alias that is not refused may come first. -/
theorem Linking.cons {result : Registry × Option Fault}
    (h : Linking replacing name (r.withAliases name [a]) as result) :
    Linking replacing name r (a :: as) result := by
  cases h with
  | all => exact .all
  | upTo split refused =>
      rename_i stored rest a' fault
      have hsplit : a :: as = (a :: stored) ++ a' :: rest := congrArg (a :: ·) split
      exact .upTo hsplit refused

theorem linking_addAliases :
    Linking replacing name r as (addAliases replacing name r as) := by
  induction as generalizing r with
  | nil => exact .all
  | cons a as ih =>
      rw [addAliases_cons]
      cases hrefusal : refusal? replacing name r a with
      | some fault =>
          have hfirst : refusal? replacing name (r.withAliases name []) a = some fault := hrefusal
          exact .upTo rfl hfirst
      | none => exact ih.cons

/-! ## Registrations -/

/-- The registry with the entry of a registration. -/
def withEntry (r : Registry) (c : Call) : Registry :=
  { r with entries := r.entries.insert (lower c.name) (c.reader, c.writer) }

theorem contains_withEntry : (r.withEntry c).entries.contains (lower c.name) = true :=
  Table.contains_insert.mpr (Or.inl rfl)

/-- How a registration can go, with the registry it leaves. -/
inductive Registration (r : Registry) (c : Call) : Registry × Option Fault → Prop where
  | notReader (invalid : c.reader.isReader = false) : Registration r c (r, some .notReader)
  | notWriter (reads : c.reader.isReader = true) (invalid : c.writer.isWriter = false) :
      Registration r c (r, some .notWriter)
  /-- The name is there and is to stay as it is. -/
  | passedOver (valid : c.Valid) (known : r.entries.contains (lower c.name) = true)
      (keeping : c.replacing = false) : Registration r c (r, none)
  | made (valid : c.Valid)
      (allowed : r.entries.contains (lower c.name) = false ∨ c.replacing = true) :
      Registration r c ((r.withEntry c).withAliases (lower c.name) c.aliases, none)
  /-- An alias of a new name is refused. -/
  | halfMade {stored rest : List Text} {a : Text} {fault : Fault} (valid : c.Valid)
      (fresh : r.entries.contains (lower c.name) = false) (keeping : c.replacing = false)
      (split : c.aliases = stored ++ a :: rest)
      (refused : ((r.withEntry c).withAliases (lower c.name) stored).aliasFault? (lower c.name) a
        = some fault) :
      Registration r c ((r.withEntry c).withAliases (lower c.name) stored, some fault)

theorem call_of_valid (h : c.Valid) :
    r.call c = if r.entries.contains (lower c.name) && !c.replacing then (r, none)
      else addAliases c.replacing (lower c.name) (r.withEntry c) c.aliases := by
  simp [call, register, withEntry, h.1, h.2]

/-- **Every registration goes in one of these ways.** -/
theorem registration_call (r : Registry) (c : Call) : Registration r c (r.call c) := by
  by_cases hreader : c.reader.isReader = true
  case neg =>
    have hcall : r.call c = (r, some .notReader) := by simp [call, register, hreader]
    rw [hcall]
    exact .notReader (by simpa using hreader)
  by_cases hwriter : c.writer.isWriter = true
  case neg =>
    have hcall : r.call c = (r, some .notWriter) := by simp [call, register, hreader, hwriter]
    rw [hcall]
    exact .notWriter hreader (by simpa using hwriter)
  have hvalid : c.Valid := ⟨hreader, hwriter⟩
  rw [call_of_valid hvalid]
  split
  · rename_i hkept
    rw [Bool.and_eq_true, Bool.not_eq_true'] at hkept
    exact .passedOver hvalid hkept.1 hkept.2
  · rename_i hopen
    have hallowed : r.entries.contains (lower c.name) = false ∨ c.replacing = true := by
      cases hknown : r.entries.contains (lower c.name) with
      | false => exact Or.inl rfl
      | true => exact Or.inr (by simpa [hknown] using hopen)
    have hlinking : Linking c.replacing (lower c.name) (r.withEntry c) c.aliases
        (addAliases c.replacing (lower c.name) (r.withEntry c) c.aliases) := linking_addAliases
    generalize addAliases c.replacing (lower c.name) (r.withEntry c) c.aliases = result
      at hlinking ⊢
    cases hlinking with
    | all => exact .made hvalid hallowed
    | upTo split refused =>
        obtain ⟨-, hkeeping, hfault⟩ := refusal?_eq_some_iff.mp refused
        -- nothing is replaced, so the name got this far because it is new
        have hfresh := hallowed.resolve_right (by simp [hkeeping])
        exact .halfMade hvalid hfresh hkeeping split hfault

/-! ## Refused registrations -/

/-- What is left of a registration of a new name that is refused for its
alias `a`: the entry, and the aliases before `a`. -/
structure HalfMade (r : Registry) (c : Call) (stored : List Text) (a : Text) (fault : Fault)
    (r' : Registry) : Prop where
  keeping : c.replacing = false
  fresh : r.entries.contains (lower c.name) = false
  split : ∃ rest, c.aliases = stored ++ a :: rest
  refused : r'.aliasFault? (lower c.name) a = some fault
  entries : r'.entries = r.entries.insert (lower c.name) (c.reader, c.writer)
  aliases : r'.aliases = stored.foldl (link (lower c.name)) r.aliases

theorem HalfMade.known (h : HalfMade r c stored a fault r') :
    r'.entries.contains (lower c.name) = true := by
  rw [h.entries]
  exact contains_withEntry

theorem HalfMade.ne (h : HalfMade r c stored a fault r') : r' ≠ r := by
  rintro rfl
  exact absurd h.known (by simp [h.fresh])

/-- The name of a half made registration can be looked up. -/
theorem HalfMade.resolve_name (h : HalfMade r c stored a fault r') :
    r'.resolve c.name = .ok (lower c.name) := by
  rw [resolve, if_pos h.known]

/-- What is asked for the name later does nothing and is not refused,
unless it replaces. -/
theorem HalfMade.passedOver {again : Call} (h : HalfMade r c stored a fault r')
    (hname : lower again.name = lower c.name) (hvalid : again.Valid)
    (hkeeping : again.replacing = false) : r'.call again = (r', none) := by
  rw [call_of_valid hvalid, hname, h.known, hkeeping]
  rfl

/-- **A refused registration leaves the registry as it was when its reader
or its writer is at fault, and only then.** Else it is half made: the name
can be looked up, and what is asked for it later does nothing. -/
theorem refused_call (h : (r.call c).2 = some fault) :
    ((r.call c).1 = r ↔ fault = .notReader ∨ fault = .notWriter) ∧
    ((r.call c).1 ≠ r →
      (∃ stored a, HalfMade r c stored a fault (r.call c).1) ∧
      (r.call c).1.resolve c.name = .ok (lower c.name) ∧
      ∀ again : Call, lower again.name = lower c.name → again.Valid → again.replacing = false →
        (r.call c).1.call again = ((r.call c).1, none)) := by
  have hregistration := registration_call r c
  generalize r.call c = result at h hregistration ⊢
  cases hregistration with
  | notReader =>
      obtain rfl : Fault.notReader = fault := Option.some.inj h
      simp
  | notWriter =>
      obtain rfl : Fault.notWriter = fault := Option.some.inj h
      simp
  | passedOver => cases h
  | made => cases h
  | halfMade valid fresh keeping split refused =>
      rename_i stored rest a _
      obtain rfl := Option.some.inj h
      have hhalf : HalfMade r c stored a _ ((r.withEntry c).withAliases (lower c.name) stored) :=
        ⟨keeping, fresh, ⟨rest, split⟩, refused, rfl, rfl⟩
      refine ⟨iff_of_false hhalf.ne ?_, fun _ => ⟨⟨stored, a, hhalf⟩, hhalf.resolve_name,
        fun again hname hvalid hagain => hhalf.passedOver hname hvalid hagain⟩⟩
      rcases aliasFault?_eq_some refused with rfl | ⟨other, rfl⟩ <;> simp

/-- A notation with an alias. -/
def structCall : Call :=
  ⟨"go".toList, .reader .struct, .writer .struct, ["g".toList], false⟩

/-- Another notation that asks for the same alias. -/
def interfaceCall : Call :=
  ⟨"typescript".toList, .reader .interface, .writer .interface, ["g".toList], false⟩

theorem refused_call_contested :
    ((after [structCall]).call interfaceCall).2 = some (.aliasTaken "g".toList "go".toList) ∧
    (∃ stored a, HalfMade (after [structCall]) interfaceCall stored a
      (.aliasTaken "g".toList "go".toList) ((after [structCall]).call interfaceCall).1) ∧
    ((after [structCall]).call interfaceCall).1.resolve interfaceCall.name
      = .ok (lower interfaceCall.name) := by
  have hfault : ((after [structCall]).call interfaceCall).2
      = some (.aliasTaken "g".toList "go".toList) := rfl
  obtain ⟨hsame, hhalf⟩ := refused_call hfault
  have hchanged : ((after [structCall]).call interfaceCall).1 ≠ after [structCall] :=
    mt hsame.mp (by simp)
  exact ⟨hfault, (hhalf hchanged).1, (hhalf hchanged).2.1⟩

/-- A refused registration is not undone: the second notation was unknown
before, and can be looked up after it was refused. -/
theorem refused_call_not_undone :
    (¬ ∀ (calls : List Call) (c : Call) (fault : Fault),
      ((after calls).call c).2 = some fault → ((after calls).call c).1 = after calls) ∧
    ((after [structCall]).call interfaceCall).2 = some (.aliasTaken "g".toList "go".toList) ∧
    (after [structCall]).supports "typescript".toList = false ∧
    ((after [structCall]).call interfaceCall).1.supports "typescript".toList = true := by
  have hfault : ((after [structCall]).call interfaceCall).2
      = some (.aliasTaken "g".toList "go".toList) := rfl
  have hbefore : (after [structCall]).supports "typescript".toList = false := rfl
  have hafter : ((after [structCall]).call interfaceCall).1.supports "typescript".toList = true :=
    rfl
  refine ⟨fun hundone => ?_, hfault, hbefore, hafter⟩
  have hsame := hundone [structCall] interfaceCall _ hfault
  rw [hsame, hbefore] at hafter
  cases hafter

end WireTypes.Registry
