import WireTypes.Json.Reader
import WireTypes.Proofs.Table.Merging

/-!
# JSON — Keys of objects that are read

A text may give a key of an object more than once, and the last value
counts. So an object that was read has distinct keys, which objects by
themselves, being lists, need not have.
-/

namespace WireTypes

open Text

/-- A chain that succeeds has a first step that does. -/
theorem exists_of_bind_eq_ok {ε α β : Type} {x : Except ε α} {f : α → Except ε β} {b : β}
    (h : (x >>= f) = .ok b) : ∃ a, x = .ok a ∧ f a = .ok b := by
  cases x with
  | error cause => cases h
  | ok a => exact ⟨a, rfl, h⟩

namespace Json

variable {fuel : Nat} {t start rest : Text} {members : Table Json} {negative : Bool}

/-! ## Values that are no objects -/

theorem readUnsigned_ne_object :
    readUnsigned negative start t ≠ .ok (.object members, rest) := by
  intro h
  rw [readUnsigned] at h
  split at h
  · cases h
  · simp only at h
    split at h
    · cases h
    · split at h
      · split at h <;> cases h
      · cases h

theorem readNumber_ne_object : readNumber t ≠ .ok (.object members, rest) := by
  rw [readNumber.eq_def]
  split <;> exact readUnsigned_ne_object

theorem readWord?_ne_object : readWord? t ≠ some (.object members, rest) := by
  intro h
  obtain ⟨word, hword, hread⟩ := List.exists_of_findSome?_eq_some h
  obtain ⟨tail, -, heq⟩ := Option.map_eq_some_iff.mp hread
  obtain ⟨hvalue, -⟩ := Prod.mk.inj heq
  simp only [words, List.mem_cons, List.not_mem_nil, or_false] at hword
  rcases hword with rfl | rfl | rfl | rfl | rfl | rfl <;> cases hvalue

/-! ## Objects -/

theorem nodup_keys_of_readValue (h : readValue fuel t = .ok (.object members, rest)) :
    members.keys.Nodup := by
  cases fuel with
  | zero => simp [readValue] at h
  | succ fuel =>
      rw [readValue.eq_def] at h
      simp only at h
      split at h
      · cases h
      · obtain ⟨found, -, hvalue⟩ := exists_of_bind_eq_ok h
        cases hvalue
      · split at h
        · cases h
        · obtain ⟨found, -, hvalue⟩ := exists_of_bind_eq_ok h
          cases hvalue
      · split at h
        · cases h
          exact List.nodup_nil
        · obtain ⟨found, -, hvalue⟩ := exists_of_bind_eq_ok h
          cases hvalue
          exact Table.nodup_keys_merge List.nodup_nil
      · split at h
        · rename_i hword
          cases h
          exact absurd hword readWord?_ne_object
        · exact absurd h readNumber_ne_object

/-- **An object that is read has distinct keys.** -/
theorem nodup_keys_of_ofText (h : ofText t = .ok (.object members)) : members.keys.Nodup := by
  rw [ofText] at h
  split at h
  · cases h
  · obtain ⟨⟨value, rest⟩, hread, hvalue⟩ := exists_of_bind_eq_ok h
    simp only at hvalue
    split at hvalue
    · cases hvalue
      exact nodup_keys_of_readValue hread
    · cases hvalue

end Json

end WireTypes
