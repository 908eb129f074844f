import WireTypes.Files.Basic

/-!
# Files — What writing a file changes

A text can be written where the path leads to a place that is no folder
(`Files.Writable`). Afterwards it is read from that path, and every folder
is still one (`exists_write`): steps through folders do not depend on what
files hold (`walk_put`). On a device that does not take every text, all of
it is written, nothing is changed, or the file is left with a beginning of
the text (`writeOn_cases`).
-/

namespace WireTypes.Files

open Text

variable {fs fs' : Files} {p q : Path} {place other start : FilePlace} {e : FileEntry} {t : Text}
  {names : List Text} {device : Device} {content : Content}

/-- A text can be written to the path. -/
def Writable (fs : Files) (p : Path) : Prop :=
  ∃ place, fs.placeOf p = .ok place ∧ fs.entryAt? place ≠ some .folder

/-- All of a text can be written to the path, for the device takes it. -/
def Takes (fs : Files) (device : Device) (p : Path) (t : Text) : Prop :=
  ∃ place, fs.placeOf p = .ok place ∧ fs.entryAt? place ≠ some .folder ∧ device place t = .whole

/-- Two file systems are the same but for what is at a path, where the
second one has a file that holds so much. -/
def WrittenAt (fs fs' : Files) (p : Path) (content : Content) : Prop :=
  fs'.read p = .ok content ∧
    ∃ place, fs.placeOf p = .ok place ∧
      ∀ other, other ≠ place → fs'.entryAt? other = fs.entryAt? other

/-- The device opened the file at a path and broke off. The file has the
beginning of the text that was taken, and nothing else is changed. -/
def CutAt (fs : Files) (device : Device) (p : Path) (t : Text) (fs' : Files) : Prop :=
  ∃ place size cause, fs.placeOf p = .ok place ∧ fs.entryAt? place ≠ some .folder ∧
    device place t = .cut size cause ∧ fs.WrittenAt fs' p (.start size t)

/-! ## Entries at places -/

/-- The anchors are folders, whatever is put there. -/
theorem entryAt?_of_names_eq_nil (h : place.names = []) : fs.entryAt? place = some .folder := by
  rw [entryAt?, h]
  rfl

theorem names_ne_nil (h : fs.entryAt? place ≠ some .folder) : place.names ≠ [] :=
  fun hnil => h (entryAt?_of_names_eq_nil hnil)

/-- What a replacement at one place leaves at another. -/
theorem find?_map_replace (place other : FilePlace) (e : FileEntry) (fs : Files) :
    ((fs.map fun (p, old) => if p = place then (p, e) else (p, old)).find? (·.1 = other)).map (·.2)
      = (fs.find? (·.1 = other)).map fun found => if place = other then e else found.2 := by
  induction fs with
  | nil => rfl
  | cons entry fs ih =>
      obtain ⟨p, old⟩ := entry
      by_cases hother : p = other
      · subst hother
        by_cases hplace : p = place
        · simp [hplace]
        · simp [hplace, Ne.symm hplace]
      · by_cases hplace : p = place
        · subst hplace
          simpa [hother] using ih
        · simpa [hother, hplace] using ih

/-- What is put at a place is there, and all else stays. -/
theorem entryAt?_put (hplace : place.names ≠ []) (e : FileEntry) (other : FilePlace) :
    (fs.put place e).entryAt? other = if place = other then some e else fs.entryAt? other := by
  by_cases hnames : other.names = []
  · have hne : place ≠ other := by
      rintro rfl
      exact hplace hnames
    rw [entryAt?_of_names_eq_nil hnames, entryAt?_of_names_eq_nil hnames, if_neg hne]
  have hlooked : ∀ fs : Files, fs.entryAt? other = (fs.find? (·.1 = other)).map (·.2) := by
    intro fs
    rw [entryAt?, if_neg (by simpa using hnames)]
  rw [hlooked, hlooked, put]
  split
  · rename_i hany
    rw [find?_map_replace]
    by_cases heq : place = other
    · subst heq
      obtain ⟨found, hfound⟩ : ∃ found, fs.find? (·.1 = place) = some found :=
        Option.isSome_iff_exists.mp (by simpa [List.find?_isSome] using hany)
      simp [hfound]
    · simp [heq]
  · rename_i hnone
    have habsent : fs.find? (·.1 = place) = none :=
      List.find?_eq_none.mpr fun entry hentry heq =>
        hnone (List.any_eq_true.mpr ⟨entry, hentry, heq⟩)
    rw [List.find?_append]
    by_cases heq : place = other
    · subst heq
      simp [habsent]
    · simp [heq]

/-! ## Steps through folders -/

variable (hplace : fs.entryAt? place ≠ some .folder)

include hplace in
/-- A folder stays one when something is put where no folder is. -/
theorem entryAt?_put_of_folder (h : fs.entryAt? other = some .folder) :
    (fs.put place e).entryAt? other = some .folder := by
  have hne : place ≠ other := by
    rintro rfl
    exact hplace h
  rw [entryAt?_put (names_ne_nil hplace), if_neg hne, h]

include hplace in
/-- Every step needs a folder, and none goes away. -/
theorem walk_put (h : fs.walk start names = .ok other) :
    (fs.put place e).walk start names = .ok other := by
  induction names generalizing start with
  | nil => exact h
  | cons name names ih =>
      rw [walk] at h ⊢
      cases hentry : fs.entryAt? start with
      | none =>
          rw [hentry] at h
          cases h
      | some entry =>
          rw [hentry] at h
          cases entry with
          | file content => cases h
          | folder =>
              rw [entryAt?_put_of_folder hplace hentry]
              simp only at h ⊢
              split at h
              · cases h
              · rename_i hsize
                rw [if_neg hsize]
                exact ih h

include hplace in
theorem placeOf_put (h : fs.placeOf q = .ok other) : (fs.put place e).placeOf q = .ok other := by
  rw [placeOf] at h ⊢
  split at h
  · cases h
  · rename_i hname
    split at h
    · cases h
    · rename_i hsize
      rw [if_neg hname, if_neg hsize]
      exact walk_put hplace h

/-! ## Writing a text -/

theorem entry_eq_ok_iff : fs.entry q = .ok e ↔
    ∃ place, fs.placeOf q = .ok place ∧ fs.entryAt? place = some e := by
  rw [entry]
  cases fs.placeOf q with
  | error cause => simp [bind, Except.bind]
  | ok place =>
      cases hentry : fs.entryAt? place with
      | none => simp [bind, Except.bind, hentry, throw, throwThe, MonadExceptOf.throw]
      | some found => simp [bind, Except.bind, hentry, pure, Except.pure]

theorem hasFolder_eq_true_iff : fs.hasFolder q = .ok true ↔ fs.entry q = .ok .folder := by
  rw [hasFolder, look]
  cases fs.entry q with
  | ok e => simp [bind, Except.bind, pure, Except.pure]
  | error cause => cases cause <;> simp [bind, Except.bind, pure, Except.pure]

/-- A text goes to the place of its path, unless a folder is there. -/
theorem target_eq_ok_iff : fs.target p = .ok place ↔
    fs.placeOf p = .ok place ∧ fs.entryAt? place ≠ some .folder := by
  rw [target]
  cases fs.placeOf p with
  | error cause => simp [bind, Except.bind]
  | ok found =>
      simp only [bind, Except.bind, Except.ok.injEq]
      split
      · rename_i hfolder
        simp only [throw, throwThe, MonadExceptOf.throw, reduceCtorEq, false_iff]
        rintro ⟨rfl, hentry⟩
        exact hentry hfolder
      · rename_i hentry
        simp only [pure, Except.pure, Except.ok.injEq]
        constructor
        · rintro rfl
          exact ⟨rfl, hentry⟩
        · exact And.left

section Target

variable (htarget : fs.target p = .ok place)

include htarget

/-- A file is there once it was put where its path leads to. -/
theorem entry_put_target (content : Content) :
    (fs.put place (.file content)).entry p = .ok (.file content) := by
  obtain ⟨hplaceOf, hentry⟩ := target_eq_ok_iff.mp htarget
  refine entry_eq_ok_iff.mpr ⟨place, placeOf_put hentry hplaceOf, ?_⟩
  rw [entryAt?_put (names_ne_nil hentry), if_pos rfl]

theorem writtenAt_put_target (content : Content) :
    fs.WrittenAt (fs.put place (.file content)) p content := by
  obtain ⟨hplaceOf, hentry⟩ := target_eq_ok_iff.mp htarget
  refine ⟨?_, place, hplaceOf, fun other hother => ?_⟩
  · rw [read, entry_put_target htarget]
    rfl
  · rw [entryAt?_put (names_ne_nil hentry), if_neg (Ne.symm hother)]

end Target

/-- **A text can be written to a path that is writable.** It is read from
there afterwards, and every folder is still one. -/
theorem exists_write (h : fs.Writable p) (t : Text) : ∃ fs', fs.write p t = .ok fs' ∧
    fs'.present p = .ok true ∧ fs'.read p = .ok (.text t) ∧
    ∀ q, fs.hasFolder q = .ok true → fs'.hasFolder q = .ok true := by
  obtain ⟨place, hplaceOf, hentry⟩ := h
  have htarget := target_eq_ok_iff.mpr ⟨hplaceOf, hentry⟩
  refine ⟨fs.put place (.file (.text t)), ?_, ?_, (writtenAt_put_target htarget _).1,
    fun q hq => ?_⟩
  · rw [write, htarget]
    rfl
  · rw [present, look, entry_put_target htarget]
    rfl
  · obtain ⟨other, hother, hfolder⟩ := entry_eq_ok_iff.mp (hasFolder_eq_true_iff.mp hq)
    exact hasFolder_eq_true_iff.mpr (entry_eq_ok_iff.mpr
      ⟨other, placeOf_put hentry hother, entryAt?_put_of_folder hentry hfolder⟩)

/-! ## Writing on a device -/

/-- **What writing on a device leaves behind.** A text that is not taken as a
whole changes no file, or it leaves its beginning in the file that was
opened. -/
theorem writeOn_cases (device : Device) (fs : Files) (p : Path) (t : Text) :
    (fs.Takes device p t ∧
      ∃ fs', fs.writeOn device p t = (fs', none) ∧ fs.WrittenAt fs' p (.text t)) ∨
    (¬ fs.Takes device p t ∧
      ∃ fs' fault, fs.writeOn device p t = (fs', some fault) ∧
        (fs' = fs ∨ fs.CutAt device p t fs')) := by
  rw [writeOn]
  cases htarget : fs.target p with
  | error cause =>
      refine .inr ⟨?_, fs, .path cause, rfl, .inl rfl⟩
      rintro ⟨place, hplaceOf, hentry, -⟩
      rw [target_eq_ok_iff.mpr ⟨hplaceOf, hentry⟩] at htarget
      cases htarget
  | ok place =>
      obtain ⟨hplaceOf, hentry⟩ := target_eq_ok_iff.mp htarget
      -- the device is asked about this place only
      have huntaken : device place t ≠ .whole → ¬ fs.Takes device p t := by
        rintro hintake ⟨other, hother, -, htaken⟩
        rw [hplaceOf] at hother
        cases hother
        exact hintake htaken
      dsimp only
      cases hintake : device place t with
      | whole =>
          exact .inl ⟨⟨place, hplaceOf, hentry, hintake⟩, _, rfl, writtenAt_put_target htarget _⟩
      | closed cause =>
          exact .inr ⟨huntaken (by simp [hintake]), fs, .closed cause, rfl, .inl rfl⟩
      | cut size cause =>
          refine .inr ⟨huntaken (by simp [hintake]), _, .cut cause, rfl, .inr ?_⟩
          exact ⟨place, size, cause, hplaceOf, hentry, hintake, writtenAt_put_target htarget _⟩

end WireTypes.Files
