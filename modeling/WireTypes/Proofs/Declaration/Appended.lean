import WireTypes.Proofs.Declaration.Classification
import WireTypes.Proofs.Declaration.Layout

/-!
# Declaration — Lines behind the block

Once a block is closed the progress stays `done`, whatever lines follow.
They are marked as outside (`marks_append`), so they add nothing to the
body, and the declaration is read as it was (`Declaration.read_extended`).
-/

namespace WireTypes

open Text

variable {n : Notation} {t t' : Text} {more : List Text}

namespace Block

/-! ## Reading on from a progress -/

theorem marksFrom_append (p : Progress) (ls more : List Text) :
    marksFrom n p (ls ++ more) = marksFrom n p ls ++ marksFrom n (progressAfter n p ls) more := by
  induction ls generalizing p with
  | nil => rfl
  | cons line ls ih =>
      rw [List.cons_append, marksFrom, marksFrom, ih, List.cons_append]
      rfl

theorem progressAfter_of_isComplete (h : isComplete n t = true) :
    progressAfter n .searching (lines t) = .done := (layout_marks n t).any_done_iff.mp h

/-- **Lines behind a closed block are outside.** -/
theorem marks_append (hmore : lines t' = lines t ++ more) (hclosed : isComplete n t = true) :
    marks n t' = marks n t ++ outsideMarks .done more := by
  rw [marks, hmore, marksFrom_append, progressAfter_of_isComplete hclosed, marksFrom_done]
  rfl

theorem filter_body_outsideMarks (p : Progress) (ls : List Text) :
    (outsideMarks p ls).filter (·.role = .body) = [] := by
  simp [outsideMarks]

theorem body_append (hmore : lines t' = lines t ++ more) (hclosed : isComplete n t = true) :
    body n t' = body n t := by
  rw [body, marks_append hmore hclosed, List.filter_append, filter_body_outsideMarks,
    List.append_nil, body]

theorem isComplete_append (hmore : lines t' = lines t ++ more)
    (hclosed : isComplete n t = true) : isComplete n t' = true := by
  rw [isComplete] at hclosed
  rw [isComplete, marks_append hmore hclosed, List.any_append, hclosed, Bool.true_or]

/-! ## The closing line -/

/-- The number of the line that closes the block. -/
def closingLine? (n : Notation) (t : Text) : Option Nat :=
  (marks n t).findIdx? (·.role = .close)

theorem closingLine?_eq {front after : List Mark} {m : Mark}
    (hmarks : marks n t = front ++ m :: after) (hfront : ∀ m ∈ front, m.role ≠ .close)
    (hm : m.role = .close) : closingLine? n t = some front.length := by
  have hnone : front.findIdx? (fun m : Mark => decide (m.role = .close)) = none :=
    List.findIdx?_eq_none_iff.mpr fun m hm => decide_eq_false (hfront m hm)
  rw [closingLine?, hmarks, List.findIdx?_append, hnone, List.findIdx?_cons]
  simp [hm]

/-- Lines behind the block do not move the closing line. -/
theorem closingLine?_append {k : Nat} (hmore : lines t' = lines t ++ more)
    (hclosed : isComplete n t = true) (h : closingLine? n t = some k) :
    closingLine? n t' = some k := by
  rw [closingLine?] at h
  rw [closingLine?, marks_append hmore hclosed, List.findIdx?_append, h]
  rfl

/-- A closed block with lines in its body is closed by a line, behind which
all lines are outside. -/
theorem Layout.exists_closing {ms : List Mark} {name : Option Text} (h : Layout n ms name .done)
    (hbody : ∃ m ∈ ms, m.role = .body) :
    ∃ front close after, ms = front ++ ⟨.close, close, .done⟩ :: outsideMarks .done after ∧
      ∀ m ∈ front, m.role ≠ .close := by
  cases h with
  | empty =>
      obtain ⟨m, hm, hrole⟩ := hbody
      simp only [outsideMarks, List.mem_append, List.mem_cons, List.mem_map] at hm
      rcases hm with ⟨line, -, rfl⟩ | rfl | ⟨line, -, rfl⟩ <;> cases hrole
  | @closed before body after header name close =>
      refine ⟨outsideMarks .searching before ++ ⟨.header, header, .inside⟩ :: bodyMarks body, close,
        after, by simp, ?_⟩
      simp only [outsideMarks, bodyMarks, List.forall_mem_append, List.forall_mem_cons,
        List.forall_mem_map]
      simp

theorem exists_closing_of_body (hclosed : isComplete n t = true) (hbody : body n t ≠ []) :
    ∃ front close after, marks n t = front ++ ⟨.close, close, .done⟩ :: outsideMarks .done after ∧
      ∀ m ∈ front, m.role ≠ .close := by
  have hlayout := layout_marks n t
  rw [progressAfter_of_isComplete hclosed] at hlayout
  obtain ⟨line, hline⟩ := List.exists_mem_of_ne_nil _ hbody
  obtain ⟨m, hm, -⟩ := List.mem_map.mp hline
  obtain ⟨hmem, hrole⟩ := List.mem_filter.mp hm
  exact hlayout.exists_closing ⟨m, hmem, of_decide_eq_true hrole⟩

end Block

/-! ## The declaration -/

theorem firstLine_extended (h : lines (trim t) <+: lines (trim t')) :
    firstLine t' = firstLine t := by
  obtain ⟨rest, hlines⟩ := exists_lines_eq (trim t)
  obtain ⟨rest', hlines'⟩ := exists_lines_eq (trim t')
  rw [hlines, hlines'] at h
  exact (List.cons_prefix_cons.mp h).1.symm

theorem classify_extended (h : lines (trim t) <+: lines (trim t')) (hverdict : classify t = .ok n) :
    classify t' = .ok n := by
  obtain ⟨name, hname⟩ := exists_header_of_classify hverdict
  exact classify_of_header? (by rw [firstLine_extended h, hname])

/-- **Lines behind a closed block change nothing of what is read.** -/
theorem Declaration.read_extended (v : Vocabulary) (h : lines (trim t) <+: lines (trim t'))
    (hverdict : classify t = .ok n) (hclosed : Block.isComplete n (trim t) = true) :
    read v n (trim t') = read v n (trim t) := by
  obtain ⟨name, hname⟩ := exists_header_of_classify hverdict
  have hname' : n.header? (firstLine t') = some name := by rw [firstLine_extended h, hname]
  obtain ⟨more, hmore⟩ := h
  rw [read_of_header? v hname, read_of_header? v hname', Block.body_append hmore.symm hclosed,
    hclosed, Block.isComplete_append hmore.symm hclosed]

end WireTypes
