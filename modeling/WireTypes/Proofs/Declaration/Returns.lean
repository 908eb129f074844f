import WireTypes.Proofs.Declaration.LineEnds

/-!
# Declaration — Carriage returns

A text may end its lines with a carriage return before the line feed. To
a reader of lines it is one more blank behind each line but the last, so
the lines keep their roles (`marks_withReturns`) and the block is closed
where it was.
-/

namespace WireTypes

open Text

variable {n : Notation} {t line : Text}

theorem isBlank_return : ∀ c ∈ ['\r'], isBlank c = true := List.all_eq_true.mp (by decide)

theorem not_newline_mem_return : '\n' ∉ ['\r'] := by decide

namespace Block

/-- The mark with a carriage return behind its line. -/
def Mark.withReturn (m : Mark) : Mark := { m with line := m.line ++ ['\r'] }

theorem mark_append_return (p : Progress) (h : '\n' ∉ line) :
    mark n p (line ++ ['\r']) = (mark n p line).withReturn := by
  cases p with
  | searching =>
      rw [mark, mark, n.header?_append_gap isBlank_return, closesItself_append_gap isBlank_return]
      split <;> rfl
  | inside =>
      rw [mark, mark, isClosing_append_gap isBlank_return h not_newline_mem_return]
      split <;> rfl
  | done => rfl

theorem marksFrom_mapInit (p : Progress) (ls : List Text) (h : ∀ line ∈ ls, '\n' ∉ line) :
    marksFrom n p (mapInit (· ++ ['\r']) ls) = mapInit Mark.withReturn (marksFrom n p ls) := by
  -- the carriage return leaves the progress as it was
  induction ls generalizing p with
  | nil => rfl
  | cons line ls ih =>
      cases ls with
      | nil => rfl
      | cons next ls =>
          have hmark := mark_append_return (n := n) p (h line (by simp))
          have hprogress : (mark n p (line ++ ['\r'])).progress = (mark n p line).progress := by
            rw [hmark]
            rfl
          have hrest := ih (mark n p line).progress fun l hl => h l (List.mem_cons_of_mem _ hl)
          rw [mapInit, marksFrom, hprogress, hrest, hmark]
          rfl

/-- **Every line keeps its role under the longer line ending.** -/
theorem marks_withReturns (n : Notation) (t : Text) :
    marks n (withReturns t) = mapInit Mark.withReturn (marks n t) := by
  rw [marks, lines_withReturns]
  exact marksFrom_mapInit .searching (lines t) fun _ hline => not_mem_of_mem_lines hline

/-- The lines of the body that are followed by another line. -/
def endedBody (n : Notation) (t : Text) : List Text :=
  ((marks n t).dropLast.filter (·.role = .body)).map (·.line)

/-- The last line of the text if it stands in the body. -/
def openBody (n : Notation) (t : Text) : List Text :=
  ((marks n t).getLast?.toList.filter (·.role = .body)).map (·.line)

theorem body_eq (n : Notation) (t : Text) : body n t = endedBody n t ++ openBody n t := by
  rw [endedBody, openBody, ← List.map_append, ← List.filter_append, dropLast_append_toList]
  rfl

theorem body_withReturns (n : Notation) (t : Text) :
    body n (withReturns t) = (endedBody n t).map (· ++ ['\r']) ++ openBody n t := by
  rw [body, marks_withReturns, mapInit_eq, List.filter_append, List.map_append, endedBody, openBody,
    List.filter_map, List.map_map, List.map_map]
  rfl

theorem isComplete_withReturns (n : Notation) (t : Text) :
    isComplete n (withReturns t) = isComplete n t := by
  have hdone : ∀ ms : List Mark, ms.any (·.progress = .done)
      = (ms.map (·.progress)).any (· = .done) := fun ms => by rw [List.any_map]; rfl
  have hprogress : (mapInit Mark.withReturn (marks n t)).map (·.progress)
      = (marks n t).map (·.progress) := map_mapInit fun _ _ => rfl
  rw [isComplete, marks_withReturns, isComplete, hdone, hdone, hprogress]

theorem not_newline_mem_of_mem_endedBody (h : line ∈ endedBody n t) : '\n' ∉ line :=
  not_newline_mem_of_mem_body (by rw [body_eq]; exact List.mem_append_left _ h)

end Block

end WireTypes
