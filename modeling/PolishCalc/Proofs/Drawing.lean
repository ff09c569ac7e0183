import Mathlib.Data.List.Forall2
import PolishCalc.Proofs.Fold
import PolishCalc.Proofs.Grammar

/-!
# What a drawing shows

* **lines** — `Drawing.Shows line c`: the line is one line, and its last character is `c`. A mark
  before a line changes nothing about that (`Drawing.Shows.mark`);
* **nodes** — the lines of a drawing show the symbols of the prefix form, one by one
  (`Expr.drawing_shows`).
-/

namespace PolishCalc

namespace Drawing

/-- A line that ends with a character. -/
def Shows (line : String) (c : Char) : Prop :=
  line.toList.getLast? = some c ∧ '\n' ∉ line.toList

theorem Shows.mark {line : String} {c : Char} (shows : Shows line c) {mark : String}
    (oneLine : '\n' ∉ mark.toList) : Shows (mark ++ line) c := by
  obtain ⟨last, rest⟩ := shows
  rw [Shows, String.toList_append, List.getLast?_append, last, List.mem_append]
  exact ⟨rfl, not_or.mpr ⟨oneLine, rest⟩⟩

theorem shows_toString {c : Char} (visible : c ≠ '\n') : Shows c.toString c := by
  rw [Shows, Char.toString, String.toList_singleton]
  exact ⟨rfl, by simpa using visible.symm⟩

theorem shows_hang {first later : String} (firstLine : '\n' ∉ first.toList)
    (laterLine : '\n' ∉ later.toList) {lines : List String} {form : List Char}
    (shows : List.Forall₂ Shows lines form) :
    List.Forall₂ Shows (hang first later lines) form := by
  cases shows with
  | nil => exact .nil
  | cons head tail =>
      refine .cons (head.mark firstLine) ?_
      rw [List.forall₂_map_left_iff]
      exact tail.imp fun _ _ shows => shows.mark laterLine

end Drawing

/-- The lines of the drawing of an expression. -/
def Expr.drawing (e : Expr) : List String :=
  e.fold (fun d => [(digitChar d).toString]) Drawing.join

/-- The lines of a drawing show the prefix form. -/
theorem Expr.drawing_shows (e : Expr) :
    List.Forall₂ Drawing.Shows e.drawing (e.written .preorder) := by
  induction e with
  | leaf d =>
      have visible : digitChar d ≠ '\n' := by revert d; decide
      exact .cons (Drawing.shows_toString visible) .nil
  | node op left right ihLeft ihRight =>
      have visible : op.toChar ≠ '\n' := by cases op <;> decide
      have shownLeft : List.Forall₂ Drawing.Shows
          (Drawing.hang Drawing.branch Drawing.bar left.drawing) (left.written .preorder) :=
        Drawing.shows_hang (by decide) (by decide) ihLeft
      have shownRight : List.Forall₂ Drawing.Shows
          (Drawing.hang Drawing.corner Drawing.blank right.drawing) (right.written .preorder) :=
        Drawing.shows_hang (by decide) (by decide) ihRight
      rw [written_node]
      exact .cons (Drawing.shows_toString visible) (List.rel_append shownLeft shownRight)

end PolishCalc
