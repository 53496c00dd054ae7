/-
  File:      FieldKit/Lib/Lines.lean
  Subject:   Cutting a stream into lines, one symbol at a time.

  * `completeLines_append` -- what a second piece of the stream adds;
  * `completeLines_text`, `completeLines_line` -- a piece without an end, and a whole line.
-/
import Mathlib.Data.List.Basic

namespace FieldKit.Lib

variable {α : Type}

/-- The lines that end in a piece of the stream, each without its end; `cur` is what came before of
    the first. -/
def completeLines (isEnd : α → Bool) (cur : List α) : List α → List (List α)
  | [] => []
  | c :: cs =>
    if isEnd c then cur :: completeLines isEnd [] cs else completeLines isEnd (cur ++ [c]) cs

/-- The line that is open behind the piece. -/
def openLine (isEnd : α → Bool) (cur : List α) : List α → List α
  | [] => cur
  | c :: cs => if isEnd c then openLine isEnd [] cs else openLine isEnd (cur ++ [c]) cs

section Lines

variable {isEnd : α → Bool}

/-- **A piece and the next one.** -/
theorem completeLines_append (cur l l' : List α) :
    completeLines isEnd cur (l ++ l') =
      completeLines isEnd cur l ++ completeLines isEnd (openLine isEnd cur l) l' := by
  induction l generalizing cur with
  | nil => rfl
  | cons c cs ih => by_cases hc : isEnd c = true <;> simp [completeLines, openLine, hc, ih]

/-- A text ends no line. -/
theorem completeLines_text {text : List α} (h : ∀ c ∈ text, isEnd c = false) (cur : List α) :
    completeLines isEnd cur text = [] ∧ openLine isEnd cur text = cur ++ text := by
  induction text generalizing cur with
  | nil => exact ⟨rfl, (List.append_nil cur).symm⟩
  | cons c cs ih =>
      have hc : isEnd c = false := h c List.mem_cons_self
      obtain ⟨hlines, hopen⟩ := ih (fun d hd => h d (List.mem_cons_of_mem c hd)) (cur ++ [c])
      unfold completeLines openLine
      rw [hc]
      exact ⟨hlines, hopen.trans (by simp)⟩

/-- **A text and its end are one line.** -/
theorem completeLines_line {text : List α} (h : ∀ c ∈ text, isEnd c = false) {e : α}
    (he : isEnd e = true) (rest : List α) :
    completeLines isEnd [] (text ++ e :: rest) = text :: completeLines isEnd [] rest := by
  obtain ⟨hlines, hopen⟩ := completeLines_text h []
  rw [completeLines_append, hlines, hopen, List.nil_append, List.nil_append, completeLines,
    if_pos he]

end Lines

end FieldKit.Lib
