import Mathlib.Data.List.Chain
import Vicinity.Proofs.Text.LineEnds
import Vicinity.Proofs.Text.Tokens

/-!
# Lines with their ends

A line is a body and one of the three line ends. A text that is made of such lines, and perhaps of
a last one that is not ended, has these lines again, whichever ends they have
(`Text.linesOfWhole_textOf`). The one exception are two ends that become one : a carriage return,
and the line feed of an empty line after it (`EndedLine.Joins`).
-/

namespace Vicinity

namespace Text

/-- What ends a line. -/
inductive LineEnd where
  | feed
  | returnFeed
  | carriageReturn
deriving DecidableEq

/-- The characters of a line end. -/
def LineEnd.chars : LineEnd → List Char
  | feed => ['\n']
  | returnFeed => ['\r', '\n']
  | carriageReturn => ['\r']

/-- A line and what ends it. -/
structure EndedLine where
  body : List Char
  ending : LineEnd
deriving DecidableEq

namespace EndedLine

/-- All characters of a line. -/
def chars (l : EndedLine) : List Char := l.body ++ l.ending.chars

/-- The ends of two lines in a row are one : the second is nothing but the line feed that belongs
to the carriage return of the first. -/
def Joins (l l' : EndedLine) : Prop :=
  l.ending = .carriageReturn ∧ l'.body = [] ∧ l'.ending = .feed

instance (l l' : EndedLine) : Decidable (l.Joins l') :=
  inferInstanceAs (Decidable (l.ending = .carriageReturn ∧ l'.body = [] ∧ l'.ending = .feed))

end EndedLine

/-- The text of lines, and of a last one that is not ended; it is empty if there is none. -/
def textOf (lines : List EndedLine) (last : List Char) : List Char :=
  lines.flatMap EndedLine.chars ++ last

theorem IsBody.not_mem_feed {cs : List Char} (h : IsBody cs) : '\n' ∉ cs := fun hc => (h _ hc).2 rfl

theorem IsBody.not_mem_return {cs : List Char} (h : IsBody cs) : '\r' ∉ cs :=
  fun hc => (h _ hc).1 rfl

section

variable {lines : List EndedLine} {last : List Char}

theorem textOf_cons (l : EndedLine) (lines : List EndedLine) (last : List Char) :
    textOf (l :: lines) last = l.chars ++ textOf lines last := by
  rw [textOf, List.flatMap_cons, List.append_assoc, textOf]

/-- Each line end becomes a line feed. -/
theorem EndedLine.unifyLineEnds_chars {l : EndedLine} (h : IsBody l.body) :
    unifyLineEnds l.chars = l.body ++ ['\n'] := by
  have hborder : l.body.getLast? = some '\r' → l.ending.chars.head? ≠ some '\n' := fun hlast =>
    absurd (List.mem_of_getLast? hlast) h.not_mem_return
  rw [chars, unifyLineEnds_append hborder, unifyLineEnds_of_not_mem h.not_mem_return]
  cases l.ending <;> rfl

/-- A text begins with a line feed only if its first line is nothing else. -/
theorem head?_textOf (hbodies : ∀ l ∈ lines, IsBody l.body) (hlast : IsBody last)
    (h : (textOf lines last).head? = some '\n') :
    ∃ l ∈ lines.head?, l.body = [] ∧ l.ending = .feed := by
  cases lines with
  | nil => exact absurd (List.mem_of_head? h) hlast.not_mem_feed
  | cons l lines =>
    refine ⟨l, rfl, ?_⟩
    rw [textOf_cons, EndedLine.chars] at h
    cases hbody : l.body with
    | cons c cs =>
      rw [hbody, List.append_assoc, List.cons_append, List.head?_cons, Option.some.injEq] at h
      have hmem : '\n' ∈ l.body := by rw [hbody, h]; exact List.mem_cons_self
      exact absurd hmem (hbodies l List.mem_cons_self).not_mem_feed
    | nil =>
      refine ⟨rfl, ?_⟩
      rw [hbody] at h
      cases hending : l.ending with
      | feed => rfl
      | returnFeed | carriageReturn =>
        rw [hending] at h
        simp [LineEnd.chars] at h

theorem unifyLineEnds_textOf (hbodies : ∀ l ∈ lines, IsBody l.body) (hlast : IsBody last)
    (hapart : lines.IsChain fun l l' => ¬ l.Joins l') :
    unifyLineEnds (textOf lines last) =
      (lines.map fun l => l.body ++ ['\n']).flatten ++ last := by
  induction lines with
  | nil => exact unifyLineEnds_of_not_mem hlast.not_mem_return
  | cons l lines ih =>
    obtain ⟨hbody, hrest⟩ := List.forall_mem_cons.mp hbodies
    obtain ⟨hnext, hapart⟩ := List.isChain_cons.mp hapart
    -- a line feed at the border would be that of the next line
    have hborder : l.chars.getLast? = some '\r' → (textOf lines last).head? ≠ some '\n' := by
      intro hreturn hfeed
      obtain ⟨l', hl', hempty, hending'⟩ := head?_textOf hrest hlast hfeed
      refine hnext l' hl' ⟨?_, hempty, hending'⟩
      cases hending : l.ending with
      | carriageReturn => rfl
      | feed | returnFeed =>
        rw [EndedLine.chars, hending] at hreturn
        simp [LineEnd.chars] at hreturn
    rw [textOf_cons, unifyLineEnds_append hborder, EndedLine.unifyLineEnds_chars hbody,
      ih hrest hapart, List.map_cons, List.flatten_cons, List.append_assoc (l.body ++ ['\n'])]

/-- A text has the lines that it is made of. -/
theorem linesOfWhole_textOf (hbodies : ∀ l ∈ lines, IsBody l.body) (hlast : IsBody last)
    (hapart : lines.IsChain fun l l' => ¬ l.Joins l') :
    linesOfWhole (textOf lines last) = (lines.map fun l => l.body ++ ['\n']) ++ lastLine last := by
  have hended : ∀ line ∈ lines.map fun l => l.body ++ ['\n'], IsEnded line := by
    intro line hline
    obtain ⟨l, hl, rfl⟩ := List.mem_map.mp hline
    exact ⟨l.body, (hbodies l hl).not_mem_feed, rfl⟩
  rw [linesOfWhole_eq, unifyLineEnds_textOf hbodies hlast hapart,
    splitLines_flatten_append hended hlast.not_mem_feed]

end

end Text

end Vicinity
