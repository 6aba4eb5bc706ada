import Vicinity.Stream

/-!
# Lines

`unifyLineEnds` works from the back of a text; `translated` says what it does from the front, as
the rule is given : a carriage return with a line feed after it is one line end, as is either
alone. `AreLines` says what the lines of a text are, which `linesOfWhole` gives.

The lines of a text that breaks off are the first of the lines that the text would have had
(`linesOfBroken_isPrefix`), as many as the text has line ends (`length_linesOfBroken`); a carriage
return that is its last character is none.
-/

namespace Vicinity

namespace Text

/-! ## Line ends -/

/-- A text with a line feed for every line end. -/
def translated : List Char → List Char
  | [] => []
  | '\r' :: '\n' :: cs => '\n' :: translated cs
  | '\r' :: cs => '\n' :: translated cs
  | c :: cs => c :: translated cs

theorem unifyLineEnds_nil : unifyLineEnds [] = [] := rfl

theorem beginsWithFeed_foldr (cs : List Char) :
    (cs.foldr unifyChar (false, [])).1 = decide (cs.head? = some '\n') := by
  cases cs with
  | nil => rfl
  | cons c cs =>
    rw [List.foldr_cons, unifyChar, List.head?_cons]
    split
    · rename_i hc
      subst hc
      rfl
    · simp

theorem unifyLineEnds_cons (c : Char) (cs : List Char) :
    unifyLineEnds (c :: cs) =
      if c = '\r' then
        if cs.head? = some '\n' then unifyLineEnds cs else '\n' :: unifyLineEnds cs
      else c :: unifyLineEnds cs := by
  simp only [unifyLineEnds, List.foldr_cons, unifyChar, beginsWithFeed_foldr, decide_eq_true_eq]
  split <;> rfl

theorem unifyLineEnds_eq_translated (cs : List Char) : unifyLineEnds cs = translated cs := by
  fun_induction translated cs with
  | case1 => rfl
  | case2 cs ih => simp [unifyLineEnds_cons, ih]
  | case3 cs hne ih =>
    have hhead : cs.head? ≠ some '\n' := by
      intro h
      obtain ⟨rest, rfl⟩ := List.head?_eq_some_iff.mp h
      exact hne rest rfl
    rw [unifyLineEnds_cons, if_pos rfl, if_neg hhead, ih]
  | case4 c cs hne hc ih =>
    rw [unifyLineEnds_cons, if_neg hc, ih]

/-- Line ends of two parts are found apart unless the border goes through one. -/
theorem unifyLineEnds_append {cs cs' : List Char}
    (h : cs.getLast? = some '\r' → cs'.head? ≠ some '\n') :
    unifyLineEnds (cs ++ cs') = unifyLineEnds cs ++ unifyLineEnds cs' := by
  induction cs with
  | nil => rfl
  | cons c cs ih =>
    rw [List.cons_append, unifyLineEnds_cons, unifyLineEnds_cons]
    cases cs with
    | nil =>
      by_cases hc : c = '\r'
      · subst hc
        simp [h rfl, unifyLineEnds_nil]
      · simp [hc, unifyLineEnds_nil]
    | cons c' cs =>
      rw [ih (by simpa [List.getLast?_cons_cons] using h)]
      by_cases hc : c = '\r'
      · by_cases hf : c' = '\n'
        · simp [hc, hf]
        · simp [hc, hf]
      · simp [hc]

/-! ## Lines -/

/-- The lines of a text : they make it up, none is empty, and a line feed stands at the end of
every line but perhaps the last, and nowhere else. -/
structure AreLines (text : List Char) (lines : List (List Char)) : Prop where
  flatten_eq : lines.flatten = text
  ne_nil : ∀ line ∈ lines, line ≠ []
  not_mem_dropLast : ∀ line ∈ lines, '\n' ∉ line.dropLast
  ended : ∀ line ∈ lines.dropLast, line.getLast? = some '\n'

/-- A line that is ended : characters and the line feed after them. -/
def IsEnded (line : List Char) : Prop := ∃ front, '\n' ∉ front ∧ line = front ++ ['\n']

theorem splitLines_cons (c : Char) (cs : List Char) :
    splitLines (c :: cs) = consLines c (splitLines cs) := rfl

theorem consLines_flatten (c : Char) (text : List (List Char) × List Char) :
    (consLines c text).1.flatten ++ (consLines c text).2 = c :: (text.1.flatten ++ text.2) := by
  obtain ⟨lines, last⟩ := text
  rw [consLines]
  split
  · rename_i hc
    rw [hc]
    rfl
  · cases lines <;> rfl

theorem splitLines_flatten (cs : List Char) :
    (splitLines cs).1.flatten ++ (splitLines cs).2 = cs := by
  induction cs with
  | nil => rfl
  | cons c cs ih => rw [splitLines_cons, consLines_flatten, ih]

theorem consLines_isEnded {c : Char} {text : List (List Char) × List Char}
    (h : ∀ line ∈ text.1, IsEnded line) : ∀ line ∈ (consLines c text).1, IsEnded line := by
  obtain ⟨lines, last⟩ := text
  intro line hmem
  rw [consLines] at hmem
  split at hmem
  · rcases List.mem_cons.mp hmem with rfl | hmem
    · exact ⟨[], List.not_mem_nil, rfl⟩
    · exact h line hmem
  · rename_i hc
    cases lines with
    | nil => exact absurd hmem List.not_mem_nil
    | cons first lines =>
      rcases List.mem_cons.mp hmem with rfl | hmem
      · obtain ⟨front, hfront, heq⟩ := h first List.mem_cons_self
        refine ⟨c :: front, ?_, by rw [heq, List.cons_append]⟩
        rintro (_ | ⟨_, hmem⟩)
        · exact hc rfl
        · exact hfront hmem
      · exact h line (List.mem_cons_of_mem _ hmem)

theorem splitLines_isEnded (cs : List Char) : ∀ line ∈ (splitLines cs).1, IsEnded line := by
  induction cs with
  | nil => exact fun line hmem => absurd hmem List.not_mem_nil
  | cons c cs ih => exact consLines_isEnded ih

theorem consLines_last {c : Char} {text : List (List Char) × List Char} (h : '\n' ∉ text.2) :
    '\n' ∉ (consLines c text).2 := by
  obtain ⟨lines, last⟩ := text
  rw [consLines]
  split
  · exact h
  · rename_i hc
    cases lines with
    | nil =>
      rintro (_ | ⟨_, hmem⟩)
      · exact hc rfl
      · exact h hmem
    | cons first lines => exact h

theorem splitLines_last (cs : List Char) : '\n' ∉ (splitLines cs).2 := by
  induction cs with
  | nil => exact List.not_mem_nil
  | cons c cs ih => exact consLines_last ih

/-- What follows the last line feed, as the lines it is. -/
def lastLine (last : List Char) : List (List Char) := if last.isEmpty then [] else [last]

theorem linesOfWhole_eq (cs : List Char) :
    linesOfWhole cs =
      (splitLines (unifyLineEnds cs)).1 ++ lastLine (splitLines (unifyLineEnds cs)).2 := by
  simp only [linesOfWhole, lastLine]
  split
  · rw [List.append_nil]
  · rfl

/-- Lines that are ended, and a last one that is not, are the lines of the text they make up. -/
theorem areLines_of_isEnded {lines : List (List Char)} {last : List Char}
    (h : ∀ line ∈ lines, IsEnded line) (hlast : '\n' ∉ last) :
    AreLines (lines.flatten ++ last) (lines ++ lastLine last) := by
  have hline : ∀ line ∈ lines,
      line ≠ [] ∧ '\n' ∉ line.dropLast ∧ line.getLast? = some '\n' := by
    intro line hmem
    obtain ⟨front, hfront, rfl⟩ := h line hmem
    simpa using hfront
  cases last with
  | nil =>
    rw [show lastLine [] = [] from rfl, List.append_nil, List.append_nil]
    exact ⟨rfl, fun line hmem => (hline line hmem).1, fun line hmem => (hline line hmem).2.1,
      fun line hmem => (hline line (List.dropLast_subset _ hmem)).2.2⟩
  | cons c last =>
    rw [show lastLine (c :: last) = [c :: last] from rfl]
    refine ⟨by simp, ?_, ?_, ?_⟩
    · intro line hmem
      rcases List.mem_append.mp hmem with hmem | hmem
      · exact (hline line hmem).1
      · rw [List.mem_singleton.mp hmem]
        exact List.cons_ne_nil c last
    · intro line hmem
      rcases List.mem_append.mp hmem with hmem | hmem
      · exact (hline line hmem).2.1
      · rw [List.mem_singleton.mp hmem]
        exact fun hfeed => hlast (List.dropLast_subset _ hfeed)
    · intro line hmem
      rw [List.dropLast_concat] at hmem
      exact (hline line hmem).2.2

/-- What is delivered of a whole text are its lines. -/
theorem areLines_linesOfWhole (cs : List Char) : AreLines (translated cs) (linesOfWhole cs) := by
  have h := areLines_of_isEnded (splitLines_isEnded (unifyLineEnds cs))
    (splitLines_last (unifyLineEnds cs))
  rw [splitLines_flatten, ← linesOfWhole_eq, unifyLineEnds_eq_translated] at h
  exact h

/-! ## Texts that are made of lines -/

theorem unifyLineEnds_of_not_mem {cs : List Char} (h : '\r' ∉ cs) : unifyLineEnds cs = cs := by
  induction cs with
  | nil => rfl
  | cons c cs ih =>
    obtain ⟨hc, hcs⟩ := not_or.mp (mt List.mem_cons.mpr h)
    rw [unifyLineEnds_cons, if_neg fun heq => hc heq.symm, ih hcs]

theorem splitLines_append_of_isEnded {line : List Char} (h : IsEnded line) (rest : List Char) :
    splitLines (line ++ rest) = (line :: (splitLines rest).1, (splitLines rest).2) := by
  obtain ⟨front, hfront, rfl⟩ := h
  rw [List.append_assoc, List.singleton_append]
  induction front with
  | nil => rfl
  | cons c front ih =>
    obtain ⟨hc, hfront⟩ := not_or.mp (mt List.mem_cons.mpr hfront)
    rw [List.cons_append, splitLines_cons, ih hfront, consLines, if_neg fun heq => hc heq.symm]
    rfl

theorem splitLines_of_not_mem {cs : List Char} (h : '\n' ∉ cs) : splitLines cs = ([], cs) := by
  induction cs with
  | nil => rfl
  | cons c cs ih =>
    obtain ⟨hc, hcs⟩ := not_or.mp (mt List.mem_cons.mpr h)
    rw [splitLines_cons, ih hcs, consLines, if_neg fun heq => hc heq.symm]

/-- Lines that are ended are split from each other and from what follows the last of them. -/
theorem splitLines_flatten_append {lines : List (List Char)} {last : List Char}
    (h : ∀ line ∈ lines, IsEnded line) (hlast : '\n' ∉ last) :
    splitLines (lines.flatten ++ last) = (lines, last) := by
  induction lines with
  | nil => exact splitLines_of_not_mem hlast
  | cons line rest ih =>
    obtain ⟨hline, hrest⟩ := List.forall_mem_cons.mp h
    rw [List.flatten_cons, List.append_assoc, splitLines_append_of_isEnded hline, ih hrest]

/-- Lines that are ended, without carriage returns in them, are the lines of the text they make
up. -/
theorem linesOfWhole_flatten {lines : List (List Char)} (h : ∀ line ∈ lines, IsEnded line)
    (hreturn : ∀ line ∈ lines, '\r' ∉ line) : linesOfWhole lines.flatten = lines := by
  have hunify : unifyLineEnds lines.flatten = lines.flatten := by
    refine unifyLineEnds_of_not_mem fun hmem => ?_
    obtain ⟨line, hline, hc⟩ := List.mem_flatten.mp hmem
    exact hreturn line hline hc
  have hsplit : splitLines (lines.flatten ++ []) = (lines, []) :=
    splitLines_flatten_append h List.not_mem_nil
  rw [List.append_nil] at hsplit
  rw [linesOfWhole_eq, hunify, hsplit]
  exact List.append_nil lines

/-! ## Texts that break off -/

theorem consLines_isPrefix {c : Char} {text text' : List (List Char) × List Char}
    (h : text.1 <+: text'.1) : (consLines c text).1 <+: (consLines c text').1 := by
  obtain ⟨lines, last⟩ := text
  obtain ⟨lines', last'⟩ := text'
  obtain ⟨more, rfl⟩ := h
  rw [consLines, consLines]
  split
  · exact ⟨more, rfl⟩
  · cases lines with
    | nil => exact List.nil_prefix
    | cons line lines => exact ⟨more, rfl⟩

theorem splitLines_isPrefix (cs cs' : List Char) :
    (splitLines cs).1 <+: (splitLines (cs ++ cs')).1 := by
  induction cs with
  | nil => exact List.nil_prefix
  | cons c cs ih => exact consLines_isPrefix ih

/-- A carriage return that is left out at the end leaves no line end cut in two. -/
theorem exists_withoutLastReturn (cs : List Char) :
    ∃ rest, cs = withoutLastReturn cs ++ rest ∧ ∀ more,
      (withoutLastReturn cs).getLast? = some '\r' → (rest ++ more).head? ≠ some '\n' := by
  rw [withoutLastReturn]
  split
  · rename_i h
    obtain ⟨front, rfl⟩ := List.getLast?_eq_some_iff.mp h
    exact ⟨['\r'], by simp, by simp⟩
  · rename_i h
    exact ⟨[], by simp, fun more h' => absurd h' h⟩

/-- The lines before a text breaks off are the first of its lines. -/
theorem linesOfBroken_isPrefix (cs cs' : List Char) :
    linesOfBroken cs <+: linesOfWhole (cs ++ cs') := by
  obtain ⟨rest, hcs, hborder⟩ := exists_withoutLastReturn cs
  have happend : unifyLineEnds (cs ++ cs') =
      unifyLineEnds (withoutLastReturn cs) ++ unifyLineEnds (rest ++ cs') := by
    conv => lhs; rw [hcs, List.append_assoc]
    exact unifyLineEnds_append (hborder cs')
  rw [linesOfWhole_eq, happend]
  exact (splitLines_isPrefix _ _).trans (List.prefix_append _ _)

/-- The number of line ends of a text that breaks off. -/
def lineEnds : List Char → Nat
  | [] => 0
  | ['\r'] => 0
  | '\r' :: '\n' :: cs => lineEnds cs + 1
  | c :: cs => if c = '\r' ∨ c = '\n' then lineEnds cs + 1 else lineEnds cs

theorem length_splitLines (cs : List Char) : (splitLines cs).1.length = cs.count '\n' := by
  induction cs with
  | nil => rfl
  | cons c cs ih =>
    rw [splitLines_cons, consLines]
    split
    · rename_i hc
      rw [hc, List.count_cons_self, List.length_cons, ih]
    · rename_i hc
      rw [List.count_cons_of_ne hc, ← ih]
      cases (splitLines cs).1 <;> rfl

theorem withoutLastReturn_cons {c : Char} {cs : List Char} (h : c = '\r' → cs ≠ []) :
    withoutLastReturn (c :: cs) = c :: withoutLastReturn cs := by
  cases cs with
  | nil =>
    have hc : c ≠ '\r' := fun hc => h hc rfl
    simp [withoutLastReturn, hc]
  | cons c' cs =>
    rw [withoutLastReturn, withoutLastReturn, List.getLast?_cons_cons]
    split <;> rfl

/-- Leaving out the last carriage return does not bring a line feed to the front. -/
theorem head?_withoutLastReturn {cs : List Char} (h : cs.head? ≠ some '\n') :
    (withoutLastReturn cs).head? ≠ some '\n' := by
  obtain ⟨rest, hcs, -⟩ := exists_withoutLastReturn cs
  intro hhead
  obtain ⟨front, hfront⟩ := List.head?_eq_some_iff.mp hhead
  rw [hcs, hfront] at h
  exact h rfl

theorem count_unifyLineEnds (cs : List Char) :
    (unifyLineEnds (withoutLastReturn cs)).count '\n' = lineEnds cs := by
  fun_induction lineEnds cs with
  | case1 => rfl
  | case2 => rfl
  | case3 cs ih => simp [withoutLastReturn_cons, unifyLineEnds_cons, ih]
  | case4 c cs hlast hfeed hc ih =>
    have hne : c = '\r' → cs ≠ [] := fun hc hnil => hlast hc hnil
    rw [withoutLastReturn_cons hne, unifyLineEnds_cons]
    rcases hc with rfl | rfl
    · have hhead : cs.head? ≠ some '\n' := by
        intro h
        obtain ⟨rest, rfl⟩ := List.head?_eq_some_iff.mp h
        exact hfeed rest rfl rfl
      rw [if_pos rfl, if_neg (head?_withoutLastReturn hhead), List.count_cons_self, ih]
    · rw [if_neg (by decide), List.count_cons_self, ih]
  | case5 c cs hlast hfeed hc ih =>
    obtain ⟨hreturn, hline⟩ := not_or.mp hc
    rw [withoutLastReturn_cons fun h => absurd h hreturn, unifyLineEnds_cons, if_neg hreturn,
      List.count_cons_of_ne hline, ih]

/-- A text that breaks off has as many lines as line ends. -/
theorem length_linesOfBroken (cs : List Char) : (linesOfBroken cs).length = lineEnds cs := by
  rw [linesOfBroken, length_splitLines, count_unifyLineEnds]

end Text

end Vicinity
