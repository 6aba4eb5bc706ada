import Mathlib.Data.List.DropRight
import Vicinity.Text.Tokens

/-!
# Tokens of a line

The tokens of a line contain no spaces, and the last one is not empty (`Text.AreTokens`). Joined by
single spaces they are the line without the spaces at its end, and any such tokens are those of the
line that they make (`Text.tokens_joined`). So labels that are not empty and contain no space are
the tokens of a line that is joined of them (`Text.tokens_intercalate`). Without carriage returns
and line feeds in them nothing but its end is taken off the line (`Text.withoutLineEnd_append`). No
other character matters.

Spaces at the end of a line, and whatever line ends come after them, make no difference to its
tokens (`Text.tokens_of_pads`).
-/

namespace Vicinity

namespace Text

/-! ## Characters -/

theorem contains_eq_false {s : String} {c : Char} (h : c ∉ s.toList) : s.contains c = false := by
  rwa [String.contains_char_eq, decide_eq_false_iff_not]

theorem splitAt_cons (separator c : Char) (cs : List Char) :
    splitAt separator (c :: cs) = consPiece separator c (splitAt separator cs) := rfl

theorem splitAt_eq_splitOn (separator : Char) (cs : List Char) :
    splitAt separator cs = cs.splitOn separator := by
  induction cs with
  | nil => rfl
  | cons c cs ih =>
    have hcons : (c :: cs).splitOn separator =
        if c = separator then [] :: cs.splitOn separator
        else (cs.splitOn separator).modifyHead (List.cons c) := by
      simp only [List.splitOn, List.splitOnP_cons_eq_if_modifyHead, beq_iff_eq]
    rw [splitAt_cons, ih, hcons]
    cases hpieces : cs.splitOn separator with
    | nil => exact absurd hpieces (List.splitOnP_ne_nil _ cs)
    | cons piece pieces => rfl

theorem splitAt_ne_nil (separator : Char) (cs : List Char) : splitAt separator cs ≠ [] := by
  rw [splitAt_eq_splitOn]
  exact List.splitOnP_ne_nil _ cs

theorem dropEnd_eq_self {α : Type} {p : α → Bool} {items : List α} (h : ∀ a ∈ items, ¬ p a) :
    dropEnd p items = items :=
  List.rdropWhile_eq_self_iff.mpr fun hne => h _ (List.getLast_mem hne)

theorem dropEnd_append {α : Type} {p : α → Bool} (items : List α) {ends : List α}
    (h : ∀ a ∈ ends, p a) : dropEnd p (items ++ ends) = dropEnd p items := by
  rw [dropEnd, List.reverse_append, List.dropWhile_append_of_pos (by simpa using h), dropEnd]

theorem splitAt_cons_separator (separator : Char) (cs : List Char) :
    splitAt separator (separator :: cs) = [] :: splitAt separator cs := if_pos rfl

theorem not_mem_of_mem_splitAt {separator : Char} {cs piece : List Char}
    (h : piece ∈ splitAt separator cs) : separator ∉ piece := by
  induction cs generalizing piece with
  | nil =>
    rw [splitAt, List.foldr_nil, List.mem_singleton] at h
    simp [h]
  | cons c cs ih =>
    rw [splitAt_cons, consPiece.eq_def] at h
    split at h
    · rcases List.mem_cons.mp h with rfl | h
      · simp
      · exact ih h
    · rename_i hc
      split at h
      · rw [List.mem_singleton] at h
        simpa [h] using Ne.symm hc
      · rename_i first pieces hpieces
        rcases List.mem_cons.mp h with rfl | h
        · have hfirst := ih (hpieces ▸ List.mem_cons_self)
          simpa [Ne.symm hc] using hfirst
        · exact ih (hpieces ▸ List.mem_cons_of_mem _ h)

/-- The pieces of a text, joined again, are the text. -/
theorem intercalate_splitAt (separator : Char) (cs : List Char) :
    [separator].intercalate (splitAt separator cs) = cs := by
  rw [splitAt_eq_splitOn, List.intercalate_splitOn]

/-- The last piece is not empty if there is no separator at the end. -/
theorem getLast?_splitAt_ne {separator c : Char} (h : c ≠ separator) (cs : List Char) :
    (splitAt separator (cs ++ [c])).getLast? ≠ some [] := by
  induction cs with
  | nil => simp [splitAt, consPiece, h]
  | cons d cs ih =>
    obtain ⟨piece, pieces, hpieces⟩ :=
      List.exists_cons_of_ne_nil (splitAt_ne_nil separator (cs ++ [c]))
    rw [List.cons_append, splitAt_cons, consPiece.eq_def, hpieces]
    rw [hpieces] at ih
    split
    · rwa [List.getLast?_cons_cons]
    · cases pieces with
      | nil => simp
      | cons piece' pieces => rwa [List.getLast?_cons_cons] at ih ⊢

theorem splitAt_replicate (separator : Char) (n : Nat) :
    splitAt separator (List.replicate n separator) = List.replicate (n + 1) [] := by
  induction n with
  | zero => rfl
  | succ n ih =>
    rw [List.replicate_succ, splitAt_cons_separator, ih]
    rfl

/-- Separators at the end have empty pieces after them. -/
theorem splitAt_append_replicate (separator : Char) (cs : List Char) (n : Nat) :
    splitAt separator (cs ++ List.replicate n separator) =
      splitAt separator cs ++ List.replicate n [] := by
  cases n with
  | zero => simp
  | succ n =>
    have hcut : (cs ++ separator :: List.replicate n separator).splitOn separator =
        cs.splitOn separator ++ (List.replicate n separator).splitOn separator :=
      List.splitOnP_append_cons _ _ (beq_self_eq_true separator)
    rw [List.replicate_succ, splitAt_eq_splitOn, hcut, ← splitAt_eq_splitOn, ← splitAt_eq_splitOn,
      splitAt_replicate]

theorem mem_intercalate_singleton {α : Type} {a d : α} {pieces : List (List α)}
    (h : a ∈ [d].intercalate pieces) : a = d ∨ ∃ piece ∈ pieces, a ∈ piece := by
  induction pieces with
  | nil => cases h
  | cons piece rest ih =>
    cases rest with
    | nil =>
      rw [List.intercalate_singleton] at h
      exact .inr ⟨piece, List.mem_cons_self, h⟩
    | cons piece' rest =>
      rw [List.intercalate_cons_cons, List.mem_append, List.mem_append, List.mem_singleton] at h
      obtain (h | h) | h := h
      · exact .inr ⟨piece, List.mem_cons_self, h⟩
      · exact .inl h
      · obtain h | ⟨piece'', hmem, hc⟩ := ih h
        · exact .inl h
        · exact .inr ⟨piece'', List.mem_cons_of_mem _ hmem, hc⟩

/-- What holds of the characters of some texts and of a separator holds of those that are joined. -/
theorem forall_mem_intercalate {separator : String} {c : Char}
    (hseparator : separator.toList = [c]) {p : Char → Prop} (hc : p c) {pieces : List String}
    (h : ∀ piece ∈ pieces, ∀ d ∈ piece.toList, p d) :
    ∀ d ∈ (separator.intercalate pieces).toList, p d := by
  intro d hd
  rw [String.toList_intercalate, hseparator] at hd
  obtain rfl | ⟨piece, hpiece, hd⟩ := mem_intercalate_singleton hd
  · exact hc
  · obtain ⟨piece, hmem, rfl⟩ := List.mem_map.mp hpiece
    exact h piece hmem d hd

/-- Texts that are joined are split again. -/
theorem splitAt_intercalate {separator : String} {c : Char} (hseparator : separator.toList = [c])
    {pieces : List String} (hne : pieces ≠ []) (h : ∀ piece ∈ pieces, c ∉ piece.toList) :
    splitAt c (separator.intercalate pieces).toList = pieces.map String.toList := by
  rw [splitAt_eq_splitOn, String.toList_intercalate, hseparator]
  exact List.splitOn_intercalate c (List.forall_mem_map.mpr h) (by simpa using hne)

/-! ## Tokens -/

/-- What a line is split into : no token contains a space, and the last one is not empty. The others
can be. -/
structure AreTokens (ts : List String) : Prop where
  not_mem : ∀ t ∈ ts, ' ' ∉ t.toList
  last_ne_empty : ts.getLast? ≠ some ""

/-- A text with a number of spaces after it. -/
def padded (body : String) (n : Nat) : String := body ++ String.ofList (List.replicate n ' ')

/-- The text without the spaces at its end. -/
def withoutSpaces (s : String) : String := String.ofList (s.toList.rdropWhile (· = ' '))

theorem exists_padded_withoutSpaces (s : String) : ∃ n, s = padded (withoutSpaces s) n := by
  refine ⟨(s.toList.rtakeWhile (· = ' ')).length, ?_⟩
  have hspaces : s.toList.rtakeWhile (· = ' ') =
      List.replicate (s.toList.rtakeWhile (· = ' ')).length ' ' :=
    List.eq_replicate_of_mem fun c hc => by simpa using List.mem_rtakeWhile_imp hc
  rw [padded, withoutSpaces, ← hspaces, ← String.ofList_append, List.rdropWhile_append_rtakeWhile,
    String.ofList_toList]

theorem dropEnd_isEmpty {pieces : List (List Char)} (h : pieces.getLast? ≠ some []) :
    dropEnd List.isEmpty pieces = pieces := by
  refine List.rdropWhile_eq_self_iff.mpr fun hne hempty => h ?_
  rw [List.getLast?_eq_some_getLast hne, List.isEmpty_iff.mp hempty]

theorem getLast?_tokenChars_ne (cs : List Char) : (tokenChars cs).getLast? ≠ some [] := by
  intro hlast
  have hne : tokenChars cs ≠ [] := by
    intro hnil
    rw [hnil] at hlast
    cases hlast
  refine List.rdropWhile_last_not List.isEmpty (splitAt ' ' cs) hne ?_
  exact List.isEmpty_iff.mpr ((List.getLast_eq_iff_getLast?_eq_some hne).mpr hlast)

theorem tokenChars_append_replicate (cs : List Char) (n : Nat) :
    tokenChars (cs ++ List.replicate n ' ') = tokenChars cs := by
  have hempty : ∀ piece ∈ List.replicate n ([] : List Char), piece.isEmpty := by
    intro piece hpiece
    rw [List.eq_of_mem_replicate hpiece]
    rfl
  rw [tokenChars, splitAt_append_replicate, dropEnd_append _ hempty, tokenChars]

theorem intercalate_tokenChars (cs : List Char) :
    [' '].intercalate (tokenChars cs) = cs.rdropWhile (· = ' ') := by
  induction cs using List.reverseRecOn with
  | nil => rfl
  | append_singleton cs c ih =>
    rw [List.rdropWhile_concat]
    by_cases hc : c = ' '
    · rw [if_pos (decide_eq_true hc), ← ih, hc]
      exact congrArg _ (tokenChars_append_replicate cs 1)
    · rw [if_neg (by simpa using hc), tokenChars, dropEnd_isEmpty (getLast?_splitAt_ne hc cs),
        intercalate_splitAt]

/-- Spaces at the end of a line make no difference to its tokens. -/
theorem tokens_padded (body : String) (n : Nat) : tokens (padded body n) = tokens body := by
  rw [padded, tokens, String.toList_append, String.toList_ofList, tokenChars_append_replicate,
    tokens]

theorem areTokens_tokens (line : String) : AreTokens (tokens line) where
  not_mem := by
    intro t ht
    obtain ⟨piece, hpiece, rfl⟩ := List.mem_map.mp ht
    rw [String.toList_ofList]
    exact not_mem_of_mem_splitAt ((List.rdropWhile_prefix _ _).subset hpiece)
  last_ne_empty := by
    intro hlast
    rw [tokens, List.getLast?_map, Option.map_eq_some_iff] at hlast
    obtain ⟨piece, hpiece, hempty⟩ := hlast
    rw [String.ofList_eq_empty_iff.mp hempty] at hpiece
    exact getLast?_tokenChars_ne line.toList hpiece

/-- The tokens of a line, joined again, are the line without the spaces at its end. -/
theorem intercalate_tokens (line : String) :
    " ".intercalate (tokens line) = withoutSpaces line := by
  have htexts : (tokens line).map String.toList = tokenChars line.toList := by
    simp [tokens, Function.comp_def]
  have hspace : " ".toList = [' '] := rfl
  rw [← String.toList_inj, String.toList_intercalate, htexts, hspace, intercalate_tokenChars,
    withoutSpaces, String.toList_ofList]

/-- Tokens that are joined are the tokens of the line they make. -/
theorem tokens_of_areTokens {ts : List String} (h : AreTokens ts) :
    tokens (" ".intercalate ts) = ts := by
  by_cases hne : ts = []
  · rw [hne]
    rfl
  have hlast : (ts.map String.toList).getLast? ≠ some [] := by
    intro hlast
    rw [List.getLast?_map, Option.map_eq_some_iff] at hlast
    obtain ⟨t, ht, hempty⟩ := hlast
    rw [String.toList_eq_nil_iff.mp hempty] at ht
    exact h.last_ne_empty ht
  rw [tokens, tokenChars, splitAt_intercalate rfl hne h.not_mem, dropEnd_isEmpty hlast,
    List.map_map]
  simp [Function.comp_def]

/-- To split a line is the inverse of joining its tokens by single spaces, up to spaces at the end.

- No token of a line contains a space, the last one is not empty, and joined they are the line
  without the spaces at its end.
- Any tokens of this kind are those of the line that they make, whatever spaces come after it.
- Lines have the same tokens if and only if they differ in nothing but the spaces at their ends. -/
theorem tokens_joined :
    (∀ line, AreTokens (tokens line) ∧ " ".intercalate (tokens line) = withoutSpaces line) ∧
      (∀ ts n, AreTokens ts → tokens (padded (" ".intercalate ts) n) = ts) ∧
      ∀ line line', tokens line = tokens line' ↔
        ∃ body m n, line = padded body m ∧ line' = padded body n := by
  refine ⟨fun line => ⟨areTokens_tokens line, intercalate_tokens line⟩, fun ts n h => ?split,
    fun line line' => ⟨fun h => ?same, ?padded⟩⟩
  case split => rw [tokens_padded, tokens_of_areTokens h]
  case same =>
    obtain ⟨m, hm⟩ := exists_padded_withoutSpaces line
    obtain ⟨n, hn⟩ := exists_padded_withoutSpaces line'
    rw [← intercalate_tokens] at hm hn
    exact ⟨_, m, n, hm, h ▸ hn⟩
  case padded =>
    rintro ⟨body, m, n, rfl, rfl⟩
    rw [tokens_padded, tokens_padded]

/-- Tokens of which the first one and an inner one are empty, and one begins with a tab. -/
def spacedTokens : List String := ["", "a", "", "\tb"]

theorem tokens_joined_spaced :
    AreTokens spacedTokens ∧ tokens (padded (" ".intercalate spacedTokens) 2) = spacedTokens ∧
      withoutSpaces " a  \tb  " = " a  \tb" ∧ tokens " a  \tb  " = tokens " a  \tb" ∧
      tokens "  " = tokens "" := by
  obtain ⟨-, hsplit, hsame⟩ := tokens_joined
  have htokens : AreTokens spacedTokens := ⟨by decide, by decide⟩
  exact ⟨htokens, hsplit spacedTokens 2 htokens, by decide +kernel,
    (hsame _ _).mpr ⟨" a  \tb", 2, 0, by decide +kernel, by decide +kernel⟩,
    (hsame _ _).mpr ⟨"", 2, 0, by decide +kernel, by decide +kernel⟩⟩

/-! ## Labels in a line -/

/-- What a label must be to stand in a line : not empty, and without spaces and line ends. -/
structure IsToken (label : String) : Prop where
  ne_empty : label ≠ ""
  not_mem : ∀ c ∈ label.toList, c ≠ ' ' ∧ c ≠ '\r' ∧ c ≠ '\n'

/-- A line that is joined of labels is split into them. -/
theorem tokens_intercalate {labels : List String} (h : ∀ label ∈ labels, IsToken label) :
    tokens (" ".intercalate labels) = labels :=
  tokens_of_areTokens
    { not_mem := fun label hlabel hc => ((h label hlabel).not_mem _ hc).1 rfl
      last_ne_empty := fun hlast => (h "" (List.mem_of_getLast? hlast)).ne_empty rfl }

/-- A line that is joined of labels has no line end in it. -/
theorem not_mem_intercalate {labels : List String} (h : ∀ label ∈ labels, IsToken label) :
    ∀ c ∈ (" ".intercalate labels).toList, c ≠ '\r' ∧ c ≠ '\n' :=
  forall_mem_intercalate rfl (by decide) fun label hlabel c hc => ((h label hlabel).not_mem c hc).2

/-! ## Line ends -/

/-- The characters of a line without its end : no line end is among them. -/
def IsBody (cs : List Char) : Prop := ∀ c ∈ cs, c ≠ '\r' ∧ c ≠ '\n'

/-- The line ends are taken off, and nothing else. -/
theorem withoutLineEnd_append {line ends : String} (h : IsBody line.toList)
    (hends : ∀ c ∈ ends.toList, c = '\r' ∨ c = '\n') : withoutLineEnd (line ++ ends) = line := by
  have hoff : dropEnd (fun c => c = '\n' || c = '\r') (line.toList ++ ends.toList) =
      dropEnd (fun c => c = '\n' || c = '\r') line.toList :=
    dropEnd_append line.toList fun c hc => by simpa [or_comm] using hends c hc
  have hline : dropEnd (fun c => c = '\n' || c = '\r') line.toList = line.toList :=
    dropEnd_eq_self fun c hc => by simp [(h c hc).1, (h c hc).2]
  rw [withoutLineEnd, String.toList_append]
  exact (congrArg String.ofList (hoff.trans hline)).trans String.ofList_toList

/-- The line is the body with any number of spaces and any line ends after it. -/
def Pads (body line : String) : Prop :=
  ∃ n ends, (∀ c ∈ ends, c = '\r' ∨ c = '\n') ∧
    line = body ++ String.ofList (List.replicate n ' ') ++ String.ofList ends

/-- What is put after a body makes no difference to the tokens of the line. -/
theorem tokens_of_pads {body line : String} (hbody : IsBody body.toList) (h : Pads body line) :
    tokens (withoutLineEnd line) = tokens (withoutLineEnd body) := by
  obtain ⟨n, ends, hends, rfl⟩ := h
  have hplain : withoutLineEnd body = body := by
    have hempty : withoutLineEnd (body ++ "") = body := withoutLineEnd_append hbody (by simp)
    rwa [String.append_empty] at hempty
  have hspaces : IsBody (padded body n).toList := by
    intro c hc
    rw [padded, String.toList_append, String.toList_ofList] at hc
    obtain hc | hc := List.mem_append.mp hc
    · exact hbody c hc
    · rw [List.eq_of_mem_replicate hc]
      decide
  rw [← padded, withoutLineEnd_append hspaces (by simpa using hends), hplain, tokens_padded]

end Text

end Vicinity
