import Vicinity.Path
import Vicinity.Proofs.Text.Tokens

/-!
# Normal forms of paths

A path has slashes at its beginning and components, and its normal form is made of these and says
them again (`Path.root_normalizedChars`, `Path.components_normalizedChars`). So paths have the
same normal form if and only if they have the same slashes and components
(`Path.normalized_eq_iff`), and a normal form is its own (`Path.normalized_normalized`).
-/

namespace Vicinity

namespace Path

open Text

/-! ## Components -/

theorem components_slash (cs : List Char) : components ('/' :: cs) = components cs := by
  rw [components, splitAt_cons_separator, List.filter_cons_of_neg (by decide), components]

theorem of_mem_components {cs c : List Char} (h : c ∈ components cs) :
    c ≠ [] ∧ c ≠ ['.'] ∧ '/' ∉ c := by
  obtain ⟨hsplit, hcomponent⟩ := List.mem_filter.mp h
  rw [isComponent, Bool.and_eq_true, decide_eq_true_eq, decide_eq_true_eq] at hcomponent
  exact ⟨hcomponent.1, hcomponent.2, not_mem_of_mem_splitAt hsplit⟩

theorem join_eq_intercalate (cs : List (List Char)) : join cs = ['/'].intercalate cs := by
  induction cs with
  | nil => rfl
  | cons c cs ih =>
    cases cs with
    | nil => simp [join]
    | cons d cs => rw [join.eq_3 _ _ (List.cons_ne_nil d cs), ih, List.intercalate_cons_cons]; simp

/-- Components that are joined are found again. -/
theorem splitAt_join {cs : List (List Char)} (hne : cs ≠ []) (h : ∀ c ∈ cs, '/' ∉ c) :
    splitAt '/' (join cs) = cs := by
  rw [join_eq_intercalate, splitAt_eq_splitOn, List.splitOn_intercalate '/' h hne]

/-- The pieces of a path, joined again, are the path. -/
theorem join_splitAt (path : List Char) : join (splitAt '/' path) = path := by
  rw [join_eq_intercalate, intercalate_splitAt]

theorem components_join_components (path : List Char) :
    components (join (components path)) = components path := by
  by_cases hnil : components path = []
  · rw [hnil]
    rfl
  · have hkept : ∀ c ∈ components path, isComponent c := fun c hc => (List.mem_filter.mp hc).2
    have hpieces := splitAt_join hnil fun c hc => (of_mem_components hc).2.2
    rw [components, hpieces, List.filter_eq_self.mpr hkept]

/-! ## Slashes at the beginning -/

theorem root_eq (path : List Char) :
    root path = ['/'] ∨ root path = ['/', '/'] ∨ root path = [] := by
  rw [root.eq_def]
  split <;> simp

/-- A path is its slashes and a rest with the same components. -/
theorem exists_root_append (path : List Char) :
    ∃ rest, root path ++ rest = path ∧ components rest = components path := by
  rw [root.eq_def]
  split
  · exact ⟨_, rfl, (components_slash _).symm⟩
  · exact ⟨_, rfl, by rw [components_slash, components_slash]⟩
  · exact ⟨_, rfl, (components_slash _).symm⟩
  · exact ⟨path, rfl, rfl⟩

/-- Joined components do not begin with a slash. -/
theorem head?_join_ne {cs : List (List Char)} (h : ∀ c ∈ cs, c ≠ [] ∧ '/' ∉ c) :
    ∀ c ∈ (join cs).head?, c ≠ '/' := by
  match cs with
  | [] => simp [join]
  | [c] =>
    obtain ⟨-, hslash⟩ := h c List.mem_cons_self
    rintro d hd rfl
    exact hslash (List.mem_of_mem_head? hd)
  | c :: d :: cs =>
    obtain ⟨hne, hslash⟩ := h c List.mem_cons_self
    rw [join.eq_3 _ _ (List.cons_ne_nil d cs), List.head?_append_of_ne_nil _ hne]
    rintro d hd rfl
    exact hslash (List.mem_of_mem_head? hd)

/-- The slashes are found again before what does not continue them. -/
theorem root_append (path : List Char) {rest : List Char} (h : ∀ c ∈ rest.head?, c ≠ '/') :
    root (root path ++ rest) = root path := by
  have hne (tail : List Char) : rest ≠ '/' :: tail := fun heq => h '/' (by rw [heq]; rfl) rfl
  have hnone : root rest = [] := root.eq_4 rest (fun _ => hne _) (fun _ => hne _) hne
  have hone : root ('/' :: rest) = ['/'] := root.eq_3 rest (fun _ => hne _) hne
  have htwo : root ('/' :: '/' :: rest) = ['/', '/'] := root.eq_2 rest hne
  obtain hp | hp | hp := root_eq path <;> rw [hp]
  exacts [hone, htwo, hnone]

theorem components_root_append (path cs : List Char) :
    components (root path ++ cs) = components cs := by
  rw [root.eq_def]
  split
  · exact components_slash cs
  · exact (components_slash _).trans (components_slash cs)
  · exact components_slash cs
  · rfl

/-! ## Normal forms -/

theorem normalizedChars_eq (path : List Char) :
    normalizedChars path = root path ++ join (components path) ∨
      normalizedChars path = ['.'] ∧ root path = [] ∧ components path = [] := by
  rw [normalizedChars]
  split
  · rename_i hnil
    obtain ⟨hroot, hjoin⟩ := List.append_eq_nil_iff.mp hnil
    refine .inr ⟨rfl, hroot, ?_⟩
    rw [← components_join_components, hjoin]
    rfl
  · exact .inl rfl

/-- A normal form begins with the same slashes. -/
theorem root_normalizedChars (path : List Char) : root (normalizedChars path) = root path := by
  have hhead : ∀ c ∈ (join (components path)).head?, c ≠ '/' :=
    head?_join_ne fun c hc => ⟨(of_mem_components hc).1, (of_mem_components hc).2.2⟩
  obtain h | ⟨h, hroot, -⟩ := normalizedChars_eq path
  · rw [h, root_append path hhead]
  · rw [h, hroot]
    rfl

/-- A normal form has the same components. -/
theorem components_normalizedChars (path : List Char) :
    components (normalizedChars path) = components path := by
  obtain h | ⟨h, -, hcomponents⟩ := normalizedChars_eq path
  · rw [h, components_root_append, components_join_components]
  · rw [h, hcomponents]
    rfl

theorem normalizedChars_ne_nil (path : List Char) : normalizedChars path ≠ [] := by
  rw [normalizedChars]
  split
  · simp
  · assumption

/-- Paths have the same normal form if and only if they begin with the same slashes and have the
same components. -/
theorem normalized_eq_iff {path path' : String} : normalized path = normalized path' ↔
    root path.toList = root path'.toList ∧ components path.toList = components path'.toList := by
  rw [normalized, normalized, String.ofList_inj]
  constructor
  · intro h
    rw [← root_normalizedChars path.toList, ← components_normalizedChars path.toList, h,
      root_normalizedChars, components_normalizedChars]
    exact ⟨rfl, rfl⟩
  · rintro ⟨hroot, hcomponents⟩
    rw [normalizedChars, normalizedChars, hroot, hcomponents]

/-- A normal form is its own. -/
theorem normalized_normalized (path : String) : normalized (normalized path) = normalized path := by
  rw [normalized_eq_iff, normalized, String.toList_ofList]
  exact ⟨root_normalizedChars _, components_normalizedChars _⟩

theorem normalized_ne_empty (path : String) : normalized path ≠ "" := by
  have hne := normalizedChars_ne_nil path.toList
  rw [normalized]
  exact fun h => hne (by simpa using congrArg String.toList h)

end Path

end Vicinity
