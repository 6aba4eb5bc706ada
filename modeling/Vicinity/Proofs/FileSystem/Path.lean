import Vicinity.Proofs.FileSystem
import Vicinity.Proofs.Path

/-!
# Where the normal form of a path leads

A path that leads somewhere leads there in its normal form too (`FileSystem.locate_normalized`) :
the names that the normal form leaves out lead nowhere else, and those that it adds, at its
beginning or for a path without components, are met where there is a directory. It is no longer
than the path (`Path.utf8ByteSize_normalized_le`).
-/

namespace Vicinity

open Text Vicinity.Path

/-! ## Sizes -/

namespace Path

theorem join_filter_sublist (p : List Char → Bool) (pieces : List (List Char)) :
    (join (pieces.filter p)).Sublist (join pieces) := by
  induction pieces with
  | nil => exact List.Sublist.refl _
  | cons piece pieces ih =>
    have htail : (join pieces).Sublist (join (piece :: pieces)) := by
      cases pieces with
      | nil => exact List.nil_sublist _
      | cons next pieces =>
        rw [join.eq_3 _ _ (List.cons_ne_nil next pieces)]
        exact (List.sublist_cons_self '/' _).trans (List.sublist_append_right piece _)
    rw [List.filter_cons]
    split
    · cases hkept : pieces.filter p with
      | nil =>
        cases pieces with
        | nil => exact List.Sublist.refl _
        | cons next pieces =>
          rw [join.eq_3 _ _ (List.cons_ne_nil next pieces)]
          exact List.sublist_append_left piece _
      | cons next kept =>
        have hne : pieces ≠ [] := by
          rintro rfl
          cases hkept
        rw [hkept] at ih
        rw [join.eq_3 _ _ (List.cons_ne_nil next kept), join.eq_3 _ _ hne]
        exact (ih.cons_cons '/').append_left piece
    · exact ih.trans htail

/-- A normal form has no characters but those of the path, unless it is a full stop. -/
theorem normalizedChars_sublist {path : List Char} (h : normalizedChars path ≠ ['.']) :
    (normalizedChars path).Sublist path := by
  obtain hn | ⟨hn, -⟩ := normalizedChars_eq path
  · obtain ⟨rest, hpath, hcomponents⟩ := exists_root_append path
    rw [hn, ← hcomponents]
    conv_rhs => rw [← hpath]
    have hrest := join_filter_sublist isComponent (splitAt '/' rest)
    rw [join_splitAt] at hrest
    exact hrest.append_left _
  · exact absurd hn h

theorem utf8ByteSize_le_of_sublist {cs cs' : List Char} (h : cs.Sublist cs') :
    (String.ofList cs).utf8ByteSize ≤ (String.ofList cs').utf8ByteSize := by
  have hcons (c : Char) (cs : List Char) :
      (String.ofList (c :: cs)).utf8ByteSize = c.utf8Size + (String.ofList cs).utf8ByteSize := by
    rw [← List.singleton_append, String.ofList_append, String.utf8ByteSize_append,
      ← String.singleton_eq_ofList, String.utf8ByteSize_singleton]
  induction h with
  | slnil => exact Nat.le_refl _
  | cons c _ ih =>
    rw [hcons]
    omega
  | cons_cons c _ ih =>
    rw [hcons, hcons]
    omega

theorem utf8ByteSize_normalized_le {path : String} (h : path ≠ "") :
    (normalized path).utf8ByteSize ≤ path.utf8ByteSize := by
  by_cases hstop : normalizedChars path.toList = ['.']
  · have hone : (normalized path).utf8ByteSize = 1 := by
      rw [normalized, hstop]
      rfl
    have hpos : path.utf8ByteSize ≠ 0 := by
      simpa using h
    omega
  · have hle := utf8ByteSize_le_of_sublist (normalizedChars_sublist hstop)
    rwa [String.ofList_toList] at hle

theorem contains_zero_normalized {path : String} (h : path.contains '\x00' = false) :
    (normalized path).contains '\x00' = false := by
  rw [String.contains_char_eq, decide_eq_false_iff_not] at h ⊢
  rw [normalized, String.toList_ofList]
  by_cases hstop : normalizedChars path.toList = ['.']
  · rw [hstop]
    decide
  · exact fun hmem => h ((normalizedChars_sublist hstop).subset hmem)

end Path

/-! ## Following pieces -/

namespace FileSystem

variable {fs : FileSystem} {start names : List String}

/-- Follow the pieces of a path. -/
def follow (fs : FileSystem) (start : List String) (pieces : List (List Char)) :
    Except OpenFault (List String) :=
  (pieces.map String.ofList).foldlM (enter fs) start

theorem follow_cons (fs : FileSystem) (start : List String) (piece : List Char)
    (pieces : List (List Char)) : fs.follow start (piece :: pieces) =
      (fs.enter start (String.ofList piece)).bind fun names => fs.follow names pieces := by
  rw [follow, List.map_cons, List.foldlM_cons]
  rfl

/-- A piece that is no component leads nowhere else. -/
theorem enter_of_not_isComponent {piece : List Char} (h : isComponent piece = false)
    (hdir : fs.checkDirectory start = .ok ()) :
    fs.enter start (String.ofList piece) = .ok start := by
  have hpiece : String.ofList piece = "" ∨ String.ofList piece = "." := by
    rw [isComponent, Bool.and_eq_false_iff, decide_eq_false_iff_not, decide_eq_false_iff_not,
      not_not, not_not] at h
    obtain rfl | rfl := h
    · exact .inl rfl
    · exact .inr rfl
  rw [enter, hdir]
  exact if_pos hpiece

theorem checkDirectory_of_enter {name : String} (h : fs.enter start name = .ok names) :
    fs.checkDirectory start = .ok () := by
  cases hcheck : fs.checkDirectory start with
  | error e =>
    rw [enter, hcheck] at h
    cases h
  | ok u => rfl

/-- Pieces that are no components can be left out. -/
theorem follow_filter {pieces : List (List Char)} (h : fs.follow start pieces = .ok names) :
    fs.follow start (pieces.filter isComponent) = .ok names := by
  induction pieces generalizing start with
  | nil => exact h
  | cons piece pieces ih =>
    rw [follow_cons] at h
    cases henter : fs.enter start (String.ofList piece) with
    | error e =>
      rw [henter] at h
      cases h
    | ok next =>
      rw [henter] at h
      cases hpiece : isComponent piece with
      | true =>
        rw [List.filter_cons_of_pos hpiece, follow_cons, henter]
        exact ih h
      | false =>
        rw [enter_of_not_isComponent hpiece (checkDirectory_of_enter henter)] at henter
        cases henter
        rw [List.filter_cons_of_neg (by simp [hpiece])]
        exact ih h

/-- The working directory, and each that it lies in, is a directory. -/
theorem checkDirectory_of_isPrefixOf (h : start.isPrefixOf fs.workingDirectory) :
    fs.checkDirectory start = .ok () :=
  checkDirectory_eq_ok_iff.mpr (if_pos h)

/-- Pieces that are no components are passed where there is a directory. -/
theorem follow_append {pieces : List (List Char)} (hdir : fs.checkDirectory start = .ok ())
    (h : ∀ piece ∈ pieces, isComponent piece = false) (rest : List (List Char)) :
    fs.follow start (pieces ++ rest) = fs.follow start rest := by
  induction pieces with
  | nil => rfl
  | cons piece pieces ih =>
    obtain ⟨hpiece, hpieces⟩ := List.forall_mem_cons.mp h
    rw [List.cons_append, follow_cons, enter_of_not_isComponent hpiece hdir]
    exact ih hpieces

/-! ## Paths as pieces -/

/-- Where a path starts. -/
def startOfRoot (fs : FileSystem) (path : List Char) : List String :=
  if root path = [] then fs.workingDirectory else []

/-- The pieces of a path after its start. -/
def piecesOf (path : List Char) : List (List Char) :=
  if root path = [] then splitAt '/' path else splitAt '/' path.tail

theorem checkDirectory_startOfRoot (fs : FileSystem) (path : List Char) :
    fs.checkDirectory (fs.startOfRoot path) = .ok () := by
  refine checkDirectory_of_isPrefixOf ?_
  rw [startOfRoot]
  split
  · simp
  · rfl

theorem root_eq_nil_iff (path : List Char) : root path = [] ↔ ∀ tail, path ≠ '/' :: tail := by
  rw [root.eq_def]
  split <;> simp_all

theorem startOf_eq {path : String} (h : path ≠ "") :
    fs.startOf path =
      (fs.startOfRoot path.toList, (piecesOf path.toList).map String.ofList) := by
  have hne : path.toList ≠ [] := by simpa using h
  rw [startOf, startOfRoot, piecesOf]
  by_cases hroot : root path.toList = []
  · rw [if_pos hroot, if_pos hroot]
    split
    · -- an empty first piece is what precedes a slash
      rename_i rest hsplit
      have hjoin := join_splitAt path.toList
      rw [hsplit] at hjoin
      cases rest with
      | nil => exact absurd hjoin.symm hne
      | cons next rest =>
        rw [join.eq_3 _ _ (List.cons_ne_nil next rest), List.nil_append] at hjoin
        exact absurd hjoin.symm ((root_eq_nil_iff _).mp hroot _)
    · rfl
  · rw [if_neg hroot, if_neg hroot]
    rw [root_eq_nil_iff] at hroot
    push Not at hroot
    obtain ⟨tail, htail⟩ := hroot
    rw [htail, splitAt_cons_separator]
    rfl

theorem filter_piecesOf (path : List Char) :
    (piecesOf path).filter isComponent = components path := by
  rw [piecesOf]
  split
  · rfl
  · rename_i hroot
    rw [root_eq_nil_iff] at hroot
    push Not at hroot
    obtain ⟨tail, rfl⟩ := hroot
    exact (components_slash tail).symm

/-- The pieces of a normal form are the components of the path, after pieces that are none. -/
theorem exists_piecesOf_normalizedChars (path : List Char) : ∃ front,
    piecesOf (normalizedChars path) = front ++ components path ∧
      ∀ piece ∈ front, isComponent piece = false := by
  obtain ⟨front, hjoin, hfront⟩ : ∃ front,
      splitAt '/' (join (components path)) = front ++ components path ∧
        ∀ piece ∈ front, isComponent piece = false := by
    by_cases hnil : components path = []
    · rw [hnil]
      exact ⟨[[]], rfl, by decide⟩
    · exact ⟨[], splitAt_join hnil fun c hc => (of_mem_components hc).2.2, by simp⟩
  rw [piecesOf, root_normalizedChars]
  obtain hn | ⟨hn, hroot, hcomponents⟩ := normalizedChars_eq path
  · rw [hn]
    obtain hroot | hroot | hroot := root_eq path
    · rw [hroot, if_neg (List.cons_ne_nil _ _)]
      exact ⟨front, hjoin, hfront⟩
    · rw [hroot, if_neg (List.cons_ne_nil _ _)]
      exact ⟨[] :: front, (splitAt_cons_separator '/' _).trans (congrArg (List.cons []) hjoin),
        List.forall_mem_cons.mpr ⟨rfl, hfront⟩⟩
    · rw [hroot, if_pos rfl]
      exact ⟨front, hjoin, hfront⟩
  · rw [hn, hroot, hcomponents, if_pos rfl]
    exact ⟨[['.']], rfl, by decide⟩

/-- What a path leads to, its normal form leads to. -/
theorem locate_normalized {path : String} (h : fs.locate path = .ok names) :
    fs.locate (normalized path) = .ok names := by
  have hne : path ≠ "" := by
    rintro rfl
    cases h
  have hsize : ¬ maxPathSize ≤ path.utf8ByteSize := by
    intro hlong
    rw [locate, if_neg hne, if_pos hlong] at h
    cases h
  have hsize' : ¬ maxPathSize ≤ (normalized path).utf8ByteSize := by
    have hle := utf8ByteSize_normalized_le hne
    omega
  obtain ⟨front, hpieces, hfront⟩ := exists_piecesOf_normalizedChars path.toList
  have hstart : fs.startOfRoot (normalizedChars path.toList) = fs.startOfRoot path.toList := by
    rw [startOfRoot, startOfRoot, root_normalizedChars]
  have hfollow : fs.follow (fs.startOfRoot path.toList) (components path.toList) = .ok names := by
    rw [locate, if_neg hne, if_neg hsize, startOf_eq hne] at h
    rw [← filter_piecesOf]
    exact follow_filter h
  have hlocate : fs.follow (fs.startOfRoot (normalizedChars path.toList))
      (piecesOf (normalizedChars path.toList)) = .ok names := by
    rw [hstart, hpieces, follow_append (fs.checkDirectory_startOfRoot _) hfront]
    exact hfollow
  rw [locate, if_neg (normalized_ne_empty path), if_neg hsize',
    startOf_eq (normalized_ne_empty path), normalized, String.toList_ofList]
  exact hlocate

end FileSystem

end Vicinity
