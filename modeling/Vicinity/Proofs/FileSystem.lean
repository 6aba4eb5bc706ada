import Vicinity.FileSystem

/-!
# Reading what was written

A file that is written at a path is what is read there afterwards (`FileSystem.exists_write`). The
walk along the path only asks which names are directories, and the file takes the place of none
(`FileSystem.locate_put`).
-/

namespace Vicinity

namespace FileSystem

variable {fs : FileSystem} {names : List String} {node : Node}

theorem find?_put (fs : FileSystem) (names : List String) (node : Node) (other : List String) :
    (fs.put names node).find? other =
      if other.isPrefixOf fs.workingDirectory then some .directory
      else if other = names then some node else fs.find? other := by
  have hkept : ((fs.nodes.filter fun e => e.1 != names).find? fun e => e.1 == other) =
      if other = names then none else fs.nodes.find? fun e => e.1 == other := by
    rw [List.find?_filter]
    split
    · rename_i heq
      exact List.find?_eq_none.mpr (by simp [heq])
    · rename_i hne
      congr 1
      funext e
      by_cases he : e.1 = other <;> simp [he, hne]
  have hwork : (fs.put names node).workingDirectory = fs.workingDirectory := rfl
  have hnodes : (fs.put names node).nodes =
      (fs.nodes.filter fun e => e.1 != names) ++ [(names, node)] := rfl
  by_cases hprefix : other.isPrefixOf fs.workingDirectory
  · rw [find?, hwork, if_pos hprefix, if_pos hprefix]
  · rw [find?, hwork, if_neg hprefix, if_neg hprefix, hnodes, List.find?_append, hkept]
    by_cases heq : other = names
    · simp [heq]
    · rw [if_neg heq, if_neg heq, find?, if_neg hprefix]
      simp [Ne.symm heq]

/-! ## Walking a path -/

theorem checkDirectory_eq_ok_iff : fs.checkDirectory names = .ok () ↔
    fs.find? names = some .directory := by
  rw [checkDirectory]
  split <;> simp_all

/-- What was a directory stays one, if the node takes the place of none. -/
theorem checkDirectory_put (h : fs.find? names ≠ some .directory) {other : List String}
    (hother : fs.checkDirectory other = .ok ()) :
    (fs.put names node).checkDirectory other = .ok () := by
  rw [checkDirectory_eq_ok_iff] at hother ⊢
  have hne : other ≠ names := fun heq => h (heq ▸ hother)
  rw [find?_put, if_neg hne, hother, ite_self]

theorem enter_put (h : fs.find? names ≠ some .directory) {start names' : List String}
    {name : String} (hto : fs.enter start name = .ok names') :
    (fs.put names node).enter start name = .ok names' := by
  cases hcheck : fs.checkDirectory start with
  | error e =>
    rw [enter, hcheck] at hto
    cases hto
  | ok u =>
    rw [enter, hcheck] at hto
    rw [enter, checkDirectory_put h hcheck]
    exact hto

/-- A walk that succeeds is not changed by a node that takes the place of no directory. -/
theorem locate_put (h : fs.find? names ≠ some .directory) {path : String} {names' : List String}
    (hto : fs.locate path = .ok names') : (fs.put names node).locate path = .ok names' := by
  have hwalk : ∀ (steps start : List String), steps.foldlM (enter fs) start = .ok names' →
      steps.foldlM (enter (fs.put names node)) start = .ok names' := by
    intro steps
    induction steps with
    | nil => exact fun _ => id
    | cons name steps ih =>
      intro start hsteps
      rw [List.foldlM_cons] at hsteps ⊢
      cases henter : fs.enter start name with
      | error e =>
        rw [henter] at hsteps
        cases hsteps
      | ok next =>
        rw [henter] at hsteps
        rw [enter_put h henter]
        exact ih next hsteps
  by_cases hempty : path = ""
  · rw [locate, if_pos hempty] at hto
    cases hto
  by_cases hlong : maxPathSize ≤ path.utf8ByteSize
  · rw [locate, if_neg hempty, if_pos hlong] at hto
    cases hto
  rw [locate, if_neg hempty, if_neg hlong] at hto ⊢
  exact hwalk _ _ hto

/-! ## Files -/

theorem locate_of_locateNew {path : String} (h : fs.locateNew path = .ok names) :
    fs.locate path = .ok names ∧ fs.find? names ≠ some .directory := by
  rw [locateNew] at h
  split at h
  · rename_i names' hlocate
    split at h
    · cases h
    · rename_i hfree
      cases h
      exact ⟨hlocate, hfree⟩
  · split at h <;> cases h

/-- What is written lies where its path leads. -/
theorem locate_of_write {fs' : FileSystem} {path : String} (h : fs.write path node = .ok fs') :
    ∃ names, fs.locateNew path = .ok names ∧ fs' = fs.put names node ∧
      fs'.locate path = .ok names ∧ fs'.find? names = some node := by
  rw [write] at h
  split at h
  · cases h
  · rename_i names hnew
    cases h
    obtain ⟨hlocate, hfree⟩ := locate_of_locateNew hnew
    have hwork : ¬ names.isPrefixOf fs.workingDirectory := fun hp => hfree (if_pos hp)
    refine ⟨names, hnew, rfl, locate_put hfree hlocate, ?_⟩
    rw [find?_put, if_neg hwork, if_pos rfl]

/-- A file is written if its path leads to where a file can be, and is then what is read. -/
theorem exists_write {path : String} (h : fs.locateNew path = .ok names) (bytes : List UInt8) :
    ∃ fs', fs.write path (.file bytes) = .ok fs' ∧ fs'.read path = .ok bytes := by
  have hwrite : fs.write path (.file bytes) = .ok (fs.put names (.file bytes)) := by
    rw [write, h]
  obtain ⟨names', -, -, hlocate, hfind⟩ := locate_of_write hwrite
  exact ⟨_, hwrite, by simp only [read, open?, hlocate, hfind]⟩

end FileSystem

end Vicinity
