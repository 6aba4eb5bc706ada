import Mathlib.Data.Set.Defs
import Vicinity.Configuration

/-!
# File systems that differ in some files

File systems can have the same directories and differ in what lies under some names that are no
directories (`FileSystem.AgreesOutside`) : in the content of files, and in whether they are there.
A walk along a path asks which names are directories, so that it leads to the same names in both,
or to none in either (`FileSystem.locate_cases`). What lies under other names is then found and
read alike, and a configuration loaded alike (`Configuration.load_congr`).
-/

namespace Vicinity

namespace FileSystem

/-- The same lies under all names in two file systems, but for some names that are no directory in
either. -/
structure AgreesOutside (changed : Set (List String)) (fs fs' : FileSystem) : Prop where
  workingDirectory : fs'.workingDirectory = fs.workingDirectory
  find? : ∀ names ∉ changed, fs'.find? names = fs.find? names
  not_directory : ∀ names ∈ changed,
    fs.find? names ≠ some .directory ∧ fs'.find? names ≠ some .directory

/-- A path does not lead to any of some names. -/
def Avoids (changed : Set (List String)) (fs : FileSystem) (path : String) : Prop :=
  ∀ names, fs.locate path = .ok names → names ∉ changed

/-- A walk breaks off where something is no directory. -/
def BreaksOff {α : Type} (walk : Except OpenFault α) : Prop :=
  walk = .error .notFound ∨ walk = .error .notDirectory

variable {changed : Set (List String)} {fs fs' : FileSystem}

/-! ## Walking a path -/

theorem breaksOff_checkDirectory {names : List String}
    (h : fs.find? names ≠ some .directory) : BreaksOff (fs.checkDirectory names) := by
  rw [checkDirectory]
  split
  · exact absurd ‹_› h
  · exact .inr rfl
  · exact .inl rfl

theorem BreaksOff.bind {α β : Type} {walk : Except OpenFault α} (h : BreaksOff walk)
    (f : α → Except OpenFault β) : BreaksOff (walk >>= f) := by
  obtain rfl | rfl := h
  · exact .inl rfl
  · exact .inr rfl

theorem enter_cases (h : fs.AgreesOutside changed fs') (names : List String) (name : String) :
    fs'.enter names name = fs.enter names name ∨
      BreaksOff (fs.enter names name) ∧ BreaksOff (fs'.enter names name) := by
  by_cases hnames : names ∈ changed
  · obtain ⟨hdir, hdir'⟩ := h.not_directory names hnames
    exact .inr ⟨(breaksOff_checkDirectory hdir).bind _, (breaksOff_checkDirectory hdir').bind _⟩
  · refine .inl ?_
    rw [enter, enter, checkDirectory, checkDirectory, h.find? names hnames]

/-- A path leads to the same names in both, or breaks off in both. -/
theorem locate_cases (h : fs.AgreesOutside changed fs') (path : String) :
    fs'.locate path = fs.locate path ∨
      BreaksOff (fs.locate path) ∧ BreaksOff (fs'.locate path) := by
  have hwalk : ∀ (steps start : List String),
      steps.foldlM (enter fs') start = steps.foldlM (enter fs) start ∨
        BreaksOff (steps.foldlM (enter fs) start) ∧
          BreaksOff (steps.foldlM (enter fs') start) := by
    intro steps
    induction steps with
    | nil => exact fun _ => .inl rfl
    | cons name steps ih =>
      intro start
      rw [List.foldlM_cons, List.foldlM_cons]
      obtain henter | ⟨hbreak, hbreak'⟩ := enter_cases h start name
      · rw [henter]
        cases fs.enter start name with
        | error e => exact .inl rfl
        | ok next => exact ih next
      · exact .inr ⟨hbreak.bind _, hbreak'.bind _⟩
  have hstart : fs'.startOf path = fs.startOf path := by
    rw [startOf, startOf, h.workingDirectory]
  rw [locate, locate, hstart]
  split
  · exact .inl rfl
  split
  · exact .inl rfl
  · exact hwalk _ _

/-! ## Files -/

/-- Whether a path leads to anything is the same, unless it leads to what differs. -/
theorem exists?_congr (h : fs.AgreesOutside changed fs') {path : String}
    (hpath : fs.Avoids changed path) : fs'.exists? path = fs.exists? path := by
  obtain hlocate | ⟨hbreak, hbreak'⟩ := locate_cases h path
  · rw [exists?, exists?, hlocate]
    cases hto : fs.locate path with
    | error e => cases e <;> rfl
    | ok names => simp only [h.find? names (hpath names hto)]
  · rw [exists?, exists?]
    obtain hf | hf := hbreak <;> obtain hf' | hf' := hbreak' <;> rw [hf, hf']

/-- What is there is read alike, unless it is what differs. -/
theorem read_congr (h : fs.AgreesOutside changed fs') {path : String}
    (hpath : fs.Avoids changed path) (hexists : fs.exists? path = .ok true) :
    fs'.read path = fs.read path := by
  obtain hlocate | ⟨hbreak, -⟩ := locate_cases h path
  · rw [read, read, open?, open?, hlocate]
    cases hto : fs.locate path with
    | error e => rfl
    | ok names => simp only [h.find? names (hpath names hto)]
  · rw [exists?] at hexists
    obtain hf | hf := hbreak <;> rw [hf] at hexists <;> cases hexists

end FileSystem

/-! ## Configurations -/

/-- What lies under other names makes no difference to a configuration. -/
theorem Configuration.load_congr {changed : Set (List String)} {fs fs' : FileSystem}
    (h : fs.AgreesOutside changed fs') {path : String}
    (hpath : fs.Avoids changed (Path.normalized path)) :
    Configuration.load fs' path = Configuration.load fs path := by
  simp only [load, FileSystem.exists?_congr h hpath]
  split
  · rfl
  · rfl
  · rename_i htrue
    split at htrue
    · cases htrue
    · rw [FileSystem.read_congr h hpath htrue]

end Vicinity
