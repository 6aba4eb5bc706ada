import Vicinity.NeighborReader
import Vicinity.Proofs.Appends

/-!
# What a line does to a load

A line is told by its reading : what it appends to the store, what it adds to the counts, and
which labels it warns of. `Load.after` is a load with one more line of a given reading, and all
there is to say about loading a line is that the load comes to this, provided that the subject of
the line can be a key (`Load.line_eq_ok_iff`). So loading lines is a plain fold of `Load.after`
(`Load.lines_eq_ok_iff`), and what is known of the fold is known of loads : of where they stand
after the last line (`NeighborReader.loaded`), and of whether they give a store at all
(`NeighborReader.exists_result_loadLines_iff`). A line whose subject cannot be a key ends a load
between counting and storing (`Load.exists_of_lines_eq_error`).
-/

namespace Vicinity

/-! ## What a line adds -/

namespace LabelIndex

variable (index : LabelIndex)

/-- The tokens of a line, the subject first. -/
def tokensOfLine (line : String) : List String := Text.tokens (Text.withoutLineEnd line)

/-- The object that the first token of a line belongs to. -/
def subject? (line : String) : Option Value := (tokensOfLine line).head?.bind index.resolve?

/-- The objects that the tokens of a line belong to, from a position on. -/
def namedFrom (start : Nat) (line : String) : List Value :=
  ((tokensOfLine line).drop start).filterMap index.resolve?

/-- The position of the first token that counts as a neighbor. -/
def firstNeighbor (includeSubject : Bool) : Nat := if includeSubject then 0 else 1

/-- What a line appends to a store. -/
def append? (includeSubject : Bool) (line : String) : Option (Value × List Value) :=
  (index.subject? line).map fun s => (s, index.namedFrom (firstNeighbor includeSubject) line)

end LabelIndex

/-- Counts of two parts of a file, taken together. -/
instance : Add LoadStats where
  add a b :=
    { linesRead := a.linesRead + b.linesRead
      blankLines := a.blankLines + b.blankLines
      skippedLines := a.skippedLines + b.skippedLines
      resolvedNeighbors := a.resolvedNeighbors + b.resolvedNeighbors
      unresolvedNeighbors := a.unresolvedNeighbors + b.unresolvedNeighbors
      entries := a.entries + b.entries }

theorem LoadStats.add_assoc (a b c : LoadStats) : a + b + c = a + (b + c) := by
  change LoadStats.mk _ _ _ _ _ _ = LoadStats.mk _ _ _ _ _ _
  congr 1 <;> exact Nat.add_assoc ..

theorem LoadStats.zero_add (a : LoadStats) : {} + a = a := by
  change LoadStats.mk _ _ _ _ _ _ = LoadStats.mk _ _ _ _ _ _
  congr 1 <;> exact Nat.zero_add _

namespace LineReading

/-- What a reading appends to a store. -/
def append? : LineReading → Option (Value × List Value)
  | .entry subject neighbors _ => some (subject, neighbors)
  | .blank | .unknownSubject _ => none

/-- What a line of a reading adds to the counts. -/
def stats : LineReading → LoadStats
  | .blank => { linesRead := 1, blankLines := 1 }
  | .unknownSubject _ => { linesRead := 1, skippedLines := 1 }
  | .entry _ neighbors unresolved =>
    { linesRead := 1
      resolvedNeighbors := neighbors.length
      unresolvedNeighbors := unresolved.length }

/-- The warnings of a reading, on a line of a given number. -/
def warnings (lineNumber : Nat) : LineReading → List UnresolvedLabel
  | .blank => []
  | .unknownSubject label => [{ label, lineNumber, tokenIndex := 0, isSubject := true }]
  | .entry _ _ unresolved => unresolved.map fun t =>
    { label := t.1, lineNumber, tokenIndex := t.2, isSubject := false }

end LineReading

theorem filterMap_zipIdx (index : LabelIndex) (tokens : List String) (n : Nat) :
    ((tokens.zipIdx.drop n).filterMap fun t => index.resolve? t.1) =
      (tokens.drop n).filterMap index.resolve? := by
  have h : (tokens.zipIdx.drop n).map Prod.fst = tokens.drop n := by
    rw [List.map_drop, List.zipIdx_map_fst]
  rw [← h, List.filterMap_map]
  rfl

theorem append?_ofLine (index : LabelIndex) (includeSubject : Bool) (line : String) :
    (LineReading.ofLine index includeSubject line).append? = index.append? includeSubject line := by
  rw [LabelIndex.append?, LabelIndex.subject?, LabelIndex.namedFrom, LabelIndex.tokensOfLine,
    LineReading.ofLine]
  cases Text.tokens (Text.withoutLineEnd line) with
  | nil => rfl
  | cons first rest =>
    rw [List.head?_cons, Option.bind_some]
    cases h : index.resolve? first with
    | none => simp [LineReading.append?, h]
    | some s =>
      simp only [h, LineReading.append?, Option.map_some, filterMap_zipIdx]
      rfl

/-- The subject of a reading is the subject of its line. -/
theorem exists_append?_ofLine_iff (index : LabelIndex) (includeSubject : Bool) (line : String)
    (p : Value → Prop) :
    (∀ a ∈ (LineReading.ofLine index includeSubject line).append?, p a.1) ↔
      ∀ s ∈ index.subject? line, p s := by
  rw [append?_ofLine, LabelIndex.append?]
  cases index.subject? line <;> simp

/-! ## One line -/

/-- What is told of warnings. -/
def LoadOptions.told (options : LoadOptions) (warnings : List UnresolvedLabel) : List Event :=
  if options.logUnresolved then warnings.map .unresolved else []

theorem LoadOptions.told_append (options : LoadOptions) (us vs : List UnresolvedLabel) :
    options.told (us ++ vs) = options.told us ++ options.told vs := by
  unfold told
  split
  · exact List.map_append
  · rfl

namespace Load

variable {index : LabelIndex} (options : LoadOptions)

/-- The load with more warnings, which are told if the options say so. -/
def withWarnings (l : Load) (us : List UnresolvedLabel) : Load :=
  { l with warnings := l.warnings ++ us, events := l.events ++ options.told us }

/-- The load after one more line of a reading whose subject can be a key. -/
def after (l : Load) (r : LineReading) : Load :=
  { l.nextLine.withWarnings options (r.warnings (l.lineNumber + 1)) with
    stats := l.stats + r.stats
    store := r.append?.elim l.store l.store.append }

theorem withWarnings_nil (l : Load) : l.withWarnings options [] = l := by
  simp [withWarnings, LoadOptions.told]

theorem withWarnings_withWarnings (l : Load) (us vs : List UnresolvedLabel) :
    (l.withWarnings options us).withWarnings options vs = l.withWarnings options (us ++ vs) := by
  simp only [withWarnings, List.append_assoc, LoadOptions.told_append]

theorem warn_eq_withWarnings (l : Load) (label : String) (tokenIndex : Nat) (isSubject : Bool) :
    l.warn options label tokenIndex isSubject =
      l.withWarnings options [⟨label, l.lineNumber, tokenIndex, isSubject⟩] := by
  simp only [warn, withWarnings, LoadOptions.told]
  split <;> simp

theorem foldl_warn_eq_withWarnings (unresolved : List (String × Nat)) (l : Load) :
    unresolved.foldl (fun l t => l.warn options t.1 t.2 false) l =
      l.withWarnings options (unresolved.map fun t => ⟨t.1, l.lineNumber, t.2, false⟩) := by
  induction unresolved generalizing l with
  | nil => exact (withWarnings_nil options l).symm
  | cons t rest ih =>
    rw [List.foldl_cons, ih, warn_eq_withWarnings, withWarnings_withWarnings]
    rfl

/-- A reading is added to a load if its subject can be a key. -/
theorem read_of_isHashable (l : Load) {r : LineReading} (h : ∀ a ∈ r.append?, a.1.isHashable) :
    l.nextLine.read options r = .ok (l.after options r) := by
  cases r with
  | blank =>
    rw [after, LineReading.warnings, withWarnings_nil]
    rfl
  | unknownSubject label =>
    rw [read, warn_eq_withWarnings]
    rfl
  | entry subject neighbors unresolved =>
    have hs : subject.isHashable := h _ rfl
    simp only [read, foldl_warn_eq_withWarnings, NeighborStore.append?_of_isHashable _ _ hs]
    rfl

theorem isHashable_of_read {l l' : Load} {r : LineReading} (h : l.read options r = .ok l') :
    ∀ a ∈ r.append?, a.1.isHashable := by
  cases r with
  | blank => exact fun _ ha => nomatch ha
  | unknownSubject label => exact fun _ ha => nomatch ha
  | entry subject neighbors unresolved =>
    rintro _ ⟨⟩
    by_contra hs
    simp [read, NeighborStore.append?, hs] at h

/-- A line is added to a load if and only if its subject can be a key. -/
theorem line_eq_ok_iff {l l' : Load} {line : String} :
    Load.line index options l line = .ok l' ↔ (∀ s ∈ index.subject? line, s.isHashable) ∧
      l' = l.after options (LineReading.ofLine index options.includeSubject line) := by
  rw [← exists_append?_ofLine_iff index options.includeSubject line (Value.isHashable · = true),
    Load.line]
  constructor
  · intro h
    have hs := isHashable_of_read options h
    rw [read_of_isHashable options l hs] at h
    exact ⟨hs, (Except.ok.inj h).symm⟩
  · rintro ⟨hs, rfl⟩
    exact read_of_isHashable options l hs

/-! ## All lines -/

/-- The load after more lines whose subjects can be keys. -/
def afterLines (index : LabelIndex) (l : Load) (lines : List String) : Load :=
  lines.foldl (fun l line => l.after options (LineReading.ofLine index options.includeSubject line))
    l

theorem afterLines_cons (index : LabelIndex) (l : Load) (line : String) (rest : List String) :
    l.afterLines options index (line :: rest) =
      (l.after options (LineReading.ofLine index options.includeSubject line)).afterLines options
        index rest :=
  rfl

/-- Lines are added to a load if and only if their subjects can be keys. -/
theorem lines_eq_ok_iff {lines : List String} {l l' : Load} :
    Load.lines index options l lines = .ok l' ↔
      (∀ line ∈ lines, ∀ s ∈ index.subject? line, s.isHashable) ∧
        l' = l.afterLines options index lines := by
  induction lines generalizing l with
  | nil =>
    constructor
    · rintro ⟨⟩
      exact ⟨by simp, rfl⟩
    · rintro ⟨-, rfl⟩
      rfl
  | cons line rest ih =>
    rw [Load.lines, List.foldlM_cons, List.forall_mem_cons, and_assoc]
    by_cases hs : ∀ s ∈ index.subject? line, s.isHashable
    · rw [(line_eq_ok_iff options).mpr ⟨hs, rfl⟩, and_iff_right hs]
      exact ih
    · refine iff_of_false (fun h => ?_) fun h => hs h.1
      cases hline : Load.line index options l line with
      | error e =>
        rw [hline] at h
        cases h
      | ok l₁ => exact hs ((line_eq_ok_iff options).mp hline).1

theorem lineNumber_afterLines (index : LabelIndex) (l : Load) (lines : List String) :
    (l.afterLines options index lines).lineNumber = l.lineNumber + lines.length := by
  induction lines generalizing l with
  | nil => rfl
  | cons line rest ih =>
    rw [afterLines_cons, ih, List.length_cons]
    change l.lineNumber + 1 + rest.length = _
    omega

theorem store_afterLines (index : LabelIndex) (l : Load) (lines : List String) :
    (l.afterLines options index lines).store =
      (lines.filterMap (index.append? options.includeSubject)).foldl NeighborStore.append
        l.store := by
  induction lines generalizing l with
  | nil => rfl
  | cons line rest ih =>
    rw [afterLines_cons, ih, after, append?_ofLine, List.filterMap_cons]
    cases index.append? options.includeSubject line <;> rfl

/-- The entries are not counted before all lines are done. -/
theorem entries_afterLines (index : LabelIndex) (l : Load) (lines : List String) :
    (l.afterLines options index lines).stats.entries = l.stats.entries := by
  induction lines generalizing l with
  | nil => rfl
  | cons line rest ih =>
    rw [afterLines_cons, ih, after]
    cases LineReading.ofLine index options.includeSubject line <;> rfl

/-! ## The line that ends a load -/

/-- The load at a line whose subject cannot be a key : the line is counted and not stored. -/
def refused (l : Load) (r : LineReading) : Load := { l.after options r with store := l.store }

theorem read_of_not_isHashable (l : Load) {r : LineReading} {a : Value × List Value}
    (ha : r.append? = some a) (h : a.1.isHashable = false) :
    l.nextLine.read options r = .error (l.refused options r) := by
  cases r with
  | blank => cases ha
  | unknownSubject label => cases ha
  | entry subject neighbors unresolved =>
    cases ha
    simp only [read, foldl_warn_eq_withWarnings, NeighborStore.append?, h, Bool.false_eq_true,
      if_false]
    rfl

/-- Lines that are not all added end a load at the first one whose subject cannot be a key. -/
theorem exists_of_lines_eq_error {lines : List String} {l l' : Load}
    (h : Load.lines index options l lines = .error l') :
    ∃ front line rest s, lines = front ++ line :: rest ∧
      (∀ line ∈ front, ∀ s ∈ index.subject? line, s.isHashable) ∧
      index.subject? line = some s ∧ s.isHashable = false ∧
      l' = (l.afterLines options index front).refused options
        (LineReading.ofLine index options.includeSubject line) := by
  induction lines generalizing l with
  | nil => cases h
  | cons line rest ih =>
    rw [Load.lines, List.foldlM_cons] at h
    by_cases hs : ∀ s ∈ index.subject? line, s.isHashable
    · rw [(line_eq_ok_iff options).mpr ⟨hs, rfl⟩] at h
      obtain ⟨front, line', rest', s, rfl, hfront, hsubject, hkey, rfl⟩ := ih h
      exact ⟨line :: front, line', rest', s, rfl, List.forall_mem_cons.mpr ⟨hs, hfront⟩, hsubject,
        hkey, rfl⟩
    · obtain ⟨s, hsubject, hkey⟩ : ∃ s, index.subject? line = some s ∧ s.isHashable = false := by
        simpa using hs
      have happend := append?_ofLine index options.includeSubject line
      rw [LabelIndex.append?, hsubject, Option.map_some] at happend
      have hline : Load.line index options l line =
          .error (l.refused options (LineReading.ofLine index options.includeSubject line)) :=
        read_of_not_isHashable options l happend hkey
      rw [hline] at h
      cases h
      exact ⟨[], line, rest, s, rfl, by simp, hsubject, hkey, rfl⟩

end Load

/-! ## Loads of lines -/

namespace NeighborReader

variable {r : NeighborReader} {lines : List String}

/-- Where a load of lines stands after the last of them. -/
def loaded (r : NeighborReader) (lines : List String) : Load :=
  ({} : Load).afterLines r.settings.options r.index lines

theorem loadLines_of_isHashable (h : ∀ line ∈ lines, ∀ s ∈ r.index.subject? line, s.isHashable) :
    r.loadLines lines =
      ({ r with last := (r.loaded lines).finish },
        ⟨(r.loaded lines).events, .ok (r.loaded lines).store⟩) := by
  rw [loadLines, (Load.lines_eq_ok_iff r.settings.options).mpr ⟨h, rfl⟩]
  rfl

/-- A subject that cannot be a key ends a load where it stands. -/
theorem loadLines_of_not_isHashable
    (h : ∃ line ∈ lines, ∃ s, r.index.subject? line = some s ∧ s.isHashable = false) :
    ∃ l, Load.lines r.index r.settings.options {} lines = .error l ∧
      r.loadLines lines = ({ r with last := l }, ⟨l.events, .error .unhashableSubject⟩) := by
  cases hl : Load.lines r.index r.settings.options {} lines with
  | error l => exact ⟨l, rfl, by rw [loadLines, hl]⟩
  | ok l =>
    obtain ⟨line, hline, s, hs, hkey⟩ := h
    have hhash := ((Load.lines_eq_ok_iff r.settings.options).mp hl).1 line hline s hs
    rw [hkey] at hhash
    cases hhash

/-- Lines give a store if and only if their subjects can be keys. -/
theorem exists_result_loadLines_iff :
    (∃ store, (r.loadLines lines).2.result = .ok store) ↔
      ∀ line ∈ lines, ∀ s ∈ r.index.subject? line, s.isHashable := by
  constructor
  · rintro ⟨store, h⟩
    rw [loadLines] at h
    split at h
    · cases h
    · rename_i l hl
      exact ((Load.lines_eq_ok_iff r.settings.options).mp hl).1
  · intro h
    exact ⟨_, by rw [loadLines_of_isHashable h]⟩

end NeighborReader

end Vicinity
