import Mathlib.Algebra.GroupWithZero.Nat
import Vicinity.Proofs.Load.Store

/-!
# The counts of a load

Every line is counted by what comes of it : it is blank, its subject is unknown, or it is kept,
which is to say that it is appended to the store. `Load.Balances` tells how the counts, the
warnings and the store of a load depend on each other. It holds before the first line, and a line
preserves it (`Load.Balances.after`), so it holds whenever a line is done.

A line whose subject cannot be a key ends the load after it was counted and before it is stored
(`Load.refused`) : there the counts are ahead of the store by this one line.
`NeighborReader.loadLines_balances` is the account of all three, the moments between lines, the
end and the line that ends a load early.
-/

namespace Vicinity

/-! ## Lines that are kept -/

namespace LabelIndex

variable (index : LabelIndex)

/-- The lines that are kept : those whose subject is known. -/
def keptLines (lines : List String) : List String :=
  lines.filter fun line => (index.subject? line).isSome

/-- The number of tokens of a line that stand for neighbors. -/
def neighborTokens (includeSubject : Bool) (line : String) : Nat :=
  (tokensOfLine line).length - firstNeighbor includeSubject

theorem length_appends (includeSubject : Bool) (lines : List String) :
    (index.appends includeSubject lines).length = (index.keptLines lines).length := by
  rw [appends, keptLines, List.length_filterMap_eq_countP, List.countP_eq_length_filter]
  simp only [append?, Option.isSome_map]

theorem keptLines_append_singleton (lines : List String) (line : String) :
    index.keptLines (lines ++ [line]) =
      index.keptLines lines ++ (index.subject? line).elim [] fun _ => [line] := by
  rw [keptLines, List.filter_append]
  cases h : index.subject? line <;> simp [keptLines, h]

end LabelIndex

/-! ## What a reading counts -/

namespace LineReading

theorem linesRead_stats (r : LineReading) :
    r.stats.linesRead =
      r.stats.blankLines + r.stats.skippedLines + r.append?.elim 0 fun _ => 1 := by
  cases r <;> rfl

theorem resolvedNeighbors_stats (r : LineReading) :
    r.stats.resolvedNeighbors = r.append?.elim 0 fun a => a.2.length := by
  cases r <;> rfl

theorem countP_isSubject_warnings (r : LineReading) (lineNumber : Nat) :
    (r.warnings lineNumber).countP (·.isSubject) = r.stats.skippedLines := by
  cases r <;> simp [warnings, stats, List.countP_map, Function.comp_def]

theorem countP_not_isSubject_warnings (r : LineReading) (lineNumber : Nat) :
    (r.warnings lineNumber).countP (!·.isSubject) = r.stats.unresolvedNeighbors := by
  cases r <;> simp [warnings, stats, List.countP_map, Function.comp_def]

/-- Every token of a kept line that stands for a neighbor is resolved or not. -/
theorem neighbors_stats_ofLine (index : LabelIndex) (includeSubject : Bool) (line : String) :
    let r := ofLine index includeSubject line
    r.stats.resolvedNeighbors + r.stats.unresolvedNeighbors =
      (index.subject? line).elim 0 fun _ => LabelIndex.neighborTokens includeSubject line := by
  rw [LabelIndex.subject?, LabelIndex.neighborTokens, LabelIndex.tokensOfLine, ofLine]
  cases Text.tokens (Text.withoutLineEnd line) with
  | nil => rfl
  | cons first rest =>
    rw [List.head?_cons, Option.bind_some]
    cases h : index.resolve? first with
    | none => simp [h, stats]
    | some s =>
      have hsplit (named : List (String × Nat)) :
          (named.filterMap fun t => index.resolve? t.1).length +
            (named.filter fun t => (index.resolve? t.1).isNone).length = named.length := by
        rw [List.length_filterMap_eq_countP, ← List.countP_eq_length_filter,
          List.length_eq_countP_add_countP fun t : String × Nat => (index.resolve? t.1).isSome]
        simp [-Option.isNone_iff_eq_none]
      simp only [h, stats, hsplit, Option.elim_some, List.length_drop, List.length_zipIdx]
      rfl

end LineReading

/-! ## Balance -/

namespace Load

/-- The counts of a load of lines balance.

- Every line was counted, as blank, as skipped or as kept, and each kept one was appended to the
  store.
- Each warning is counted once, as a skipped line if it is about a subject and as an unresolved
  neighbor otherwise.
- The resolved neighbors are the pairs of the store, and together with the unresolved ones they
  are the tokens of the kept lines. -/
structure Balances (index : LabelIndex) (includeSubject : Bool) (lines : List String)
    (l : Load) : Prop where
  lineNumber : l.lineNumber = lines.length
  linesRead : l.stats.linesRead = l.lineNumber
  outcomes : l.stats.linesRead =
    l.stats.blankLines + l.stats.skippedLines + (index.keptLines lines).length
  store : l.store = .ofAppends (index.appends includeSubject lines)
  appended : (index.appends includeSubject lines).length = (index.keptLines lines).length
  subjects : l.warnings.countP (·.isSubject) = l.stats.skippedLines
  neighbors : l.warnings.countP (!·.isSubject) = l.stats.unresolvedNeighbors
  pairs : l.stats.resolvedNeighbors = l.store.pairCount
  tokens : l.stats.resolvedNeighbors + l.stats.unresolvedNeighbors =
    ((index.keptLines lines).map (LabelIndex.neighborTokens includeSubject)).sum

variable {index : LabelIndex} {options : LoadOptions} {lines : List String} {l : Load}

/-- Before the first line there is nothing to balance. -/
theorem Balances.start (index : LabelIndex) (includeSubject : Bool) :
    ({} : Load).Balances index includeSubject [] := by
  constructor <;> rfl

/-- One more line preserves the balance. -/
theorem Balances.after (h : l.Balances index options.includeSubject lines) (line : String) :
    (l.after options (LineReading.ofLine index options.includeSubject line)).Balances index
      options.includeSubject (lines ++ [line]) := by
  have happend := append?_ofLine index options.includeSubject line
  have htokens := LineReading.neighbors_stats_ofLine index options.includeSubject line
  generalize LineReading.ofLine index options.includeSubject line = r at happend htokens
  have hone := r.linesRead_stats
  have hpairs := r.resolvedNeighbors_stats
  refine ⟨?lineNumber, ?linesRead, ?outcomes, ?store, index.length_appends _ _, ?subjects,
    ?neighbors, ?pairs, ?tokens⟩
  case lineNumber =>
    rw [List.length_append, ← h.lineNumber]
    rfl
  case linesRead =>
    have hread : r.stats.linesRead = 1 := by cases r <;> rfl
    exact congrArg₂ (· + ·) h.linesRead hread
  case outcomes =>
    change l.stats.linesRead + r.stats.linesRead = l.stats.blankLines + r.stats.blankLines +
      (l.stats.skippedLines + r.stats.skippedLines) + _
    rw [h.outcomes, hone, happend, index.keptLines_append_singleton, LabelIndex.append?]
    cases index.subject? line <;> simp <;> omega
  case store =>
    change r.append?.elim l.store l.store.append = _
    rw [LabelIndex.appends, List.filterMap_append, happend, h.store]
    cases ha : index.append? options.includeSubject line with
    | none => simp [ha, LabelIndex.appends]
    | some a =>
      rw [List.filterMap_cons_some ha]
      exact (NeighborStore.ofAppends_append_singleton _ a).symm
  case subjects =>
    change (l.warnings ++ r.warnings (l.lineNumber + 1)).countP _ = _
    rw [List.countP_append, h.subjects, r.countP_isSubject_warnings]
    rfl
  case neighbors =>
    change (l.warnings ++ r.warnings (l.lineNumber + 1)).countP _ = _
    rw [List.countP_append, h.neighbors, r.countP_not_isSubject_warnings]
    rfl
  case pairs =>
    change l.stats.resolvedNeighbors + r.stats.resolvedNeighbors =
      (r.append?.elim l.store l.store.append).pairCount
    rw [h.pairs, hpairs]
    cases r.append? with
    | none => rfl
    | some a => exact (l.store.pairCount_append a).symm
  case tokens =>
    change l.stats.resolvedNeighbors + r.stats.resolvedNeighbors +
      (l.stats.unresolvedNeighbors + r.stats.unresolvedNeighbors) = _
    rw [Nat.add_add_add_comm, h.tokens, htokens, index.keptLines_append_singleton,
      List.map_append, List.sum_append]
    cases index.subject? line <;> simp

/-- More lines preserve the balance. -/
theorem Balances.afterLines (h : l.Balances index options.includeSubject lines)
    (more : List String) :
    (l.afterLines options index more).Balances index options.includeSubject (lines ++ more) := by
  induction more generalizing l lines with
  | nil => rwa [List.append_nil]
  | cons line more ih =>
    rw [afterLines_cons, List.append_cons]
    exact ih (h.after line)

/-- The end of a load preserves the balance. -/
theorem Balances.finish (h : l.Balances index options.includeSubject lines) :
    l.finish.Balances index options.includeSubject lines :=
  ⟨h.lineNumber, h.linesRead, h.outcomes, h.store, h.appended, h.subjects, h.neighbors, h.pairs,
    h.tokens⟩

/-- A line whose subject cannot be a key is counted, and so are its neighbors, beyond what the
lines before account for. -/
theorem Balances.refused (h : l.Balances index options.includeSubject lines) {line : String}
    {s : Value} (hs : index.subject? line = some s) :
    let l' := l.refused options (LineReading.ofLine index options.includeSubject line)
    l'.lineNumber = l'.stats.linesRead ∧ l'.store = l.store ∧
      l'.stats.linesRead =
        l'.stats.blankLines + l'.stats.skippedLines + (index.keptLines lines).length + 1 ∧
      l'.stats.resolvedNeighbors = l'.store.pairCount +
        (index.namedFrom (LabelIndex.firstNeighbor options.includeSubject) line).length ∧
      l'.stats.entries = l.stats.entries := by
  have happend := append?_ofLine index options.includeSubject line
  rw [LabelIndex.append?, hs, Option.map_some] at happend
  generalize LineReading.ofLine index options.includeSubject line = r at happend
  cases r with
  | blank => cases happend
  | unknownSubject label => cases happend
  | entry subject neighbors unresolved =>
    cases happend
    refine ⟨?number, rfl, ?outcomes, ?pairs, rfl⟩
    case number => exact congrArg (· + 1) h.linesRead.symm
    case outcomes => exact congrArg (· + 1) h.outcomes
    case pairs => exact congrArg (· + _) h.pairs

end Load

/-! ## Loads of lines -/

namespace NeighborReader

theorem balances_loaded (r : NeighborReader) (lines : List String) :
    (r.loaded lines).Balances r.index r.settings.options.includeSubject lines :=
  (Load.Balances.start r.index r.settings.options.includeSubject).afterLines lines

/-- The load of lines is balanced after each of them that is done, the first ones `lines.take k`
for every `k`, and has not counted entries by then. At the end the entries are the subjects of the
store, at most as many as lines were kept, and the resolved neighbors are its pairs. A subject that
cannot be a key ends the load at its line, where one line more is counted than the lines before
account for, and as many more neighbors than the store has pairs as this line names. -/
theorem loadLines_balances (r : NeighborReader) (lines : List String) :
    let includeSubject := r.settings.includeSubject.isTruthy
    let last := (r.loadLines lines).1.last
    (∀ k l, Load.lines r.index r.settings.options {} (lines.take k) = .ok l →
      l.Balances r.index includeSubject (lines.take k) ∧ l.stats.entries = 0) ∧
    (∀ store, (r.loadLines lines).2.result = .ok store →
      last.Balances r.index includeSubject lines ∧ last.store = store ∧
      last.stats.entries = store.size ∧ store.size ≤ (r.index.keptLines lines).length ∧
      last.stats.resolvedNeighbors = store.pairCount) ∧
    ((∃ line ∈ lines, ∃ s, r.index.subject? line = some s ∧ s.isHashable = false) →
      (r.loadLines lines).2.result = .error .unhashableSubject ∧
      ∃ front line rest s before, lines = front ++ line :: rest ∧
        r.index.subject? line = some s ∧ s.isHashable = false ∧
        Load.lines r.index r.settings.options {} front = .ok before ∧
        last.store = before.store ∧ last.lineNumber = last.stats.linesRead ∧
        last.stats.linesRead = last.stats.blankLines + last.stats.skippedLines +
          (r.index.keptLines front).length + 1 ∧
        last.stats.resolvedNeighbors = last.store.pairCount +
          (r.index.namedFrom (LabelIndex.firstNeighbor includeSubject) line).length ∧
        last.stats.entries = 0) := by
  have hbalances (front : List String) :
      (r.loaded front).Balances r.index r.settings.options.includeSubject front :=
    (Load.Balances.start r.index r.settings.options.includeSubject).afterLines front
  have hentries (front : List String) : (r.loaded front).stats.entries = 0 :=
    Load.entries_afterLines r.settings.options r.index {} front
  refine ⟨?moments, ?done, ?refused⟩
  case moments =>
    intro k l hl
    obtain ⟨-, rfl⟩ := (Load.lines_eq_ok_iff r.settings.options).mp hl
    exact ⟨hbalances _, hentries _⟩
  case done =>
    intro store hstore
    have hkeys := exists_result_loadLines_iff.mp ⟨store, hstore⟩
    rw [loadLines_of_isHashable hkeys] at hstore ⊢
    cases hstore
    have hl := hbalances lines
    refine ⟨⟨hl.lineNumber, hl.linesRead, hl.outcomes, hl.store, hl.appended, hl.subjects,
      hl.neighbors, hl.pairs, hl.tokens⟩, rfl, rfl, ?_, hl.pairs⟩
    rw [hl.store, ← hl.appended]
    exact NeighborStore.size_ofAppends_le _
  case refused =>
    intro h
    obtain ⟨l, hl, hload⟩ := loadLines_of_not_isHashable h
    obtain ⟨front, line, rest, s, hlines, hfront, hs, hkey, rfl⟩ :=
      Load.exists_of_lines_eq_error r.settings.options hl
    obtain ⟨hnumber, hstore, houtcomes, hpairs, hzero⟩ := (hbalances front).refused hs
    rw [hload]
    exact ⟨rfl, front, line, rest, s, r.loaded front, hlines, hs, hkey,
      (Load.lines_eq_ok_iff r.settings.options).mpr ⟨hfront, rfl⟩, hstore, hnumber, houtcomes,
      hpairs, hzero.trans (hentries front)⟩

/-- A reader of labels, one of which belongs to an object that cannot be a key. -/
def refusingReader : NeighborReader where
  index := ⟨.ofList [(.text "x", .int 1), (.text "y", .bool true), (.text "d", .dict [])], 3, []⟩

/-- A line of that object, after three lines that are kept, blank and skipped. -/
def refusingLines : List String := ["x y z", "", "z x", "d x z d", "x"]

theorem loadLines_balances_refusing :
    (∃ l, Load.lines refusingReader.index refusingReader.settings.options {}
        (refusingLines.take 3) = .ok l ∧ l.Balances refusingReader.index false
        ["x y z", "", "z x"]) ∧
      (∃ store, (refusingReader.loadLines (refusingLines.take 3)).2.result = .ok store ∧
        store.size ≤ 1) ∧
      (refusingReader.loadLines refusingLines).2.result = .error .unhashableSubject ∧
      let last := (refusingReader.loadLines refusingLines).1.last
      last.stats.resolvedNeighbors = last.store.pairCount + 2 := by
  have hkeys : ∀ line ∈ refusingLines.take 3,
      ∀ s ∈ refusingReader.index.subject? line, s.isHashable := by decide +kernel
  have hrefused : ∃ line ∈ refusingLines, ∃ s, refusingReader.index.subject? line = some s ∧
      s.isHashable = false := ⟨"d x z d", by decide, .dict [], by decide +kernel, rfl⟩
  have hkept : (refusingReader.index.keptLines (refusingLines.take 3)).length = 1 := by
    decide +kernel
  have htwo : ∀ line ∈ refusingLines, ∀ s ∈ refusingReader.index.subject? line,
      s.isHashable = false → (refusingReader.index.namedFrom 1 line).length = 2 := by
    decide +kernel
  obtain ⟨hmoments, -, hend⟩ := loadLines_balances refusingReader refusingLines
  obtain ⟨-, hdone, -⟩ := loadLines_balances refusingReader (refusingLines.take 3)
  obtain ⟨store, hstore⟩ := exists_result_loadLines_iff.mpr hkeys
  obtain ⟨herror, front, line, rest, s, -, hlines, hs, hkey, -, -, -, -, hpairs, -⟩ :=
    hend hrefused
  have hl : Load.lines refusingReader.index refusingReader.settings.options {}
      (refusingLines.take 3) = .ok (refusingReader.loaded (refusingLines.take 3)) :=
    (Load.lines_eq_ok_iff refusingReader.settings.options).mpr ⟨hkeys, rfl⟩
  have hline : line ∈ refusingLines := by rw [hlines]; simp
  exact ⟨⟨_, hl, (hmoments 3 _ hl).1⟩, ⟨store, hstore, hkept ▸ (hdone store hstore).2.2.2.1⟩,
    herror, hpairs.trans (congrArg _ (htwo line hline s hs hkey))⟩

end NeighborReader

end Vicinity
