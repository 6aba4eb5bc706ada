import Vicinity.Proofs.Load.Counts
import Vicinity.Proofs.Load.Reordered
import Vicinity.Proofs.Store.Lookup

/-!
# Subjects as their own neighbors

A line whose subject counts as its own neighbor says what it says otherwise, with one neighbor more
at the head (`LineReading.ofLine_including`). Two loads of the same lines, one with subjects as
neighbors and one without, so stay together : a line that is kept is one more resolved neighbor of
the first load, and nothing else tells the two apart but their stores (`Load.Including.after`). In
the stores every line that is kept begins with its subject, spelled as this line has it
(`LabelIndex.namedFrom_zero`), also where a line continues an entry.
-/

namespace Vicinity

/-! ## One line -/

namespace LineReading

/-- A reading whose subject counts as its own first neighbor. -/
def including : LineReading → LineReading
  | entry subject neighbors unresolved => entry subject (subject :: neighbors) unresolved
  | blank => blank
  | unknownSubject label => unknownSubject label

/-- The number of entries that a reading keeps, which is one or none. -/
def kept (r : LineReading) : Nat := r.append?.elim 0 fun _ => 1

theorem ofLine_including (index : LabelIndex) (line : String) :
    ofLine index true line = (ofLine index false line).including := by
  rw [ofLine, ofLine]
  cases Text.tokens (Text.withoutLineEnd line) with
  | nil => rfl
  | cons first rest =>
    cases h : index.resolve? first with
    | none => simp [h, including]
    | some subject => simp [h, including]

theorem warnings_including (r : LineReading) (lineNumber : Nat) :
    r.including.warnings lineNumber = r.warnings lineNumber := by
  cases r <;> rfl

theorem stats_including (r : LineReading) :
    r.including.stats =
      { r.stats with resolvedNeighbors := r.stats.resolvedNeighbors + r.kept } := by
  cases r <;> rfl

end LineReading

namespace LabelIndex

variable (index : LabelIndex)

/-- The first object that a line names is its subject. -/
theorem namedFrom_zero (line : String) :
    index.namedFrom 0 line = (index.subject? line).toList ++ index.namedFrom 1 line := by
  rw [namedFrom, namedFrom, subject?]
  cases tokensOfLine line with
  | nil => rfl
  | cons first rest => cases h : index.resolve? first <;> simp [h]

theorem length_keptLines_cons (includeSubject : Bool) (line : String) (rest : List String) :
    (index.keptLines (line :: rest)).length =
      (LineReading.ofLine index includeSubject line).kept + (index.keptLines rest).length := by
  rw [LineReading.kept, append?_ofLine, append?, keptLines, List.filter_cons]
  cases index.subject? line with
  | none => simp [keptLines]
  | some s => simp [keptLines, Nat.add_comm]

end LabelIndex

/-! ## Two loads of the same lines -/

namespace Load

/-- Loads of the same lines, one with subjects as neighbors, one without, when `kept` lines were
kept. -/
structure Including (kept : Nat) (on off : Load) : Prop where
  lineNumber : on.lineNumber = off.lineNumber
  warnings : on.warnings = off.warnings
  stats : on.stats =
    { off.stats with resolvedNeighbors := off.stats.resolvedNeighbors + kept }

variable {index : LabelIndex} {kept : Nat} {on off : Load} {options options' : LoadOptions}

/-- One more line keeps the loads together. -/
theorem Including.after (h : Including kept on off) (r : LineReading) :
    Including (kept + r.kept) (on.after options r.including) (off.after options' r) := by
  refine ⟨?lineNumber, ?warnings, ?stats⟩
  case lineNumber => exact congrArg (· + 1) h.lineNumber
  case warnings =>
    change on.warnings ++ r.including.warnings (on.lineNumber + 1) =
      off.warnings ++ r.warnings (off.lineNumber + 1)
    rw [h.warnings, h.lineNumber, r.warnings_including]
  case stats =>
    change on.stats + r.including.stats = _
    rw [h.stats, r.stats_including]
    exact congrArg (fun n => { off.stats + r.stats with resolvedNeighbors := n })
      (Nat.add_add_add_comm ..)

/-- More lines keep the loads together. -/
theorem Including.afterLines (h : Including kept on off) (hon : options.includeSubject = true)
    (hoff : options'.includeSubject = false) (lines : List String) :
    Including (kept + (index.keptLines lines).length) (on.afterLines options index lines)
      (off.afterLines options' index lines) := by
  induction lines generalizing on off kept with
  | nil => exact h
  | cons line rest ih =>
    have hline : Including (kept + (LineReading.ofLine index false line).kept)
        (on.after options (.ofLine index true line))
        (off.after options' (.ofLine index false line)) := by
      rw [LineReading.ofLine_including]
      exact h.after _
    rw [afterLines_cons, afterLines_cons, hon, hoff, index.length_keptLines_cons false,
      ← Nat.add_assoc]
    exact ih hline

end Load

namespace LabelIndex

variable (index : LabelIndex)

/-- The subjects of lines are stored whether they count as neighbors or not. -/
theorem keys_ofAppends_appends (includeSubject : Bool) (lines : List String) :
    (NeighborStore.ofAppends (index.appends includeSubject lines)).entries.keys =
      Value.firsts (lines.filterMap index.subject?) := by
  rw [NeighborStore.keys_ofAppends, map_fst_appends]

/-- With subjects as neighbors each line begins with its own. -/
theorem neighborsIn_true (x : Value) (lines : List String) :
    index.neighborsIn true x lines =
      (lines.filter fun line => index.IsSubject x line).flatMap fun line =>
        (index.subject? line).toList ++ index.namedFrom 1 line :=
  congrArg (List.flatMap · _) (funext index.namedFrom_zero)

theorem neighborsIn_true_ne_nil {x : Value} {lines : List String}
    (h : ∃ line ∈ lines, index.IsSubject x line) : index.neighborsIn true x lines ≠ [] := by
  obtain ⟨line, hline, s, hs, hx⟩ := h
  rw [neighborsIn_true]
  refine List.ne_nil_of_mem (List.mem_flatMap.mpr ⟨line, ?_, List.mem_append_left _ (a := s) ?_⟩)
  · exact List.mem_filter.mpr ⟨hline, decide_eq_true ⟨s, hs, hx⟩⟩
  · simp [hs]

end LabelIndex

/-! ## Whole loads -/

namespace NeighborReader

open LabelIndex

/-- Lines are loaded with subjects as neighbors and without. The stores have the same subjects, and
the loads warn of the same and count the same, but each line that is kept is one more neighbor. What
an object has without its lines' subjects it has with each of them at the head of its line, so it
always has something. A line that is kept is never warned of at its first token. -/
theorem loadLines_including (r : NeighborReader) (on off : ReaderSettings) (lines : List String)
    (hon : on.includeSubject.isTruthy = true) (hoff : off.includeSubject.isTruthy = false)
    (hids : ∀ id ∈ r.index.entries.values, id.isHashable) :
    let outcome := loadLines { r with settings := on } lines
    let outcome' := loadLines { r with settings := off } lines
    let stats := outcome'.1.last.stats
    let kept := (r.index.keptLines lines).length
    ∃ store store', outcome.2.result = .ok store ∧ outcome'.2.result = .ok store' ∧
      stats.linesRead = stats.blankLines + stats.skippedLines + kept ∧
      outcome.1.last.stats =
        { stats with resolvedNeighbors := stats.resolvedNeighbors + kept } ∧
      store.pairCount = store'.pairCount + kept ∧
      outcome.1.last.warnings = outcome'.1.last.warnings ∧
      store.entries.keys = store'.entries.keys ∧
      (∀ x neighbors, store'.get x = .ok (some neighbors) →
        let about := lines.filter fun line => r.index.IsSubject x line
        neighbors = about.flatMap (r.index.namedFrom 1) ∧
          store.get x = .ok (some (about.flatMap fun line =>
            (r.index.subject? line).toList ++ r.index.namedFrom 1 line))) ∧
      (∀ e ∈ store.toList, e.2 ≠ []) ∧
      ∀ n line, lines[n]? = some line → (r.index.subject? line).isSome →
        ∀ u ∈ outcome.1.last.warnings, u.lineNumber = n + 1 → u.tokenIndex ≠ 0 := by
  have hkeys (lines : List String) : ∀ line ∈ lines, ∀ s ∈ r.index.subject? line, s.isHashable :=
    fun line _ s hs => hids s (mem_values_of_subject? hs)
  let including : NeighborReader := { r with settings := on }
  let plain : NeighborReader := { r with settings := off }
  have hon' : on.options.includeSubject = true := hon
  have hoff' : off.options.includeSubject = false := hoff
  have htogether : Load.Including (r.index.keptLines lines).length (including.loaded lines)
      (plain.loaded lines) := by
    have hstart : Load.Including 0 {} {} := ⟨rfl, rfl, rfl⟩
    rw [← Nat.zero_add (r.index.keptLines lines).length]
    exact hstart.afterLines hon' hoff' lines
  have hstore : (including.loaded lines).store = .ofAppends (r.index.appends true lines) := by
    rw [including.store_loaded, hon']
  have hstore' : (plain.loaded lines).store = .ofAppends (r.index.appends false lines) := by
    rw [plain.store_loaded, hoff']
  have hsame : (including.loaded lines).store.entries.keys =
      (plain.loaded lines).store.entries.keys := by
    rw [hstore, hstore', keys_ofAppends_appends, keys_ofAppends_appends]
  have hget (x : Value) := r.index.get?_ofAppends_appends true x lines
  rw [← hstore] at hget
  rw [including.loadLines_of_isHashable (hkeys lines), plain.loadLines_of_isHashable (hkeys lines)]
  refine ⟨_, _, rfl, rfl, (plain.balances_loaded lines).outcomes, ?stats, ?pairs,
    htogether.warnings, hsame, fun x neighbors hx => ?neighbors, fun e he => ?nonempty,
    fun n line hline hs u hu hnumber hzero => ?first⟩
  case stats =>
    have hsize : (including.loaded lines).store.size = (plain.loaded lines).store.size := by
      rw [NeighborStore.size_eq_length_keys, hsame, NeighborStore.size_eq_length_keys]
    exact congrArg₂ (fun stats n => { stats with entries := n }) htogether.stats hsize
  case pairs =>
    rw [← (including.balances_loaded lines).pairs, ← (plain.balances_loaded lines).pairs,
      htogether.stats]
  case neighbors =>
    obtain ⟨hkey, hvalue⟩ := (NeighborStore.get_eq_ok_some_iff _).mp hx
    rw [hstore', r.index.get?_ofAppends_appends] at hvalue
    obtain ⟨hline, hvalue⟩ := Option.ite_none_right_eq_some.mp hvalue
    refine ⟨(Option.some.inj hvalue).symm, (NeighborStore.get_eq_ok_some_iff _).mpr ⟨hkey, ?_⟩⟩
    rw [hget, if_pos hline, neighborsIn_true]
  case nonempty =>
    obtain ⟨-, hvalue⟩ := (OrderedMap.mem_toList_iff _ e).mp he
    obtain ⟨hline, hvalue⟩ := Option.ite_none_right_eq_some.mp ((hget e.1).symm.trans hvalue)
    rw [← Option.some.inj hvalue]
    exact r.index.neighborsIn_true_ne_nil hline
  case first =>
    have hwarnings : (including.loaded lines).warnings = r.index.warningsIn lines :=
      Load.warnings_afterLines on.options r.index {} lines
    obtain ⟨n', line', hline', hnumber', hlabel, hnone, -⟩ :=
      r.index.mem_warningsIn_iff.mp (hwarnings ▸ hu)
    obtain rfl : n' = n := by omega
    obtain rfl : line' = line := Option.some.inj (hline'.symm.trans hline)
    rw [hzero, ← List.head?_eq_getElem?] at hlabel
    simp [subject?, hlabel, hnone] at hs

/-- Settings under which subjects count as their own neighbors. -/
def includingSettings : ReaderSettings := { includeSubject := .text "yes" }

/-- Lines about one object by two labels, the second of which continues its entry. -/
def continuedLines : List String := ["x z q", "q x", "", "y", "z y"]

theorem loadLines_including_continued :
    includingSettings.includeSubject.isTruthy = true ∧
      ReaderSettings.includeSubject {} = .bool false ∧
      (∀ id ∈ twoSubjectReader.index.entries.values, id.isHashable) ∧
      let outcome :=
        loadLines { twoSubjectReader with settings := includingSettings } continuedLines
      let outcome' := loadLines { twoSubjectReader with settings := {} } continuedLines
      ∃ store store', outcome.2.result = .ok store ∧ outcome'.2.result = .ok store' ∧
        store'.get (.int 1) = .ok (some [.text "Z"]) ∧
        store.get (.int 1) = .ok (some [.int 1, .text "Z", .bool true]) ∧
        store.pairCount = store'.pairCount + 3 ∧
        outcome.1.last.warnings = outcome'.1.last.warnings := by
  have hids : ∀ id ∈ twoSubjectReader.index.entries.values, id.isHashable := by decide +kernel
  have hresult := result_loadLines { twoSubjectReader with settings := {} } continuedLines
    fun _ _ s hs => hids s (mem_values_of_subject? hs)
  obtain ⟨store, store', hstore, hstore', -, -, hpairs, hwarnings, -, hget, -⟩ :=
    loadLines_including twoSubjectReader includingSettings {} continuedLines rfl rfl hids
  obtain rfl := Except.ok.inj (hresult.symm.trans hstore')
  have hone : (NeighborStore.ofAppends (twoSubjectReader.index.appends
      (ReaderSettings.options {}).includeSubject continuedLines)).get (.int 1) =
        .ok (some [.text "Z"]) := by decide +kernel
  exact ⟨rfl, rfl, hids, store, _, hstore, hstore', hone,
    (hget _ _ hone).2.trans (by decide +kernel), hpairs.trans (by decide +kernel), hwarnings⟩

end NeighborReader

end Vicinity
