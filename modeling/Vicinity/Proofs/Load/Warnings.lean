import Vicinity.Proofs.Load.Step

/-!
# The warnings of a load

The labels that lines do not resolve are remembered line by line and token by token
(`Load.warnings_afterLines`). A line whose subject is unknown has one warning, which is about the
subject; any other line has one for each later token that belongs to no object. Whether the
subject counts as its own neighbor makes no difference, since it is resolved there.

So the warnings of a load are exactly the labels that are not resolved, each of them once and in
the order of the file (`NeighborReader.loadLines_warnings`).
-/

namespace Vicinity

/-- Labels in the order of a file : by lines, and within a line by tokens. -/
def UnresolvedLabel.Precedes (u v : UnresolvedLabel) : Prop :=
  u.lineNumber < v.lineNumber ∨ u.lineNumber = v.lineNumber ∧ u.tokenIndex < v.tokenIndex

theorem UnresolvedLabel.Precedes.ne {u v : UnresolvedLabel} (h : u.Precedes v) : u ≠ v := by
  rintro rfl
  rcases h with h | ⟨-, h⟩ <;> exact absurd h (Nat.lt_irrefl _)

/-! ## One line -/

namespace LabelIndex

variable (index : LabelIndex)

/-- A token of a line that is not resolved though it should be : the subject, or, if the subject
is known, one after it. -/
def IsUnresolvedIn (line : String) (u : UnresolvedLabel) : Prop :=
  (tokensOfLine line)[u.tokenIndex]? = some u.label ∧ index.resolve? u.label = none ∧
    (u.isSubject = true ∧ u.tokenIndex = 0 ∨
      u.isSubject = false ∧ 1 ≤ u.tokenIndex ∧ (index.subject? line).isSome)

/-- If the subject of a line is not resolved then nothing else in the line is missed. -/
theorem IsUnresolvedIn.eq_of_isSubject {index : LabelIndex} {line : String}
    {u v : UnresolvedLabel} (hu : index.IsUnresolvedIn line u) (hsubject : u.isSubject = true)
    (hv : index.IsUnresolvedIn line v) (hnumber : v.lineNumber = u.lineNumber) : v = u := by
  obtain ⟨hlabel, hnone, ⟨-, hzero⟩ | ⟨hfalse, -⟩⟩ := hu
  · obtain ⟨hlabel', -, ⟨hsubject', hzero'⟩ | ⟨-, -, hsome⟩⟩ := hv
    · rw [hzero] at hlabel
      rw [hzero', hlabel, Option.some.injEq] at hlabel'
      cases u
      cases v
      simp_all
    · rw [subject?, List.head?_eq_getElem?, ← hzero, hlabel, Option.bind_some, hnone] at hsome
      cases hsome
  · rw [hsubject] at hfalse
    cases hfalse

/-- The warnings of a line of a given number. -/
def warningsOfLine (lineNumber : Nat) (line : String) : List UnresolvedLabel :=
  match tokensOfLine line with
  | [] => []
  | first :: rest =>
    if (index.resolve? first).isSome then
      ((rest.zipIdx 1).filter fun t => (index.resolve? t.1).isNone).map fun t =>
        { label := t.1, lineNumber, tokenIndex := t.2, isSubject := false }
    else [{ label := first, lineNumber, tokenIndex := 0, isSubject := true }]

/-- The subject of a line is never missed as a neighbor. -/
theorem warnings_ofLine (includeSubject : Bool) (lineNumber : Nat) (line : String) :
    (LineReading.ofLine index includeSubject line).warnings lineNumber =
      index.warningsOfLine lineNumber line := by
  rw [warningsOfLine, tokensOfLine, LineReading.ofLine]
  cases Text.tokens (Text.withoutLineEnd line) with
  | nil => rfl
  | cons first rest =>
    cases h : index.resolve? first with
    | none => simp [LineReading.warnings, h]
    | some s => cases includeSubject <;> simp [LineReading.warnings, h]

theorem mem_warningsOfLine_iff {lineNumber : Nat} {line : String} {u : UnresolvedLabel} :
    u ∈ index.warningsOfLine lineNumber line ↔
      u.lineNumber = lineNumber ∧ index.IsUnresolvedIn line u := by
  rw [warningsOfLine, IsUnresolvedIn, subject?]
  cases tokensOfLine line with
  | nil => simp
  | cons first rest =>
    rw [List.head?_cons, Option.bind_some]
    by_cases hfirst : (index.resolve? first).isSome
    · simp only [hfirst, if_true, List.mem_map, List.mem_filter, Prod.exists,
        List.mk_mem_zipIdx_iff_le_and_getElem?_sub, Option.isNone_iff_eq_none]
      constructor
      · rintro ⟨label, i, ⟨⟨hi, hlabel⟩, hnone⟩, rfl⟩
        refine ⟨rfl, ?_, hnone, Or.inr ⟨rfl, hi, trivial⟩⟩
        rwa [List.getElem?_cons, if_neg (Nat.ne_of_gt hi)]
      · rintro ⟨rfl, hlabel, hnone, ⟨-, hzero⟩ | ⟨hsubject, hi, -⟩⟩
        · -- the subject is known
          rw [hzero, List.getElem?_cons_zero, Option.some.injEq] at hlabel
          simp [hlabel, hnone] at hfirst
        · rw [List.getElem?_cons, if_neg (Nat.ne_of_gt hi)] at hlabel
          exact ⟨u.label, u.tokenIndex, ⟨⟨hi, hlabel⟩, hnone⟩, by rw [← hsubject]⟩
    · simp only [hfirst, if_false, Bool.false_eq_true, List.mem_singleton]
      constructor
      · rintro rfl
        exact ⟨rfl, rfl, by simpa using hfirst, Or.inl ⟨rfl, rfl⟩⟩
      · rintro ⟨rfl, hlabel, -, ⟨hsubject, hzero⟩ | ⟨-, -, hsome⟩⟩
        · rw [hzero, List.getElem?_cons_zero, Option.some.injEq] at hlabel
          rw [hlabel, ← hzero, ← hsubject]
        · exact absurd hsome (by simp)

theorem pairwise_zipIdx (texts : List String) :
    (texts.zipIdx 1).Pairwise fun a b => a.2 < b.2 := by
  rw [← List.pairwise_map, List.zipIdx_map_snd]
  exact List.pairwise_lt_range'

theorem pairwise_warningsOfLine (lineNumber : Nat) (line : String) :
    (index.warningsOfLine lineNumber line).Pairwise UnresolvedLabel.Precedes := by
  rw [warningsOfLine]
  split
  · exact .nil
  rename_i first rest _
  split
  · refine List.pairwise_map.mpr <| ((pairwise_zipIdx rest).filter _).imp fun h => Or.inr ⟨rfl, h⟩
  · exact List.pairwise_singleton _ _

end LabelIndex

/-! ## All lines -/

namespace Load

theorem warnings_afterLines (options : LoadOptions) (index : LabelIndex) (l : Load)
    (lines : List String) :
    (l.afterLines options index lines).warnings =
      l.warnings ++ (lines.zipIdx (l.lineNumber + 1)).flatMap fun e =>
        index.warningsOfLine e.2 e.1 := by
  induction lines generalizing l with
  | nil => simp [afterLines]
  | cons line rest ih =>
    rw [afterLines_cons, ih, List.zipIdx_cons, List.flatMap_cons,
      ← index.warnings_ofLine options.includeSubject, ← List.append_assoc]
    rfl

end Load

namespace LabelIndex

variable (index : LabelIndex)

/-- The warnings of lines, the first of which has the number one. -/
def warningsIn (lines : List String) : List UnresolvedLabel :=
  (lines.zipIdx 1).flatMap fun e => index.warningsOfLine e.2 e.1

theorem mem_warningsIn_iff {lines : List String} {u : UnresolvedLabel} :
    u ∈ index.warningsIn lines ↔
      ∃ n line, lines[n]? = some line ∧ u.lineNumber = n + 1 ∧ index.IsUnresolvedIn line u := by
  simp only [warningsIn, List.mem_flatMap, mem_warningsOfLine_iff, Prod.exists,
    List.mk_mem_zipIdx_iff_le_and_getElem?_sub]
  constructor
  · rintro ⟨line, k, ⟨hk, hline⟩, hnumber, hu⟩
    exact ⟨k - 1, line, hline, by omega, hu⟩
  · rintro ⟨n, line, hline, hnumber, hu⟩
    exact ⟨line, n + 1, ⟨by omega, hline⟩, hnumber, hu⟩

theorem pairwise_warningsIn (lines : List String) :
    (index.warningsIn lines).Pairwise UnresolvedLabel.Precedes := by
  refine List.pairwise_flatMap.mpr ⟨fun e _ => index.pairwise_warningsOfLine e.2 e.1, ?_⟩
  refine (pairwise_zipIdx lines).imp fun {a b} h u hu v hv => Or.inl ?_
  rw [((index.mem_warningsOfLine_iff).mp hu).1, ((index.mem_warningsOfLine_iff).mp hv).1]
  exact h

end LabelIndex

/-! ## Whole loads -/

namespace NeighborReader

theorem warnings_loadLines {r : NeighborReader} {lines : List String}
    (h : ∀ line ∈ lines, ∀ s ∈ r.index.subject? line, s.isHashable) :
    (r.loadLines lines).1.last.warnings = r.index.warningsIn lines := by
  rw [loadLines_of_isHashable h]
  exact Load.warnings_afterLines r.settings.options r.index {} lines

/-- The warnings of a load are the labels that are not resolved, and nothing else : each of them
once, in the order of the file. A line whose subject is warned of has no other warning. The same
lines can be loaded with other settings, with the same warnings; in particular it does not matter
whether subjects count as their own neighbors. -/
theorem loadLines_warnings {r : NeighborReader} {lines : List String} {store : NeighborStore}
    (h : (r.loadLines lines).2.result = .ok store) :
    let warnings := (r.loadLines lines).1.last.warnings
    (∀ u, u ∈ warnings ↔
      ∃ n line, lines[n]? = some line ∧ u.lineNumber = n + 1 ∧ r.index.IsUnresolvedIn line u) ∧
    warnings.Nodup ∧ warnings.Pairwise UnresolvedLabel.Precedes ∧
    (∀ u ∈ warnings, (u.tokenIndex = 0 ↔ u.isSubject = true) ∧
      (u.isSubject = true → ∀ v ∈ warnings, v.lineNumber = u.lineNumber → v = u)) ∧
    ∀ settings : ReaderSettings, let r' : NeighborReader := { r with settings }
      (∃ store', (r'.loadLines lines).2.result = .ok store') ∧
        (r'.loadLines lines).1.last.warnings = warnings := by
  have hs := exists_result_loadLines_iff.mp ⟨store, h⟩
  have hpairwise := r.index.pairwise_warningsIn lines
  simp only [warnings_loadLines hs]
  refine ⟨fun u => r.index.mem_warningsIn_iff, hpairwise.imp UnresolvedLabel.Precedes.ne,
    hpairwise, fun u hu => ?_, fun settings => ⟨?_, ?_⟩⟩
  · obtain ⟨n, line, hline, hnumber, hu⟩ := r.index.mem_warningsIn_iff.mp hu
    refine ⟨?_, fun hsubject v hv hsame => ?_⟩
    · obtain ⟨-, -, ⟨hsubject, hzero⟩ | ⟨hsubject, hone, -⟩⟩ := hu
      · simp [hsubject, hzero]
      · simp [hsubject, Nat.ne_of_gt hone]
    · obtain ⟨n', line', hline', hnumber', hv⟩ := r.index.mem_warningsIn_iff.mp hv
      obtain rfl : n' = n := by omega
      obtain rfl : line' = line := Option.some.inj (hline'.symm.trans hline)
      exact hu.eq_of_isSubject hsubject hv hsame
  · exact exists_result_loadLines_iff.mpr hs
  · exact warnings_loadLines (r := { r with settings }) hs

/-- A reader of a label, and of another one whose object has a null identifier. -/
def missingReader : NeighborReader where
  index := ⟨.ofList [(.text "x", .int 1), (.text "n", .null)], 2, []⟩
  settings := { includeSubject := .bool true }

/-- Lines with unknown labels, an empty one among them, between lines about nothing. -/
def missingLines : List String := ["x z  x n \r\n", "   ", "\r", "n z", "x x"]

theorem loadLines_warnings_missing :
    ∃ store, (missingReader.loadLines missingLines).2.result = .ok store ∧
      let warnings := (missingReader.loadLines missingLines).1.last.warnings
      ⟨"", 1, 2, false⟩ ∈ warnings ∧ ⟨"n", 1, 4, false⟩ ∈ warnings ∧ ⟨"n", 4, 0, true⟩ ∈ warnings ∧
        ⟨"z", 4, 1, false⟩ ∉ warnings ∧ warnings.Pairwise UnresolvedLabel.Precedes := by
  have h : ∀ line ∈ missingLines, ∀ s ∈ missingReader.index.subject? line, s.isHashable := by
    decide +kernel
  obtain ⟨store, hstore⟩ := exists_result_loadLines_iff.mpr h
  obtain ⟨hmem, -, hpairwise, hsubject, -⟩ := loadLines_warnings hstore
  have hn := (hmem ⟨"n", 4, 0, true⟩).mpr ⟨3, "n z", rfl, rfl, by decide +kernel, by decide +kernel,
    Or.inl ⟨rfl, rfl⟩⟩
  refine ⟨store, hstore, ?_, ?_, hn, fun hz => ?_, hpairwise⟩
  · exact (hmem _).mpr ⟨0, _, rfl, rfl, by decide +kernel, by decide +kernel,
      Or.inr ⟨rfl, by decide, by decide +kernel⟩⟩
  · exact (hmem _).mpr ⟨0, _, rfl, rfl, by decide +kernel, by decide +kernel,
      Or.inr ⟨rfl, by decide, by decide +kernel⟩⟩
  · exact absurd ((hsubject _ hn).2 rfl _ hz rfl) (by decide)

end NeighborReader

end Vicinity
