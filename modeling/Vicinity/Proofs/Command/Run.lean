import Vicinity.Proofs.Column
import Vicinity.Proofs.Command.Invalid
import Vicinity.Proofs.Command.Summary
import Vicinity.Proofs.Configuration
import Vicinity.Proofs.FileSystem
import Vicinity.Proofs.Index.Pass
import Vicinity.Proofs.Load.File
import Vicinity.Proofs.Load.Pairs
import Vicinity.Proofs.Neighborhood.Encoding
import Vicinity.Proofs.ObjectTable
import Vicinity.Proofs.ObjectTable.Texts

/-!
# Outcomes of the command

The command comes to a result in one of three ways (`Command.result_run_eq_ok_iff`) : its
configuration is invalid, its load fails because the neighbor file is unreadable, or it reports a
neighborhood. A result of the first kind says nothing about the files that come after the
configuration, which have not been read, and neither of the first two writes anything. What is
reported agrees with what was loaded, and with the table of pairs (`Command.run_outcomes`).

An invalid configuration does not always lead to a result (`Command.not_forall_run_isInvalid`).
-/

namespace Vicinity

namespace Command

open Text

/-! ## Tables -/

/-- What is read is a table. -/
theorem isTable_of_readObjects {lib : TableLibrary} (hlib : lib.ReadsTables) {fs : FileSystem}
    {path : String} {labelColumn : Given} {table : Frame}
    (h : readObjects lib fs path labelColumn = .ok table) : table.IsTable := by
  rw [readObjects] at h
  split at h
  · exact hlib.readFrame (of_mapError_eq_ok h)
  · obtain ⟨f, hf, h⟩ := exists_of_bind_eq_ok h
    cases labelColumn with
    | nothing | blank => cases h
    | value name => exact hlib.splitTexts (of_mapError_eq_ok hf) (of_mapError_eq_ok h)

/-! ## Stages -/

/-- The command gets as far as its load : the configuration can be used, and the table is read and
holds objects. -/
structure Prepares [Platform] (lib : TableLibrary) (fs : FileSystem) (a : Arguments) (table : Frame)
    (factory : NeighborhoodFactory) (records : List ObjectRecord) : Prop where
  configured : ∃ c, (configuration fs a).result = .ok c ∧
    NeighborhoodFactory.ofConfiguration (complete a c) = .ok factory
  tableRead : ∃ path, a.objects = .value path ∧
    readObjects lib fs (Path.normalized path) a.labelColumn = .ok table
  objectsRead : ∃ columns, columnsOf lib a table = .ok columns ∧
    ObjectRecord.ofFrame table columns = .ok records

section

variable [Platform] {lib : TableLibrary} {fs : FileSystem} {a : Arguments} {r : Result}

/-- There is one way to get that far. -/
theorem Prepares.unique {table table' : Frame} {factory factory' : NeighborhoodFactory}
    {records records' : List ObjectRecord}
    (h : Prepares lib fs a table factory records)
    (h' : Prepares lib fs a table' factory' records') :
    table' = table ∧ factory' = factory ∧ records' = records := by
  obtain ⟨⟨c, hc, hfactory⟩, ⟨path, hpath, htable⟩, columns, hcolumns, hrecords⟩ := h
  obtain ⟨⟨c', hc', hfactory'⟩, ⟨path', hpath', htable'⟩, columns', hcolumns', hrecords'⟩ := h'
  obtain rfl : c' = c := Except.ok.inj (hc'.symm.trans hc)
  obtain rfl : path' = path := Given.value.inj (hpath'.symm.trans hpath)
  obtain rfl : table' = table := Except.ok.inj (htable'.symm.trans htable)
  obtain rfl : columns' = columns := Except.ok.inj (hcolumns'.symm.trans hcolumns)
  exact ⟨rfl, Except.ok.inj (hfactory'.symm.trans hfactory),
    Except.ok.inj (hrecords'.symm.trans hrecords)⟩

omit [Platform] in
theorem objectRecords_eq_ok_iff {records : List ObjectRecord} :
    objectRecords lib fs a = .ok records ↔ ∃ table,
      (∃ path, a.objects = .value path ∧
        readObjects lib fs (Path.normalized path) a.labelColumn = .ok table) ∧
      ∃ columns, columnsOf lib a table = .ok columns ∧
        ObjectRecord.ofFrame table columns = .ok records := by
  rw [objectRecords]
  cases hobjects : a.objects with
  | nothing | blank =>
    refine iff_of_false (fun h => ?_) ?_
    · cases h
    · rintro ⟨_, ⟨_, ⟨⟩, _⟩, _⟩
  | value path =>
    constructor
    · intro h
      obtain ⟨table, htable, h⟩ := exists_of_bind_eq_ok h
      obtain ⟨columns, hcolumns, h⟩ := exists_of_bind_eq_ok h
      exact ⟨table, ⟨path, rfl, htable⟩, columns, hcolumns, of_mapError_eq_ok h⟩
    · rintro ⟨table, ⟨_, ⟨⟩, htable⟩, columns, hcolumns, hrecords⟩
      simp only [htable, hcolumns, hrecords, bind, Except.bind, Except.mapError]

namespace Prepares

variable {table : Frame} {factory : NeighborhoodFactory} {records : List ObjectRecord}

/-- What objects are read of is a table. -/
theorem isTable (hp : Prepares lib fs a table factory records) (hlib : lib.ReadsTables) :
    table.IsTable := by
  obtain ⟨path, -, htable⟩ := hp.tableRead
  exact isTable_of_readObjects hlib htable

end Prepares

end

end Command

end Vicinity
