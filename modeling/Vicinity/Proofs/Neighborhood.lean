import Vicinity.Neighborhood
import Vicinity.Proofs.Except

/-!
# What comes of a load

A factory first indexes the objects. If they are not indexed then nothing else happens, and the
factory keeps the reader that it had (`NeighborhoodFactory.load_of_fault`). Else a new reader of
this index loads the file, and the factory keeps it whatever comes of it
(`NeighborhoodFactory.load_of_index`). So each failure of a load is one of the index or one of the
reader.
-/

namespace Vicinity

namespace NeighborhoodFactory

variable [Platform] (f : NeighborhoodFactory) {fs : FileSystem} {objects : List SourceItem}

/-- What the objects are indexed to. -/
def build (objects : List SourceItem) : Told (Except IndexFault LabelIndex) :=
  LabelIndex.build objects f.configuration.warnOnCollision.isTruthy

omit [Platform] in
/-- A new reader of an index. -/
def reader (index : LabelIndex) : NeighborReader := { index, settings := f.readerSettings }

variable {f}

theorem load_of_fault {fault : IndexFault} (h : (f.build objects).result = .error fault) :
    f.load fs objects =
      (f, ⟨.loadRequested :: (f.build objects).events, .error (.objects fault)⟩) := by
  rw [build] at h ⊢
  simp only [load, h]

theorem load_of_index {index : LabelIndex} (h : (f.build objects).result = .ok index) :
    let outcome := (f.reader index).loadFile fs f.file
    f.load fs objects =
      ({ f with lastReader := some outcome.1 },
        ⟨.loadRequested :: (f.build objects).events ++ outcome.2.events,
          outcome.2.result.mapError .load⟩) := by
  rw [build] at h ⊢
  simp only [load, h, reader]

/-- A load fails as a reader does if the objects are indexed and their reader fails so. -/
theorem result_instantiate_eq_load_iff {g : LoadFailure} :
    (f.instantiate fs objects).2.result = .error (.load g) ↔
      ∃ index, (f.build objects).result = .ok index ∧
        ((f.reader index).loadFile fs f.file).2.result = .error g := by
  rw [instantiate]
  cases hbuild : (f.build objects).result with
  | error fault => simp [load_of_fault hbuild, Except.map]
  | ok index =>
    rw [load_of_index hbuild]
    simp only [Except.ok.injEq, exists_eq_left']
    cases ((f.reader index).loadFile fs f.file).2.result with
    | error g' =>
      change Except.error (InstantiationFailure.load g') = _ ↔ _
      simp
    | ok store =>
      change Except.ok (Neighborhood.mk store) = _ ↔ _
      simp

end NeighborhoodFactory

end Vicinity
