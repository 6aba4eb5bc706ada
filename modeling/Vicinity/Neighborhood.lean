import Vicinity.Configuration
import Vicinity.NeighborReader

/-!
# Neighborhoods

A `Neighborhood` answers who the neighbors of an object are, from a store that was loaded once.
A `NeighborhoodFactory` makes neighborhoods from one neighbor file for any source of objects :
all objects are indexed before the file is opened, so that a bad object ends the load whatever
the file holds (`NeighborhoodFactory.load`). The factory keeps the reader of its last load.
-/

namespace Vicinity

/-- Neighbors from a store. -/
structure Neighborhood where
  store : NeighborStore

namespace Neighborhood

/-- The name of this kind of neighborhood. -/
def longName : String := "External Neighborhood"

/-- The short name of this kind of neighborhood. -/
def shortName : String := "external-neighborhood"

/-- The neighbors of an object, none if nothing is known about it. -/
def neighbors (n : Neighborhood) (id : Value) : Except KeyFault (List Value) := do
  return (← n.store.get id).getD []

/-- Whether anything is known about an object. -/
def hasNeighbors (n : Neighborhood) (id : Value) : Except KeyFault Bool := n.store.contains id

/-- The number of objects about which something is known. -/
def size (n : Neighborhood) : Nat := n.store.size

end Neighborhood

/-! ## Making neighborhoods -/

/-- Why objects have no neighborhood. -/
inductive InstantiationFailure where
  | objects (f : IndexFault)
  | load (f : LoadFailure)

/-- A neighbor file, how it is read, and the reader of the last load. -/
structure NeighborhoodFactory where
  file : String
  configuration : Configuration
  lastReader : Option NeighborReader := none

namespace NeighborhoodFactory

/-- The factory of a file. Without a configuration all settings but the file are as they are by
default; a given configuration keeps its own file, which is not the one that is read. -/
def ofFile (file : String) (configuration : Option Configuration) : NeighborhoodFactory :=
  let file := Path.normalized file
  { file, configuration := configuration.getD { file := some file } }

/-- The factory of a configuration that can be used. -/
def ofConfiguration [Platform] (c : Configuration) :
    Except ValidationFault NeighborhoodFactory := do
  let file ← c.validate
  return { file, configuration := c }

/-- The settings of the factory's readers. -/
def readerSettings (f : NeighborhoodFactory) : ReaderSettings where
  encoding := f.configuration.encoding
  includeSubject := f.configuration.includeSubject
  logUnresolved := f.configuration.logUnresolved

/-- Index objects, then read the file. -/
def load [Platform] (f : NeighborhoodFactory) (fs : FileSystem) (objects : List SourceItem) :
    NeighborhoodFactory × Told (Except InstantiationFailure NeighborStore) :=
  let built := LabelIndex.build objects f.configuration.warnOnCollision.isTruthy
  match built.result with
  | .error fault => (f, ⟨.loadRequested :: built.events, .error (.objects fault)⟩)
  | .ok index =>
    let reader : NeighborReader := { index, settings := f.readerSettings }
    let (reader, told) := reader.loadFile fs f.file
    ({ f with lastReader := some reader },
      ⟨.loadRequested :: built.events ++ told.events, told.result.mapError .load⟩)

/-- The neighborhood of objects. -/
def instantiate [Platform] (f : NeighborhoodFactory) (fs : FileSystem) (objects : List SourceItem) :
    NeighborhoodFactory × Told (Except InstantiationFailure Neighborhood) :=
  let (f, told) := f.load fs objects
  (f, ⟨told.events, told.result.map Neighborhood.mk⟩)

end NeighborhoodFactory

end Vicinity
