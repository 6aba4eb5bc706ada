import Vicinity.Proofs.Index.Pass
import Vicinity.Proofs.Load.Outcome
import Vicinity.Proofs.Load.Reuse
import Vicinity.Proofs.Load.Told
import Vicinity.Proofs.Load.Warnings
import Vicinity.Proofs.Neighborhood

/-!
# What telling changes

Two settings of a factory say which warnings are told : those of collisions and those of labels
that are not resolved. Loads that differ in the second one come to the same result, and to readers
in the same state, and tell everything else that there is to tell
(`NeighborhoodFactory.SameButWarnings`).

Loads that differ in the first one do so if and only if each collision that is found can be told.
A collision that is to be told and cannot be, for a whole number of too many digits or for values
that are nested too deeply, ends a load that else goes on (`NeighborhoodFactory.load_telling`).

The warnings that are told are those that are remembered, the collisions by the index and the
labels that are not resolved by the reader, wherever a load ends. Only a reader that is used again,
for a file that cannot be opened, tells nothing and remembers the labels of the load before.
-/

namespace Vicinity

namespace Event

/-- The warnings that come from a part of the library. -/
def warningsOf (channel : Channel) (events : List Event) : List Event :=
  (warnings events).filter fun e => e.channel = channel

/-- Collisions come from the index, and labels that are not resolved from the reader. -/
theorem warningsOf_eq {events : List Event} {warn : Bool} {cs : List Collision}
    {options : LoadOptions} {us : List UnresolvedLabel}
    (h : warnings events = Collision.told warn cs ++ options.told us) :
    warningsOf .labels events = Collision.told warn cs ∧
      warningsOf .neighbors events = options.told us := by
  have hcs : ∀ e ∈ Collision.told warn cs, e.channel = .labels := by
    intro e he
    obtain ⟨c, -, rfl⟩ := Collision.exists_of_mem_told warn cs he
    rfl
  have hus : ∀ e ∈ options.told us, e.channel = .neighbors := by
    intro e he
    obtain ⟨u, -, rfl⟩ := options.exists_of_mem_told us he
    rfl
  rw [warningsOf, warningsOf, h, List.filter_append, List.filter_append]
  constructor
  · rw [List.filter_eq_self.mpr fun e he => by simp [hcs e he],
      List.filter_eq_nil_iff.mpr fun e he => by simp [hus e he], List.append_nil]
  · rw [List.filter_eq_nil_iff.mpr fun e he => by simp [hcs e he],
      List.filter_eq_self.mpr fun e he => by simp [hus e he], List.nil_append]

end Event

/-- A pass ends at an item that is no object, with the collisions of the items before it. -/
theorem Pass.collisions_of_badItem {front rest : List SourceItem} {item : SourceItem}
    {fault : ItemFault} (hfront : (ofItems front).fault? = none)
    (hitem : item.coerce = .error fault) :
    (ofItems (front ++ item :: rest)).collisions = (ofItems front).collisions := by
  have hnone : (ofItems (item :: rest)).run = [] := by simp only [ofItems, hitem]
  rw [collisions, collisions, run_ofItems_append hfront, hnone, List.append_nil]

/-! ## Collisions that are found -/

/-- The collisions that a pass finds which does not tell them, up to where an item ends it. -/
def LabelIndex.found [Platform] (objects : List SourceItem) : List Collision :=
  match Indexing.items false {} objects with
  | .ok s => s.collisions
  | .error (s, _) => s.collisions

theorem LabelIndex.found_eq [Platform] (objects : List SourceItem) :
    found objects = (Pass.ofItems objects).collisions := by
  have hquiet :
      Collision.CanBeTold false (Indexing.collisionsFrom .empty (Pass.ofItems objects).run) :=
    nofun
  rw [found, Indexing.items_eq objects {} hquiet]
  cases (Pass.ofItems objects).fault? <;> rfl

namespace NeighborhoodFactory

section

variable [Platform] {f : NeighborhoodFactory} {fs : FileSystem} {objects : List SourceItem}

/-! ## Loads with other settings -/

omit [Platform] in
/-- The factory with other settings for the warnings that are told. -/
def withTelling (f : NeighborhoodFactory) (warnOnCollision logUnresolved : Value) :
    NeighborhoodFactory :=
  { f with configuration := { f.configuration with warnOnCollision, logUnresolved } }

omit [Platform] in
/-- Another load comes to the same, but for the warnings that are told : to the same result, and to
a reader in the same state, that is, the index with its collisions, the number of lines, the
counts, the warnings and the store. What else is told is the same. -/
structure SameButWarnings
    (outcome other : NeighborhoodFactory × Told (Except InstantiationFailure NeighborStore)) :
    Prop where
  result : other.2.result = outcome.2.result
  others : Event.others other.2.events = Event.others outcome.2.events
  reader : other.1.lastReader.map NeighborReader.quiet =
    outcome.1.lastReader.map NeighborReader.quiet

/-- If nothing but warnings changes while the objects are indexed, nothing else changes after
that. -/
theorem sameButWarnings_of_build {warnOnCollision logUnresolved : Value}
    (h : ((f.withTelling warnOnCollision logUnresolved).build objects).quiet =
      (f.build objects).quiet) :
    SameButWarnings (f.load fs objects)
      ((f.withTelling warnOnCollision logUnresolved).load fs objects) := by
  obtain ⟨hevents, hresult⟩ := Told.mk.inj h
  cases hbuild : (f.build objects).result with
  | error fault =>
    have hother := hresult.trans hbuild
    rw [load_of_fault hbuild, load_of_fault hother]
    exact ⟨rfl, congrArg (List.cons _) hevents, rfl⟩
  | ok index =>
    have hother := hresult.trans hbuild
    have hquiet (r : NeighborReader) :
        r.quiet.loadFile fs f.file = NeighborReader.quietly (r.loadFile fs f.file) :=
      NeighborReader.loadFile_quiet
    have hsame := (hquiet ((f.withTelling warnOnCollision logUnresolved).reader index)).symm.trans
      (hquiet (f.reader index))
    obtain ⟨hstate, htold⟩ := Prod.mk.inj hsame
    obtain ⟨hfile, hload⟩ := Told.mk.inj htold
    rw [load_of_index hbuild, load_of_index hother]
    refine ⟨congrArg (Except.mapError InstantiationFailure.load) hload, ?_, congrArg some hstate⟩
    have hothers (events more : List Event) :
        Event.others (.loadRequested :: events ++ more) =
          .loadRequested :: (Event.others events ++ Event.others more) :=
      (Event.others_append _ more).trans rfl
    rw [hothers, hothers, hevents]
    exact congrArg (fun events => _ :: (_ ++ events)) hfile

/-- What a factory is set to tell makes no difference to its loads but in the warnings, if the
collisions can be told. -/
theorem load_withTelling (h : ∀ c ∈ LabelIndex.found objects, c.fault? = none)
    (warnOnCollision logUnresolved : Value) :
    SameButWarnings (f.load fs objects)
      ((f.withTelling warnOnCollision logUnresolved).load fs objects) := by
  rw [LabelIndex.found_eq] at h
  have hquiet (warn : Bool) : LabelIndex.build objects false =
      (LabelIndex.build objects warn).quiet := LabelIndex.build_quiet fun _ => h
  exact sameButWarnings_of_build ((hquiet _).symm.trans (hquiet _))

/-! ## Collisions that cannot be told -/

/-- A load that tells its collisions ends at the first one that cannot be told. -/
theorem load_of_stopAt {before : List Collision} {c : Collision} {fault : Value.LiteralFault}
    (h : Collision.StopAt (LabelIndex.found objects) before c fault)
    (hwarn : f.configuration.warnOnCollision.isTruthy = true) :
    f.load fs objects =
      (f, ⟨.loadRequested :: .indexStarted :: before.map .collided,
        .error (.objects (.unwritable fault))⟩) := by
  rw [LabelIndex.found_eq] at h
  have hbuild : f.build objects = _ :=
    (congrArg (LabelIndex.build objects) hwarn).trans (LabelIndex.build_of_stopAt h)
  have hresult : (f.build objects).result = .error (.unwritable fault) := by rw [hbuild]
  rw [load_of_fault hresult, hbuild]

omit [Platform] in
/-- A pass itself does not end at a collision. -/
theorem fault?_ofItems_ne_unwritable (objects : List SourceItem) (fault : Value.LiteralFault) :
    (Pass.ofItems objects).fault? ≠ some (.unwritable fault) := by
  induction objects with
  | nil => exact (Option.some_ne_none _).symm
  | cons item rest ih =>
    rw [Pass.ofItems]
    split
    · intro h
      cases h
    · split
      · exact ih
      · intro h
        cases h

/-- A load that does not tell its collisions does not end at one. -/
theorem result_load_ne_unwritable (hwarn : f.configuration.warnOnCollision.isTruthy = false)
    (fault : Value.LiteralFault) :
    (f.load fs objects).2.result ≠ .error (.objects (.unwritable fault)) := by
  have hbuild : (f.build objects).result = _ :=
    LabelIndex.result_build_eq (by rw [hwarn]; nofun)
  intro h
  cases hfault : (Pass.ofItems objects).fault? with
  | none =>
    rw [hfault] at hbuild
    rw [load_of_index hbuild] at h
    cases hload : ((f.reader (Pass.ofItems objects).index).loadFile fs f.file).2.result <;>
      simp [hload, Except.mapError] at h
  | some fault' =>
    rw [hfault] at hbuild
    rw [load_of_fault hbuild] at h
    cases h
    exact fault?_ofItems_ne_unwritable objects fault hfault

/-- If a collision cannot be told, it makes a difference whether collisions are told. -/
theorem result_load_ne_of_stopAt {before : List Collision} {c : Collision}
    {fault : Value.LiteralFault}
    (h : Collision.StopAt (LabelIndex.found objects) before c fault) :
    ((f.withTelling (.bool true) .null).load fs objects).2.result ≠
      ((f.withTelling (.bool false) .null).load fs objects).2.result := by
  rw [load_of_stopAt (f := f.withTelling (.bool true) .null) h rfl]
  exact (result_load_ne_unwritable (f := f.withTelling (.bool false) .null) rfl fault).symm

/-! ## What is remembered -/

/-- The warnings of a load whose objects are not indexed are collisions. -/
theorem warnings_load_of_fault {fault : IndexFault}
    (htold : Collision.CanBeTold f.configuration.warnOnCollision.isTruthy
      (Pass.ofItems objects).collisions) (h : (f.build objects).result = .error fault) :
    Event.warnings (f.load fs objects).2.events =
      Collision.told f.configuration.warnOnCollision.isTruthy
        (Pass.ofItems objects).collisions := by
  rw [load_of_fault h, build]
  exact LabelIndex.warnings_build htold

/-- The warnings of any other load are collisions, and labels that the reader remembers. -/
theorem warnings_load_of_index {index : LabelIndex} (h : (f.build objects).result = .ok index) :
    Event.warnings (f.load fs objects).2.events =
      Collision.told f.configuration.warnOnCollision.isTruthy index.collisions ++
        f.readerSettings.options.told ((f.reader index).loadFile fs f.file).1.last.warnings := by
  have hbuild : Event.warnings (.loadRequested :: (f.build objects).events) =
      Collision.told f.configuration.warnOnCollision.isTruthy index.collisions := by
    obtain ⟨htold, -, rfl⟩ := LabelIndex.result_build_eq_ok_iff.mp h
    exact LabelIndex.warnings_build htold
  have hfile : Event.warnings ((f.reader index).loadFile fs f.file).2.events = _ :=
    NeighborReader.warnings_loadFile_of_nil rfl
  rw [load_of_index h]
  exact (Event.warnings_append _ _).trans (congrArg₂ (· ++ ·) hbuild hfile)

/-- A pass that ends, but not at a collision, ends at the item that ends every pass, with the
collisions up to there. -/
theorem collisions_of_items_error {warn : Bool} {s : Indexing} {fault : IndexFault}
    (h : Indexing.items warn { events := [.indexStarted] } objects = .error (s, fault))
    (hfault : ∀ g, fault ≠ .unwritable g) :
    Collision.CanBeTold warn (Pass.ofItems objects).collisions ∧
      (Pass.ofItems objects).fault? = some fault ∧
      s.collisions = (Pass.ofItems objects).collisions := by
  by_cases htold : Collision.CanBeTold warn (Pass.ofItems objects).collisions
  · rw [Indexing.items_eq _ _ htold] at h
    cases hpass : (Pass.ofItems objects).fault? with
    | none =>
      rw [hpass] at h
      cases h
    | some fault' =>
      rw [hpass] at h
      cases h
      exact ⟨htold, rfl, List.nil_append _⟩
  · obtain ⟨rfl, hnone⟩ :
        warn = true ∧ ¬ ∀ c ∈ (Pass.ofItems objects).collisions, c.fault? = none :=
      Classical.not_imp.mp htold
    obtain ⟨before, c, g, hstop⟩ := Collision.exists_stopAt hnone
    obtain ⟨s', hs', -⟩ := Indexing.items_of_stopAt (s := { events := [.indexStarted] }) hstop
    rw [hs'] at h
    cases h
    exact absurd rfl (hfault g)

variable {s : Indexing} {fault : IndexFault}

/-- The warnings of a load that an item ends are the collisions up to there. -/
theorem load_of_items_error
    (hitems : Indexing.items f.configuration.warnOnCollision.isTruthy
      { events := [.indexStarted] } objects = .error (s, fault))
    (hother : ∀ g, fault ≠ .unwritable g) :
    (f.load fs objects).2.result = .error (.objects fault) ∧ (f.load fs objects).1 = f ∧
      Event.warningsOf .labels (f.load fs objects).2.events =
        Collision.told f.configuration.warnOnCollision.isTruthy s.collisions ∧
      Event.warningsOf .neighbors (f.load fs objects).2.events = [] := by
  obtain ⟨htold, hfault, hcollisions⟩ := collisions_of_items_error hitems hother
  have hresult : (f.build objects).result = .error fault := by
    rw [build, LabelIndex.result_build_eq htold, hfault]
    rfl
  have hload : f.load fs objects = _ := load_of_fault hresult
  have hwarnings : Event.warnings (f.load fs objects).2.events = _ :=
    warnings_load_of_fault htold hresult
  rw [← hcollisions, ← List.append_nil (Collision.told _ _),
    ← f.readerSettings.options.told_nil] at hwarnings
  obtain ⟨hlabels, hneighbors⟩ := Event.warningsOf_eq hwarnings
  rw [f.readerSettings.options.told_nil] at hneighbors
  exact ⟨by rw [hload], by rw [hload], hlabels, hneighbors⟩

/-- If that item is no object, they are the collisions of the items before it. -/
theorem collisions_eq_of_front {warn : Bool} {front rest : List SourceItem} {item : SourceItem}
    {itemFault : ItemFault} {index : LabelIndex}
    (hitems : Indexing.items warn { events := [.indexStarted] } (front ++ item :: rest) =
      .error (s, fault))
    (hother : ∀ g, fault ≠ .unwritable g) (hitem : item.coerce = .error itemFault)
    (hfront : (f.build front).result = .ok index) : s.collisions = index.collisions := by
  obtain ⟨-, -, hcollisions⟩ := collisions_of_items_error hitems hother
  obtain ⟨-, hnone, rfl⟩ := LabelIndex.result_build_eq_ok_iff.mp hfront
  rw [hcollisions, Pass.collisions_of_badItem hnone hitem]
  rfl

/-- The warnings of a load whose objects are indexed are the collisions of the index, and what its
reader remembers. -/
theorem load_of_indexed {index : LabelIndex} (hindex : (f.build objects).result = .ok index) :
    ∃ r : NeighborReader, (f.load fs objects).1.lastReader = some r ∧ r.index = index ∧
      Event.warningsOf .labels (f.load fs objects).2.events =
        Collision.told f.configuration.warnOnCollision.isTruthy index.collisions ∧
      Event.warningsOf .neighbors (f.load fs objects).2.events =
        f.readerSettings.options.told r.last.warnings := by
  have hwarnings : Event.warnings (f.load fs objects).2.events = _ :=
    warnings_load_of_index hindex
  obtain ⟨hlabels, hneighbors⟩ := Event.warningsOf_eq hwarnings
  have hreader : ((f.reader index).loadFile fs f.file).1.index = index :=
    congrArg NeighborReader.index ((f.reader index).fresh_answer (.file fs f.file))
  exact ⟨_, by rw [load_of_index hindex], hreader, hlabels, hneighbors⟩

/-- What a factory is set to tell of its loads, and what this changes.

- Whatever it is set to tell, a load comes to the same but for the warnings, if and only if each
  collision that is found can be told.
- Whether labels that are not resolved are told changes the warnings only, in any case.
- If a collision cannot be told, a load that tells its collisions ends at the first such one, after
  those before it are told, and keeps the reader of the load before. One that does not tell them
  does not end there.
- If the objects are indexed, the warnings of the index are its collisions, and those of the
  reader are the labels that it did not resolve, wherever it ended.
- If an item ends the pass over the objects, the warnings of the index are the collisions up to
  there; if this item is no object, they are those of the items before it. The reader of the load
  before is kept, and there are no warnings of a reader.
- A setting that does not count as set leaves out the warnings that it is about.
- Any reader, also one that has loaded before, tells the labels that it then remembers if it comes
  to reading lines. If it does not, it tells none and remembers those of the load before. -/
theorem load_telling (f : NeighborhoodFactory) (fs : FileSystem)
    (objects : List SourceItem) :
    let warn := f.configuration.warnOnCollision.isTruthy
    let told := (f.load fs objects).2
    ((∀ w l w' l', SameButWarnings ((f.withTelling w l).load fs objects)
        ((f.withTelling w' l').load fs objects)) ↔
      ∀ c ∈ LabelIndex.found objects, c.fault? = none) ∧
    (∀ l, SameButWarnings (f.load fs objects)
      ((f.withTelling f.configuration.warnOnCollision l).load fs objects)) ∧
    (∀ before c fault, Collision.StopAt (LabelIndex.found objects) before c fault →
      (warn = true → f.load fs objects =
        (f, ⟨.loadRequested :: .indexStarted :: before.map .collided,
          .error (.objects (.unwritable fault))⟩)) ∧
      (warn = false → ∀ g, told.result ≠ .error (.objects (.unwritable g)))) ∧
    (∀ index, (f.build objects).result = .ok index → ∃ r : NeighborReader,
      (f.load fs objects).1.lastReader = some r ∧ r.index = index ∧
        Event.warningsOf .labels told.events =
          (if warn then index.collisions.map .collided else []) ∧
        Event.warningsOf .neighbors told.events =
          if f.configuration.logUnresolved.isTruthy then r.last.warnings.map .unresolved else []) ∧
    (∀ (r : NeighborReader) (path : String),
      Event.warnings (r.loadFile fs path).2.events =
          (if r.begins (.file fs path) then
            if r.settings.logUnresolved.isTruthy then
              (r.loadFile fs path).1.last.warnings.map .unresolved else []
          else []) ∧
        (r.begins (.file fs path) = false → (r.loadFile fs path).1 = r)) ∧
    ∀ s fault, Indexing.items warn { events := [.indexStarted] } objects = .error (s, fault) →
      (∀ g, fault ≠ .unwritable g) →
        told.result = .error (.objects fault) ∧ (f.load fs objects).1 = f ∧
          Event.warningsOf .labels told.events =
            (if warn then s.collisions.map .collided else []) ∧
          Event.warningsOf .neighbors told.events = [] ∧
          ∀ front item rest itemFault index, objects = front ++ item :: rest →
            item.coerce = .error itemFault → (f.build front).result = .ok index →
              s.collisions = index.collisions := by
  refine ⟨⟨fun h => ?exact, fun h w l w' l' => ?same⟩, fun l => sameButWarnings_of_build rfl,
    fun before c fault hstop => ⟨load_of_stopAt hstop, result_load_ne_unwritable⟩,
    fun index hindex => load_of_indexed hindex, fun r path =>
      ⟨NeighborReader.warnings_loadFile, fun hbegins => ?kept⟩,
    fun s fault hitems hother => ?ended⟩
  case exact =>
    by_contra hnone
    obtain ⟨before, c, fault, hstop⟩ := Collision.exists_stopAt hnone
    exact result_load_ne_of_stopAt hstop (h (.bool false) .null (.bool true) .null).result
  case same => exact load_withTelling (f := f.withTelling w l) h w' l'
  case kept => exact (r.answer_of_not_begins (c := .file fs path) hbegins).1
  case ended =>
    obtain ⟨hresult, hkept, hlabels, hneighbors⟩ := load_of_items_error (f := f) hitems hother
    refine ⟨hresult, hkept, hlabels, hneighbors, ?_⟩
    rintro front item rest itemFault index rfl hitem hfront
    exact collisions_eq_of_front hitems hother hitem hfront

end

/-- Two objects with the same label. -/
def collidingItems : List SourceItem :=
  [.record ⟨.int 1, [.text "x"], none⟩, .record ⟨.int 2, [.text "x"], none⟩]

/-- What the label does. -/
def collision : Collision := ⟨.text "x", .int 1, .int 2⟩

/-- A factory that tells all warnings. -/
def tellingFactory : NeighborhoodFactory := { file := "x", configuration := { encoding := .null } }

/-- Their index. -/
def collidingIndex : LabelIndex := ⟨.ofList [(.text "x", .int 2)], 2, [collision]⟩

theorem result_build_colliding :
    (tellingFactory.build collidingItems).result = .ok collidingIndex :=
  LabelIndex.result_build_eq_ok_iff.mpr ⟨by decide +kernel, rfl, rfl⟩

/-- What the reader of the index remembers of a line with an unknown label. -/
theorem warnings_load_colliding :
    ((tellingFactory.reader collidingIndex).loadFile
      (NeighborReader.filesWith (Text.Utf8.encode "x z".toList)) "x").1.last.warnings =
        [⟨"z", 1, 1, false⟩] := by
  have hplain := Text.Utf8.not_isCompressed_encode "x z".toList
  have hreads : (tellingFactory.reader collidingIndex).ReadsFile
      (NeighborReader.filesWith (Text.Utf8.encode "x z".toList)) "x" "x z".toList := by
    refine ⟨NeighborReader.contains_zero_x, _, .own .utf8, NeighborReader.read_filesWith _, rfl, ?_⟩
    rw [Gzip.deliver_of_not_isCompressed hplain]
    exact ⟨rfl, .inl (Delivery.bytes_ofBytes (ε := GzipError) _)⟩
  have hlines : (Text.linesOfWhole "x z".toList).map String.ofList = ["x z"] := by decide +kernel
  rw [(NeighborReader.loadFile_of_readsFile hreads).1, hlines,
    NeighborReader.warnings_loadLines (by decide +kernel)]
  decide +kernel

/-- The smallest whole number that is not written. -/
def longIdentifier : Value := .int (Int.ofNat (Nat.pow 10 Value.maxDigits))

/-- Two objects with the same label, the first of which has this number. -/
def longItems : List SourceItem :=
  [.record ⟨longIdentifier, [.text "x"], none⟩, .record ⟨.int 1, [.text "x"], none⟩]

theorem stopAt_long :
    Collision.StopAt (LabelIndex.found longItems) [] ⟨.text "x", longIdentifier, .int 1⟩
      .longInteger :=
  ⟨⟨[], by decide +kernel⟩, by simp, by decide +kernel⟩

/-- A reader that has loaded a line with an unknown label does not come to reading lines of a file
that is missing. -/
theorem begins_missing :
    ((tellingFactory.reader collidingIndex).loadFile
      (NeighborReader.filesWith (Text.Utf8.encode "x z".toList)) "x").1.begins
        (.file (NeighborReader.filesWith (Text.Utf8.encode "x z".toList)) "y") = false := by
  have hfresh : ((tellingFactory.reader collidingIndex).loadFile
      (NeighborReader.filesWith (Text.Utf8.encode "x z".toList)) "x").1.fresh =
        (tellingFactory.reader collidingIndex).fresh := NeighborReader.fresh_answer _ (.file _ "x")
  have hopen : TextStream.openFile (NeighborReader.filesWith (Text.Utf8.encode "x z".toList)) "y"
      .null = .error (.reading (.opening ⟨.notFound, "y"⟩)) :=
    TextStream.openFile_eq_error_iff.mpr (.inr ⟨NeighborReader.contains_zero_y,
      .inl ⟨_, NeighborReader.read_filesWith_other _, rfl⟩⟩)
  rw [← NeighborReader.begins_fresh, hfresh]
  exact congrArg Except.isOk hopen

theorem load_telling_colliding :
    let fs := NeighborReader.filesWith (Text.Utf8.encode "x z".toList)
    let told := (tellingFactory.load fs collidingItems).2
    let again := ((tellingFactory.reader collidingIndex).loadFile fs "x").1.loadFile fs "y"
    let ended := (tellingFactory.load fs (collidingItems ++ [.loose (.int 5)])).2
    Event.warningsOf .labels told.events = [.collided collision] ∧
      Event.warningsOf .neighbors told.events = [.unresolved ⟨"z", 1, 1, false⟩] ∧
      Event.warningsOf .labels ended.events = [.collided collision] ∧
      Event.warningsOf .neighbors ended.events = [] ∧
      (tellingFactory.load fs longItems).2.result = .error (.objects (.unwritable .longInteger)) ∧
      Event.warnings again.2.events = [] ∧ again.1.last.warnings = [⟨"z", 1, 1, false⟩] ∧
      SameButWarnings (tellingFactory.load fs collidingItems)
        ((tellingFactory.withTelling .null .null).load fs collidingItems) := by
  intro fs told again ended
  obtain ⟨hsame, -, -, hindexed, hagain, -⟩ := load_telling tellingFactory fs collidingItems
  obtain ⟨-, -, hstop, -⟩ := load_telling tellingFactory fs longItems
  obtain ⟨-, -, -, -, -, hended⟩ :=
    load_telling tellingFactory fs (collidingItems ++ [.loose (.int 5)])
  obtain ⟨r, hr, -, hlabels, hneighbors⟩ := hindexed collidingIndex result_build_colliding
  rw [load_of_index result_build_colliding] at hr
  obtain rfl := Option.some.inj hr
  have hremembered : ((tellingFactory.reader collidingIndex).loadFile fs
      tellingFactory.file).1.last.warnings = _ := warnings_load_colliding
  rw [hremembered] at hneighbors
  have hitems : Indexing.items true { events := [.indexStarted] }
      (collidingItems ++ [.loose (.int 5)]) = _ := Indexing.items_eq _ _ (by decide +kernel)
  obtain ⟨-, -, hlabels', hneighbors', hfront⟩ := hended _ (.badItem .notIterable) hitems nofun
  rw [hfront collidingItems _ [] _ collidingIndex rfl rfl result_build_colliding] at hlabels'
  obtain ⟨htold, hkept⟩ := hagain ((tellingFactory.reader collidingIndex).loadFile fs "x").1 "y"
  rw [begins_missing] at htold
  have hlast : again.1 = _ := hkept begins_missing
  exact ⟨hlabels, hneighbors, hlabels', hneighbors', by rw [(hstop _ _ _ stopAt_long).1 rfl],
    htold, hlast ▸ hremembered, hsame.mpr (by decide +kernel) (.bool true) (.bool true) .null .null⟩

/-- Whether collisions are told can make a difference to what a load comes to. -/
theorem not_forall_result_load_withTelling :
    ¬ ∀ (f : NeighborhoodFactory) (fs : FileSystem) (objects : List SourceItem)
      (warnOnCollision logUnresolved : Value),
      ((f.withTelling warnOnCollision logUnresolved).load fs objects).2.result =
        (f.load fs objects).2.result := by
  intro h
  have htelling := h (tellingFactory.withTelling (.bool false) .null) (NeighborReader.filesWith [])
    longItems (.bool true) .null
  have hsettings : (tellingFactory.withTelling (.bool false) .null).withTelling (.bool true) .null =
      tellingFactory.withTelling (.bool true) .null := rfl
  rw [hsettings] at htelling
  exact result_load_ne_of_stopAt stopAt_long htelling

end NeighborhoodFactory

end Vicinity
