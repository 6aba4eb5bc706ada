import Vicinity.Proofs.Load.Outcome
import Vicinity.Proofs.Neighborhood
import Vicinity.Proofs.Text.Registered

/-!
# The encoding of a valid configuration

A configuration is valid if its encoding is registered, and a file is read in an encoding of text.
The two differ in the transformations of bytes, which are registered and decode no text. So a valid
configuration can still fail because of its encoding (`NeighborhoodFactory.instantiate_encoding`),
and not before the objects are indexed and the file is opened.
-/

namespace Vicinity

namespace NeighborhoodFactory

section

variable [Platform] {c : Configuration} {f : NeighborhoodFactory}

/-- A valid configuration names a file, and an encoding that is registered. -/
theorem ofConfiguration_eq_ok_iff :
    ofConfiguration c = .ok f ↔ (∃ r, Encoding.registered c.encoding = .ok r) ∧
      ∃ file, c.file = some file ∧ f = { file, configuration := c } := by
  have hof : ofConfiguration c = c.validate.map fun file => { file, configuration := c } := by
    rw [ofConfiguration]
    cases c.validate <;> rfl
  rw [hof, Configuration.validate]
  cases c.file with
  | none => simp [Except.map]
  | some file =>
    cases hr : Encoding.registered c.encoding with
    | ok r => simp [Except.map, eq_comm]
    | error g => cases g <;> simp [Except.map]

/-- A load of a valid configuration fails because of the encoding if it is a transformation of
bytes, the objects are indexed and the file is opened. -/
theorem result_instantiate_eq_encoding_iff (h : ofConfiguration c = .ok f) {fs : FileSystem}
    {objects : List SourceItem} {g : EncodingFault} :
    (f.instantiate fs objects).2.result = .error (.load (.encoding g)) ↔
      g = .unknown ∧ Encoding.NamesTransformation c.encoding ∧
        (∃ index, (f.build objects).result = .ok index) ∧ f.file.contains '\x00' = false ∧
        ∃ bytes, fs.read f.file = .ok bytes := by
  obtain ⟨hregistered, file, -, rfl⟩ := ofConfiguration_eq_ok_iff.mp h
  have hsetting (index : LabelIndex) :
      Encoding.ofSetting (reader ⟨file, c, none⟩ index).settings.encoding = .error g ↔
        g = .unknown ∧ Encoding.NamesTransformation c.encoding :=
    (Encoding.ofSetting_of_registered hregistered).2 g
  simp only [result_instantiate_eq_load_iff, NeighborReader.result_loadFile_eq_encoding_iff,
    hsetting]
  constructor
  · rintro ⟨index, hbuild, hpath, bytes, hread, hg, hname⟩
    exact ⟨hg, hname, ⟨index, hbuild⟩, hpath, bytes, hread⟩
  · rintro ⟨hg, hname, ⟨index, hbuild⟩, hpath, bytes, hread⟩
    exact ⟨index, hbuild, hpath, bytes, hread, hg, hname⟩

/-- The file of a valid configuration can be decoded unless its encoding is a name of a
transformation of bytes, however it is spelled. With such a name every load of the configuration
fails because of the encoding if its objects are indexed and its file is opened; no other load
does. -/
theorem instantiate_encoding (h : ofConfiguration c = .ok f) :
    ((∃ e, Encoding.ofSetting c.encoding = .ok e) ↔
      ¬ Encoding.NamesTransformation c.encoding) ∧
    ∀ (fs : FileSystem) (objects : List SourceItem) (g : EncodingFault),
      (f.instantiate fs objects).2.result = .error (.load (.encoding g)) ↔
        g = .unknown ∧ Encoding.NamesTransformation c.encoding ∧
          (∃ index, (f.build objects).result = .ok index) ∧ f.file.contains '\x00' = false ∧
          ∃ bytes, fs.read f.file = .ok bytes :=
  ⟨(Encoding.ofSetting_of_registered (ofConfiguration_eq_ok_iff.mp h).1).1,
    fun _ _ _ => result_instantiate_eq_encoding_iff h⟩

end

/-- A file, and a way of writing its bytes for an encoding. -/
def hexConfiguration : Configuration := { file := some "x", encoding := .text "-HEX-" }

/-- A file in Latin-1. -/
def latinConfiguration : Configuration := { file := some "x", encoding := .text "ISO 8859-1" }

theorem ofConfiguration_hex :
    ofConfiguration hexConfiguration = .ok ⟨"x", hexConfiguration, none⟩ := by
  have hlookup : Encoding.lookup? "-HEX-" = some .transformation :=
    Encoding.lookup?_eq_transformation_iff.mpr (by decide +kernel)
  have hregistered := Encoding.registered_of_lookup? (by decide) hlookup
  exact ofConfiguration_eq_ok_iff.mpr ⟨⟨_, hregistered⟩, "x", rfl, rfl⟩

theorem namesTransformation_hex : Encoding.NamesTransformation hexConfiguration.encoding :=
  ⟨"-HEX-", rfl, by decide +kernel⟩

theorem instantiate_encoding_hex :
    ofConfiguration hexConfiguration = .ok ⟨"x", hexConfiguration, none⟩ ∧
      (instantiate ⟨"x", hexConfiguration, none⟩ (NeighborReader.filesWith []) []).2.result =
        .error (.load (.encoding .unknown)) ∧
      ofConfiguration latinConfiguration = .ok ⟨"x", latinConfiguration, none⟩ ∧
      ∀ fs objects g, (instantiate ⟨"x", latinConfiguration, none⟩ fs objects).2.result ≠
        .error (.load (.encoding g)) := by
  have hnamed : Encoding.named? "ISO 8859-1" = some .latin1 := by decide +kernel
  have hregistered := Encoding.registered_of_lookup? (by decide) (Encoding.lookup?_of_named? hnamed)
  have hlatin : ofConfiguration latinConfiguration = .ok ⟨"x", latinConfiguration, none⟩ :=
    ofConfiguration_eq_ok_iff.mpr ⟨⟨_, hregistered⟩, "x", rfl, rfl⟩
  obtain ⟨-, hhex⟩ := instantiate_encoding ofConfiguration_hex
  obtain ⟨hdecoded, hother⟩ := instantiate_encoding hlatin
  refine ⟨ofConfiguration_hex, (hhex _ _ _).mpr ?_, hlatin, fun fs objects g hg => ?_⟩
  · exact ⟨rfl, namesTransformation_hex, ⟨_, rfl⟩, NeighborReader.contains_zero_x, _,
      NeighborReader.read_filesWith []⟩
  · have htransforms := ((hother fs objects g).mp hg).2.1
    exact hdecoded.mp ⟨_, Encoding.ofSetting_of_named? (by decide) hnamed⟩ htransforms

/-- A valid configuration does not mean that no load fails because of the encoding. -/
theorem not_forall_instantiate_ne_encoding :
    ¬ ∀ (c : Configuration) (f : NeighborhoodFactory) (fs : FileSystem)
      (objects : List SourceItem) (g : EncodingFault), ofConfiguration c = .ok f →
        (f.instantiate fs objects).2.result ≠ .error (.load (.encoding g)) := by
  intro h
  refine h hexConfiguration _ (NeighborReader.filesWith []) [] .unknown ofConfiguration_hex ?_
  exact (result_instantiate_eq_encoding_iff ofConfiguration_hex).mpr
    ⟨rfl, namesTransformation_hex, ⟨_, rfl⟩, NeighborReader.contains_zero_x, _,
      NeighborReader.read_filesWith []⟩

end NeighborhoodFactory

end Vicinity
