import Vicinity.Text.Name

/-!
# Registered names

What is registered under a name is an encoding of text or a transformation of bytes. Each
transformation has its own names, and none of them is a name of an encoding
(`Encoding.lookup?_eq_transformation_iff`). A file can be read with a registered name if and only
if it is no name of a transformation (`Encoding.ofSetting_of_registered`), whatever other names
the platform knows.
-/

namespace Vicinity

namespace Encoding

/-! ## Names of transformations -/

/-- The names of transformations have no full stops. -/
theorem undotted_transformation :
    ∀ name ∈ transformationNames ++ transformationAliases, undotted name = name := by
  decide +kernel

/-- No encoding has a name of a transformation, be it with full stops for underscores. -/
theorem not_mem_transformation :
    ∀ e ∈ all, ∀ name ∈ e.properNames ++ e.aliases, name ∉ transformationNames ++
      transformationAliases ∧ undotted name ∉ transformationNames ++ transformationAliases := by
  decide +kernel

theorem isNamed_iff {properNames aliases : List String} {name : String} :
    isNamed properNames aliases name = true ↔
      name ∈ properNames ++ aliases ∨ undotted name ∈ aliases := by
  simp [isNamed, or_assoc]

theorem not_isNamed_of_transformation {e : Encoding} {name : String} (he : e ∈ all)
    (h : isNamed transformationNames transformationAliases name = true) :
    isNamed e.properNames e.aliases name = false := by
  have hname : undotted name ∈ transformationNames ++ transformationAliases := by
    obtain h | h := isNamed_iff.mp h
    · rwa [undotted_transformation name h]
    · exact List.mem_append_right _ h
  rw [Bool.eq_false_iff, Ne, isNamed_iff]
  rintro (hproper | halias)
  · exact (not_mem_transformation e he name hproper).2 hname
  · exact (not_mem_transformation e he _ (List.mem_append_right _ halias)).1 hname

theorem named?_of_isTransformation {name : String} (h : isTransformation name = true) :
    named? name = none :=
  List.find?_eq_none.mpr fun e he => by
    simpa using not_isNamed_of_transformation he h

/-- The setting is a name of a transformation of bytes, however it is spelled. -/
def NamesTransformation (setting : Value) : Prop :=
  ∃ name, setting = .text name ∧ isTransformation name = true

/-! ## Registered settings -/

variable [Platform] {setting : Value}

theorem lookup?_eq_transformation_iff {name : String} :
    lookup? name = some .transformation ↔ isTransformation name = true := by
  rw [lookup?]
  constructor
  · intro h
    split at h
    · cases h
    · split at h
      · assumption
      · cases hforeign : Platform.decoder? name <;> simp [hforeign] at h
  · intro h
    rw [named?_of_isTransformation h]
    exact if_pos h

theorem lookup?_of_named? {name : String} {e : Encoding} (h : named? name = some e) :
    lookup? name = some (.encoding e) := by
  rw [lookup?, h]

/-- Only texts are registered. -/
theorem exists_text_of_registered {r : Registered} (h : registered setting = .ok r) :
    ∃ name, setting = .text name := by
  cases setting <;> first | exact ⟨_, rfl⟩ | cases h

theorem registered_text_iff {name : String} {r : Registered} :
    registered (.text name) = .ok r ↔ name.contains '\x00' = false ∧ lookup? name = some r := by
  rw [registered]
  cases name.contains '\x00' <;> cases lookup? name <;> simp

theorem registered_of_lookup? {name : String} {r : Registered} (hnul : '\x00' ∉ name.toList)
    (h : lookup? name = some r) : registered (.text name) = .ok r := by
  have hcontains : name.contains '\x00' = false := by simpa [String.contains_char_eq] using hnul
  exact registered_text_iff.mpr ⟨hcontains, h⟩

theorem registered_eq_transformation_iff (h : ∃ r, registered setting = .ok r) :
    registered setting = .ok .transformation ↔ NamesTransformation setting := by
  obtain ⟨r, hr⟩ := h
  obtain ⟨name, rfl⟩ := exists_text_of_registered hr
  obtain ⟨hnul, -⟩ := registered_text_iff.mp hr
  rw [registered_text_iff, and_iff_right hnul, lookup?_eq_transformation_iff]
  simp [NamesTransformation]

/-- A file can be read with a registered encoding, though one name stands for that of the
platform. -/
theorem exists_ofSetting_of_encoding {e : TextEncoding}
    (h : registered setting = .ok (.encoding e)) : ∃ e', ofSetting setting = .ok e' := by
  rw [ofSetting]
  split
  · exact ⟨_, rfl⟩
  · exact ⟨e, by simp [h, pure, Except.pure, bind, Except.bind]⟩

theorem ofSetting_of_named? {name : String} {e : Encoding} (hnul : '\x00' ∉ name.toList)
    (h : named? name = some e) : ofSetting (.text name) = .ok e := by
  have hregistered := registered_of_lookup? hnul (lookup?_of_named? h)
  have hname : name ≠ "locale" := by
    rintro rfl
    have hlocale : named? "locale" = none := by decide +kernel
    rw [hlocale] at h
    cases h
  simp [ofSetting, hregistered, hname, pure, Except.pure, bind, Except.bind]

theorem ofSetting_of_transformation (h : registered setting = .ok .transformation) :
    ofSetting setting = .error .unknown := by
  obtain ⟨name, rfl⟩ := exists_text_of_registered h
  have htransformation := lookup?_eq_transformation_iff.mp (registered_text_iff.mp h).2
  have hname : name ≠ "locale" := by
    rintro rfl
    exact absurd htransformation (by decide +kernel)
  simp [ofSetting, h, hname, throw, throwThe, MonadExceptOf.throw, bind, Except.bind]

/-- Files can be read with a registered name if and only if it is no name of a transformation. -/
theorem ofSetting_of_registered (h : ∃ r, registered setting = .ok r) :
    ((∃ e, ofSetting setting = .ok e) ↔ ¬ NamesTransformation setting) ∧
      ∀ g, ofSetting setting = .error g ↔ g = .unknown ∧ NamesTransformation setting := by
  rw [← registered_eq_transformation_iff h]
  obtain ⟨r, hr⟩ := h
  cases r with
  | encoding e =>
    obtain ⟨e', he'⟩ := exists_ofSetting_of_encoding hr
    simp [he', hr]
  | transformation => simp [ofSetting_of_transformation hr, hr, eq_comm]

end Encoding

end Vicinity
