import Vicinity.Configuration
import Vicinity.Proofs.FileSystem.Path
import Vicinity.Proofs.Json.RoundTrip
import Vicinity.Proofs.Text.Codec.Utf8
import Vicinity.Proofs.Text.LineEnds

/-!
# Configurations that are saved

The file of a configuration that comes from a dictionary is in the normal form of its path
(`Configuration.HasNormalFile`), so its dictionary comes back to the configuration
(`ofDict_toDict`). If the dictionary can be held by a text then that of the configuration can
too, and what is saved is read again at its path (`Configuration.load_save`).
-/

namespace Vicinity

namespace Configuration

open Json Vicinity.Path

variable {c : Configuration} {d : Value}

/-! ## Dictionaries -/

/-- What a dictionary says for a setting. -/
def setting (entries : List (String × Value)) (key : String) (default : Value) : Value :=
  (Value.lookup? entries key).getD default

/-- What a dictionary says for the file, under either of its keys. -/
def fileSetting (entries : List (String × Value)) : Value :=
  setting entries fileKey (setting entries "file" .null)

/-- What a dictionary says is the file, if it counts as set. -/
def file? (entries : List (String × Value)) : Except ConfigurationFault (Option String) :=
  if (fileSetting entries).isTruthy then fileOfSetting (fileSetting entries) else .ok none

theorem ofDict_dict (entries : List (String × Value)) :
    ofDict (.dict entries) = (file? entries).map fun file =>
      { file
        encoding := setting entries "encoding" (.text "utf-8")
        includeSubject := setting entries "include_subject" (.bool false)
        warnOnCollision := setting entries "warn_on_collision" (.bool true)
        logUnresolved := setting entries "log_unresolved" (.bool true) } := by
  have hfile : ofDict (.dict entries) = (file? entries).bind fun file => .ok
      { file
        encoding := setting entries "encoding" (.text "utf-8")
        includeSubject := setting entries "include_subject" (.bool false)
        warnOnCollision := setting entries "warn_on_collision" (.bool true)
        logUnresolved := setting entries "log_unresolved" (.bool true) } := by
    rw [ofDict, file?]
    split
    · rename_i htruthy
      rw [if_pos (show (fileSetting entries).isTruthy = true from htruthy)]
      rfl
    · rename_i htruthy
      rw [if_neg (show ¬ (fileSetting entries).isTruthy = true from htruthy)]
      rfl
  rw [hfile]
  cases file? entries <;> rfl

/-- What is no dictionary has no configuration. -/
theorem exists_of_ofDict (h : ofDict d = .ok c) : ∃ entries file, d = .dict entries ∧
    file? entries = .ok file ∧ c =
      { file
        encoding := setting entries "encoding" (.text "utf-8")
        includeSubject := setting entries "include_subject" (.bool false)
        warnOnCollision := setting entries "warn_on_collision" (.bool true)
        logUnresolved := setting entries "log_unresolved" (.bool true) } := by
  cases d with
  | dict entries =>
    rw [ofDict_dict] at h
    cases hfile : file? entries with
    | error f =>
      rw [hfile] at h
      cases h
    | ok file =>
      rw [hfile] at h
      exact ⟨entries, file, rfl, hfile, (Except.ok.inj h).symm⟩
  | _ => cases h

/-- A file that is set is a text that is not empty, and is kept in its normal form. -/
theorem file?_eq_ok_iff {entries : List (String × Value)} {file : Option String} :
    file? entries = .ok file ↔
      (fileSetting entries).isTruthy = false ∧ file = none ∨
        ∃ s, fileSetting entries = .text s ∧ s ≠ "" ∧ file = some (normalized s) := by
  rw [file?]
  cases htruthy : (fileSetting entries).isTruthy with
  | false =>
    have hne (s : String) (hs : fileSetting entries = .text s) : s = "" := by
      simpa [hs, Value.isTruthy] using htruthy
    rw [if_neg Bool.false_ne_true]
    constructor
    · rintro ⟨⟩
      exact .inl ⟨rfl, rfl⟩
    · rintro (⟨-, rfl⟩ | ⟨s, hs, hs', -⟩)
      · rfl
      · exact absurd (hne s hs) hs'
  | true =>
    rw [if_pos rfl]
    cases hfile : fileSetting entries with
    | text s =>
      rw [hfile] at htruthy
      have hs : s ≠ "" := by simpa [Value.isTruthy] using htruthy
      constructor
      · rintro ⟨⟩
        exact .inr ⟨s, rfl, hs, rfl⟩
      · rintro (⟨h, -⟩ | ⟨_, ⟨⟩, -, rfl⟩)
        · cases h
        · rfl
    | null =>
      rw [hfile] at htruthy
      cases htruthy
    | _ => simp [fileOfSetting]

/-- Whether the file is in the normal form of its path. -/
def HasNormalFile (c : Configuration) : Prop := ∀ f ∈ c.file, normalized f = f

theorem hasNormalFile_of_ofDict (h : ofDict d = .ok c) : c.HasNormalFile := by
  obtain ⟨entries, file, -, hfile, rfl⟩ := exists_of_ofDict h
  intro f hf
  obtain ⟨-, rfl⟩ | ⟨s, -, -, rfl⟩ := file?_eq_ok_iff.mp hfile
  · cases hf
  · cases hf
    exact normalized_normalized s

/-- The dictionary of a configuration comes back to it. -/
theorem ofDict_toDict (h : c.HasNormalFile) : ofDict c.toDict = .ok c := by
  obtain ⟨file, encoding, includeSubject, warnOnCollision, logUnresolved⟩ := c
  rw [toDict, ofDict_dict]
  cases file with
  | none => rfl
  | some f =>
    have hf : normalized f = f := h f rfl
    have hne : f ≠ "" := fun he => normalized_ne_empty f (hf.trans he)
    have hfile : file? [(fileKey, .text f), ("encoding", encoding),
        ("include_subject", includeSubject), ("warn_on_collision", warnOnCollision),
        ("log_unresolved", logUnresolved)] = .ok (some f) :=
      file?_eq_ok_iff.mpr (.inr ⟨f, rfl, hne, by rw [hf]⟩)
    exact congrArg (Except.map _) hfile

/-! ## Files -/

/-- The settings of a dictionary that a text can hold can be held by a text. -/
theorem isReadable_setting {depth : Nat} {entries : List (String × Value)}
    (h : ∀ e ∈ entries, IsReadable depth e.2) (key : String) {default : Value}
    (hdefault : IsReadable depth default) : IsReadable depth (setting entries key default) := by
  rw [setting, Value.lookup?]
  cases hfind : entries.find? fun e => e.1 == key with
  | none => exact hdefault
  | some e => exact h e (List.mem_of_find?_eq_some hfind)

/-- The dictionary of a configuration can be held by a text if the one that it comes from can. -/
theorem isReadable_toDict {depth : Nat} (hd : IsReadable depth d) (h : ofDict d = .ok c) :
    IsReadable depth c.toDict := by
  obtain ⟨entries, file, rfl, -, rfl⟩ := exists_of_ofDict h
  cases hd with
  | @dict depth _ hkeys hentries =>
    have hnames : [fileKey, "encoding", "include_subject", "warn_on_collision",
        "log_unresolved"].Nodup := by decide
    refine .dict hnames ?_
    have hfile : IsReadable depth ((file.map Value.text).getD .null) := by
      cases file with
      | none => exact .null depth
      | some f => exact .text depth f
    simp only [List.forall_mem_cons]
    exact ⟨hfile, isReadable_setting hentries _ (.text depth _),
      isReadable_setting hentries _ (.bool depth _), isReadable_setting hentries _ (.bool depth _),
      isReadable_setting hentries _ (.bool depth _), by simp⟩

/-- The bytes of a configuration are read as it. -/
theorem ofBytes_encode (hc : IsReadable maxDepth c.toDict) (h : c.HasNormalFile) :
    ofBytes (Text.Utf8.encode c.toText.toList) = .ok c := by
  have hdecode : Text.Codec.utf8.decode true 0 (Text.Utf8.encode c.toText.toList) =
      .ok (c.toText.toList, []) :=
    Text.Codec.decode_final_eq_ok_iff.mpr ⟨rfl, Text.Codec.reads_utf8_iff.mpr rfl⟩
  have hreturn : '\r' ∉ c.toText.toList := by
    rw [toText, indented, String.toList_ofList]
    exact hc.return_not_mem 0
  have hread : read c.toText = .ok c.toDict := read_indented hc
  simp only [ofBytes, hdecode, Text.unifyLineEnds_of_not_mem hreturn, String.ofList_toList, ofText,
    hread, ofDict_toDict h]

/-- A configuration is saved if and only if its path leads to where a file can be. -/
theorem exists_save_iff {fs : FileSystem} {path : String} : (∃ fs', c.save fs path = .ok fs') ↔
    path.contains '\x00' = false ∧ ∃ names, fs.locateNew path = .ok names := by
  rw [save, FileSystem.write]
  cases path.contains '\x00' with
  | true => simp
  | false => cases fs.locateNew path <;> simp [Except.mapError]

/-- What is saved is loaded. -/
theorem load_of_save {fs fs' : FileSystem} {path : String} (hc : IsReadable maxDepth c.toDict)
    (h : c.HasNormalFile) (hsave : c.save fs path = .ok fs') : load fs' path = ⟨[], .ok c⟩ := by
  have hnul := (exists_save_iff.mp ⟨fs', hsave⟩).1
  have hwrite : fs.write path (.file (Text.Utf8.encode c.toText.toList)) = .ok fs' := by
    rw [save, hnul] at hsave
    cases hw : fs.write path (.file (Text.Utf8.encode c.toText.toList)) with
    | error e =>
      rw [hw] at hsave
      cases hsave
    | ok fs'' =>
      rw [hw] at hsave
      exact congrArg Except.ok (Except.ok.inj hsave)
  obtain ⟨names, -, -, hlocate, hfind⟩ := FileSystem.locate_of_write hwrite
  have hnormal := FileSystem.locate_normalized hlocate
  have hexists : fs'.exists? (normalized path) = .ok true := by
    simp only [FileSystem.exists?, hnormal, hfind, Option.isSome_some]
  have hread : fs'.read (normalized path) = .ok (Text.Utf8.encode c.toText.toList) := by
    simp only [FileSystem.read, FileSystem.open?, hnormal, hfind]
  rw [load]
  simp only [contains_zero_normalized hnul, hexists, hread, ofBytes_encode hc h, Bool.false_eq_true,
    if_false]

/-- A configuration of a dictionary survives being a dictionary : its dictionary comes back to it
and does not change any more. A file that is set is kept in the normal form of its path, which is
its own and never empty, so that it stays set. The configuration of a dictionary that a JSON text
can hold survives being saved too : wherever it is saved it is loaded again. -/
theorem load_save {d : Value} {c : Configuration} (hc : ofDict d = .ok c) :
    ofDict c.toDict = .ok c ∧ (∀ c', ofDict c.toDict = .ok c' → c'.toDict = c.toDict) ∧
    (∀ entries, d = .dict entries →
      (fileSetting entries).isTruthy = false ∧ c.file = none ∨
        ∃ f, fileSetting entries = .text f ∧ f ≠ "" ∧ c.file = some (normalized f)) ∧
    (∀ path, normalized (normalized path) = normalized path ∧ normalized path ≠ "") ∧
    ∀ s, Json.read s = .ok d → ∀ fs path,
      ((∃ fs', c.save fs path = .ok fs') ↔
        path.contains '\x00' = false ∧ ∃ names, fs.locateNew path = .ok names) ∧
      ∀ fs', c.save fs path = .ok fs' → load fs' path = ⟨[], .ok c⟩ := by
  have hnormal := hasNormalFile_of_ofDict hc
  have hback := ofDict_toDict hnormal
  refine ⟨hback, fun c' h => ?_, fun entries hd => ?_,
    fun path => ⟨normalized_normalized path, normalized_ne_empty path⟩, fun s hread fs path => ?_⟩
  · rw [hback] at h
    cases h
    rfl
  · obtain ⟨entries', file, rfl, hfile, rfl⟩ := exists_of_ofDict hc
    cases hd
    exact file?_eq_ok_iff.mp hfile
  · have hreadable := isReadable_toDict (isReadable_of_read hread) hc
    exact ⟨exists_save_iff, fun fs' => load_of_save hreadable hnormal⟩

/-- An object with a file under the second key, an encoding that is a list, and a flag that is an
object. -/
def objectText : String :=
  "\x7b\"file\": \"//a/./b//\", \"encoding\": [2.50, \"\\u00e9\\ud83d\\ude00\\n\"], " ++
    "\"log_unresolved\": \x7b\"k\": -0.0, \"\": 1e400\x7d\x7d"

/-- The object. -/
def objectDict : Value :=
  .dict [("file", .text "//a/./b//"),
    ("encoding", .list [.float (Binary64.ofScientific false 25 (-1)), .text "é😀\n"]),
    ("log_unresolved", .dict [("k", .float (.zero true)), ("", .float (.infinite false))])]

/-- Its configuration. -/
def objectConfiguration : Configuration where
  file := some "//a/b"
  encoding := .list [.float (Binary64.ofScientific false 25 (-1)), .text "é😀\n"]
  logUnresolved := .dict [("k", .float (.zero true)), ("", .float (.infinite false))]

theorem load_save_object :
    ofDict objectConfiguration.toDict = .ok objectConfiguration ∧
      ∃ fs', objectConfiguration.save (.ofWorkingDirectory []) "./c.json" = .ok fs' ∧
        load fs' "./c.json" = ⟨[], .ok objectConfiguration⟩ := by
  have hread : Json.read objectText = .ok objectDict := by decide +kernel
  have hc : ofDict objectDict = .ok objectConfiguration := by
    have hnormal : normalized "//a/./b//" = "//a/b" := by decide +kernel
    rw [objectDict, ofDict_dict,
      file?_eq_ok_iff.mpr (.inr ⟨"//a/./b//", rfl, by decide, rfl⟩), hnormal]
    rfl
  obtain ⟨hback, -, -, -, hfiles⟩ := load_save hc
  obtain ⟨hsaves, hloads⟩ := hfiles objectText hread (.ofWorkingDirectory []) "./c.json"
  have hnul : "./c.json".contains '\x00' = false := Text.contains_eq_false (by decide)
  obtain ⟨fs', hsave⟩ := hsaves.mpr ⟨hnul, ["c.json"], rfl⟩
  exact ⟨hback, fs', hsave, hloads fs' hsave⟩

end Configuration

end Vicinity
