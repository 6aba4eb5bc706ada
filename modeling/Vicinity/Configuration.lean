import Vicinity.Event
import Vicinity.Json.Reader
import Vicinity.Json.Writer
import Vicinity.Path
import Vicinity.Value.Same

/-!
# Configurations

A `Configuration` names a neighbor file and says how it is read. Its settings are kept as they
were given; only the file has a form of its own, the normal form of its path, and whether the
settings can be used is asked later (`Configuration.validate`). As a dictionary a configuration
has five keys (`Configuration.toDict`), and it is saved as the JSON text of that dictionary.
-/

namespace Vicinity

/-- A neighbor file and how it is read. -/
structure Configuration where
  file : Option String := none
  encoding : Value := .text "utf-8"
  includeSubject : Value := .bool false
  warnOnCollision : Value := .bool true
  logUnresolved : Value := .bool true

/-- Why there is no configuration. -/
inductive ConfigurationFault where
  | opening (e : OpenError)
  | undecodable (e : Text.DecodeError)
  /-- The text is not read as JSON. -/
  | unreadable (f : Json.Fault)
  /-- The value is not a dictionary. -/
  | notDict
  /-- The file is not named by a text. -/
  | fileNotText
  /-- There is no setting of that name. -/
  | unknownSetting (name : String)

/-- Why a configuration is not saved. -/
inductive SaveFault where
  | opening (e : OpenError)
  /-- The path contains the character U+0000. -/
  | pathContainsNul

/-- What makes a configuration invalid. -/
inductive Invalidity where
  | missingFile
  | unknownEncoding (name : String)
deriving DecidableEq

/-- Why a configuration cannot be used. -/
inductive ValidationFault where
  | invalid (i : Invalidity)
  | encodingNotText
  | encodingContainsNul
deriving DecidableEq

/-- The key of the neighbor file. -/
def Configuration.fileKey : String := "externalneighbors.file"

/-- The wording of what makes a configuration invalid. -/
def Invalidity.message : Invalidity → String
  | missingFile => "Missing required setting '" ++ Configuration.fileKey ++ "'"
  | unknownEncoding name => "Unknown encoding: " ++ name

namespace Configuration

/-! ## Dictionaries -/

/-- The file of a setting that may be null. -/
def fileOfSetting : Value → Except ConfigurationFault (Option String)
  | .null => .ok none
  | .text s => .ok (some (Path.normalized s))
  | _ => .error .fileNotText

/-- The configuration of a dictionary. The key of the file goes before `file` even if it holds
null, and a value that does not count as set leaves the file unset. Other keys are ignored. -/
def ofDict : Value → Except ConfigurationFault Configuration
  | .dict entries => do
    let setting (key : String) (default : Value) := (Value.lookup? entries key).getD default
    let file := setting fileKey (setting "file" .null)
    return {
      file := ← if file.isTruthy then fileOfSetting file else pure none
      encoding := setting "encoding" (.text "utf-8")
      includeSubject := setting "include_subject" (.bool false)
      warnOnCollision := setting "warn_on_collision" (.bool true)
      logUnresolved := setting "log_unresolved" (.bool true) }
  | _ => .error .notDict

/-- Set one setting by its name. -/
def set (c : Configuration) (name : String) (v : Value) :
    Except ConfigurationFault Configuration :=
  match name with
  | "file" => (fileOfSetting v).map fun file => { c with file }
  | "encoding" => .ok { c with encoding := v }
  | "include_subject" => .ok { c with includeSubject := v }
  | "warn_on_collision" => .ok { c with warnOnCollision := v }
  | "log_unresolved" => .ok { c with logUnresolved := v }
  | name => .error (.unknownSetting name)

/-- The configuration with some settings, the others as they are by default. -/
def ofSettings (settings : List (String × Value)) : Except ConfigurationFault Configuration :=
  settings.foldlM (fun c e => c.set e.1 e.2) {}

/-- The dictionary of a configuration. -/
def toDict (c : Configuration) : Value :=
  .dict [(fileKey, (c.file.map .text).getD .null), ("encoding", c.encoding),
    ("include_subject", c.includeSubject), ("warn_on_collision", c.warnOnCollision),
    ("log_unresolved", c.logUnresolved)]

/-- Configurations are the same when they name the same file and their settings are the same. -/
def same (a b : Configuration) : Bool :=
  a.file == b.file && decide (a.encoding.Same b.encoding) &&
    decide (a.includeSubject.Same b.includeSubject) &&
    decide (a.warnOnCollision.Same b.warnOnCollision) &&
    decide (a.logUnresolved.Same b.logUnresolved)

/-! ## Use -/

/-- A configuration that can be used names a file, and an encoding that is registered. -/
def validate [Platform] (c : Configuration) : Except ValidationFault String :=
  match c.file with
  | none => .error (.invalid .missingFile)
  | some file =>
    match Encoding.registered c.encoding, c.encoding with
    | .ok _, _ => .ok file
    | .error .unknown, encoding => .error (.invalid (.unknownEncoding encoding.display))
    | .error .notText, _ => .error .encodingNotText
    | .error .containsNul, _ => .error .encodingContainsNul

/-! ## Files -/

/-- The text of a saved configuration. -/
def toText (c : Configuration) : String := Json.indented c.toDict

/-- Save a configuration. -/
def save (c : Configuration) (fs : FileSystem) (path : String) : Except SaveFault FileSystem :=
  if path.contains '\x00' then .error .pathContainsNul
  else (fs.write path (.file (Text.Utf8.encode c.toText.toList))).mapError .opening

/-- The configuration that a text holds. -/
def ofText (s : String) : Except ConfigurationFault Configuration :=
  match Json.read s with
  | .error f => .error (.unreadable f)
  | .ok v => ofDict v

/-- The configuration that bytes hold. -/
def ofBytes (bytes : List UInt8) : Except ConfigurationFault Configuration :=
  match Text.Codec.utf8.decode true 0 bytes with
  | .error e => .error (.undecodable e)
  | .ok (cs, _) => ofText (String.ofList (Text.unifyLineEnds cs))

/-- Load a configuration. Without a file all settings are as they are by default. -/
def load (fs : FileSystem) (path : String) : Told (Except ConfigurationFault Configuration) :=
  let path := Path.normalized path
  let found := if path.contains '\x00' then .ok false else fs.exists? path
  match found with
  | .error e => ⟨[], .error (.opening e)⟩
  | .ok false => ⟨[.configurationMissing path], .ok {}⟩
  | .ok true =>
    match fs.read path with
    | .error e => ⟨[], .error (.opening e)⟩
    | .ok bytes => ⟨[], ofBytes bytes⟩

end Configuration

end Vicinity
