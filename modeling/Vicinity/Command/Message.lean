import Vicinity.Command.Run
import Vicinity.TableLibrary.Message

/-!
# Messages of the command

What the command says besides its results : how it is used, what happens while it runs, and why
it fails.
-/

namespace Vicinity

/-! ## Events -/

/-- The name of a level. -/
def Level.name : Level → String
  | debug => "DEBUG"
  | info => "INFO"
  | warning => "WARNING"
  | error => "ERROR"

/-- The line about an event. -/
def Event.line (e : Event) : String := e.level.name ++ ": " ++ e.message

/-- Whether an event is worth a line. Details are, only if they are asked for. -/
def Event.isShown (verbose : Bool) (e : Event) : Bool := verbose || e.level ≠ .debug

/-! ## Faults -/

/-- The wording of an encoding that cannot be used. -/
def EncodingFault.message : EncodingFault → String
  | unknown => "Unknown encoding"
  | notText => "The encoding is not a text"
  | containsNul => "The encoding contains a null character"

/-- The wording of a text that is not read as JSON. -/
def Json.Fault.message : Json.Fault → String
  | malformed => "The configuration is not JSON"
  | longInteger => "The configuration holds a number with too many digits"
  | tooDeep => "The configuration is nested too deeply"

/-- The wording of a configuration that is none. -/
def ConfigurationFault.message : ConfigurationFault → String
  | opening e => e.message
  | undecodable e => e.message
  | unreadable f => f.message
  | notDict => "The configuration is not an object"
  | fileNotText => "The neighbor file is not named by a text"
  | unknownSetting name => "Unknown setting " ++ Text.quoted name

/-- The wording of a configuration that cannot be used. -/
def ValidationFault.message : ValidationFault → String
  | invalid i => i.message
  | encodingNotText => EncodingFault.notText.message
  | encodingContainsNul => EncodingFault.containsNul.message

/-- The wording of a value that is not written. -/
def Value.LiteralFault.message : Value.LiteralFault → String
  | longInteger => "A number has too many digits to be written"
  | tooDeep => "A value is nested too deeply to be written"

/-- The wording of objects that are not indexed. -/
def IndexFault.message : IndexFault → String
  | badItem f => f.message
  | unhashableLabel => "A label cannot be a key"
  | unwritable f => f.message

/-- The wording of a load without a store. -/
def LoadFailure.message : LoadFailure → String
  | unreadable f => loadFailureMessage ++ " Cause: " ++ f.message
  | missingMark => missingMarkMessage
  | refused wording => wording
  | pathContainsNul => pathContainsNulMessage
  | encoding f => f.message
  | unhashableSubject => "The identifier of a subject cannot be a key"

namespace Command

/-- The wording of a failure of the command. -/
def Failure.message {lib : TableLibrary} : Failure lib → String
  | configuration f => f.message
  | validation f => f.message
  | blankTable => "The option of the table of objects is without a value"
  | blankColumn => "The option of a column is without a value"
  | table f => lib.message f
  | frame f => f.message
  | objects f => f.message
  | load f => f.message

/-! ## Usage -/

/-- How an option is described. -/
def Switch.description : Switch → String
  | help => "show this help and exit"
  | objects => "table of objects, comma-separated or a written frame (required)"
  | neighbors => "neighbor file, plain or compressed"
  | config => "configuration file"
  | idColumn => "column of identifiers (default: id)"
  | labelColumn => "column of labels (default: labels)"
  | externalIdColumn => "column of external identifiers"
  | includeSubject => "list each subject as its own first neighbor"
  | output => "write the pairs of neighbors to this file"
  | verbose => "tell more while loading"

/-- The line about a spelling of an option. -/
def usageLine (e : String × Switch) : String :=
  "  " ++ e.1 ++ (if e.2.takesValue then " VALUE" else "") ++ ": " ++ e.2.description ++ "\n"

/-- How the command is used. -/
def usage : String :=
  "Load the neighbors of objects from a file.\n\noptions:\n" ++
    String.join (spellings.map usageLine)

end Command

end Vicinity
