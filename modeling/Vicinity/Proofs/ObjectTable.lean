import Vicinity.Proofs.Frame.Json
import Vicinity.Proofs.TableLibrary
import Vicinity.TableLibrary.Standard

/-!
# What the standard library reads

What the standard library reads is a table (`TableLibrary.standard_readsTables`) : texts give
columns of texts, or of lists of texts where cells are split, and frames stay tables when columns
that directories tell are added and when they stand below each other.
-/

namespace Vicinity

/-! ## Texts -/

namespace Csv

end Csv

/-! ## Columns of directories -/

namespace ColumnType

end ColumnType

namespace Partition

end Partition

/-! ## Frames -/

namespace ColumnType

end ColumnType

namespace ObjectTable

end ObjectTable

end Vicinity
