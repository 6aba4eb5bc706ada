import Vicinity.Binary64
import Vicinity.Binary64.Text
import Vicinity.Checksum
import Vicinity.Column
import Vicinity.Column.Cast
import Vicinity.Column.Cell
import Vicinity.Column.Type
import Vicinity.Command.Arguments
import Vicinity.Command.Message
import Vicinity.Command.Run
import Vicinity.Configuration
import Vicinity.Csv
import Vicinity.Deflate.Bits
import Vicinity.Deflate.Code
import Vicinity.Deflate.Inflate
import Vicinity.Delivery
import Vicinity.Event
import Vicinity.FileSystem
import Vicinity.FileSystem.Expand
import Vicinity.Frame
import Vicinity.Frame.Json
import Vicinity.Glob
import Vicinity.Gzip
import Vicinity.Json.Reader
import Vicinity.Json.Writer
import Vicinity.LabelIndex
import Vicinity.Load
import Vicinity.Main
import Vicinity.NeighborFile
import Vicinity.NeighborReader
import Vicinity.NeighborStore
import Vicinity.Neighborhood
import Vicinity.Object
import Vicinity.ObjectTable
import Vicinity.OrderedMap
import Vicinity.Partition
import Vicinity.Path
import Vicinity.Pattern
import Vicinity.Pattern.CharSet
import Vicinity.Pattern.Reader
import Vicinity.Platform
import Vicinity.Proofs.Appends
import Vicinity.Proofs.Binary64.Rounding
import Vicinity.Proofs.Binary64.Text
import Vicinity.Proofs.Bytes
import Vicinity.Proofs.Column
import Vicinity.Proofs.Command.Invalid
import Vicinity.Proofs.Command.Run
import Vicinity.Proofs.Command.Summary
import Vicinity.Proofs.Command.Tables
import Vicinity.Proofs.Configuration
import Vicinity.Proofs.Csv
import Vicinity.Proofs.Deflate.Continues
import Vicinity.Proofs.Deflate.Format
import Vicinity.Proofs.Deflate.Steady
import Vicinity.Proofs.Event
import Vicinity.Proofs.Except
import Vicinity.Proofs.FileSystem
import Vicinity.Proofs.FileSystem.Agreement
import Vicinity.Proofs.FileSystem.Path
import Vicinity.Proofs.Frame
import Vicinity.Proofs.Frame.Forms
import Vicinity.Proofs.Frame.Json
import Vicinity.Proofs.Gzip.Damaged
import Vicinity.Proofs.Gzip.Format
import Vicinity.Proofs.Gzip.Pack
import Vicinity.Proofs.Gzip.Step
import Vicinity.Proofs.Gzip.Truncated
import Vicinity.Proofs.Index.Build
import Vicinity.Proofs.Index.Collisions
import Vicinity.Proofs.Index.Forms
import Vicinity.Proofs.Index.Pass
import Vicinity.Proofs.Index.SourceOrder
import Vicinity.Proofs.Index.Table
import Vicinity.Proofs.Json.Numbers
import Vicinity.Proofs.Json.Readable
import Vicinity.Proofs.Json.RoundTrip
import Vicinity.Proofs.Json.Strings
import Vicinity.Proofs.Load.Broken
import Vicinity.Proofs.Load.Concatenation
import Vicinity.Proofs.Load.Content
import Vicinity.Proofs.Load.Counts
import Vicinity.Proofs.Load.File
import Vicinity.Proofs.Load.IncludedSubject
import Vicinity.Proofs.Load.LineEnds
import Vicinity.Proofs.Load.MoreLabels
import Vicinity.Proofs.Load.Outcome
import Vicinity.Proofs.Load.Pairs
import Vicinity.Proofs.Load.Reordered
import Vicinity.Proofs.Load.Resolution
import Vicinity.Proofs.Load.Reuse
import Vicinity.Proofs.Load.Step
import Vicinity.Proofs.Load.Store
import Vicinity.Proofs.Load.Told
import Vicinity.Proofs.Load.Warnings
import Vicinity.Proofs.NeighborFile
import Vicinity.Proofs.Neighborhood
import Vicinity.Proofs.Neighborhood.Encoding
import Vicinity.Proofs.Neighborhood.Rejected
import Vicinity.Proofs.Neighborhood.Told
import Vicinity.Proofs.ObjectRow
import Vicinity.Proofs.ObjectTable
import Vicinity.Proofs.ObjectTable.Texts
import Vicinity.Proofs.Pairs
import Vicinity.Proofs.Path
import Vicinity.Proofs.Store.Calls
import Vicinity.Proofs.Store.Lookup
import Vicinity.Proofs.Store.Merge
import Vicinity.Proofs.Store.Spelling
import Vicinity.Proofs.Store.Table
import Vicinity.Proofs.Stream
import Vicinity.Proofs.Stream.Failure
import Vicinity.Proofs.TableLibrary
import Vicinity.Proofs.Text.Codec
import Vicinity.Proofs.Text.Codec.SingleByte
import Vicinity.Proofs.Text.Codec.Utf16
import Vicinity.Proofs.Text.Codec.Utf8
import Vicinity.Proofs.Text.Decoder
import Vicinity.Proofs.Text.Encoding
import Vicinity.Proofs.Text.EndedLine
import Vicinity.Proofs.Text.LineEnds
import Vicinity.Proofs.Text.Mark
import Vicinity.Proofs.Text.Numeral
import Vicinity.Proofs.Text.Pause
import Vicinity.Proofs.Text.Registered
import Vicinity.Proofs.Text.Tokens
import Vicinity.Proofs.Value.Equality
import Vicinity.Selection
import Vicinity.Stream
import Vicinity.TableLibrary
import Vicinity.TableLibrary.Message
import Vicinity.TableLibrary.Standard
import Vicinity.Text.Case
import Vicinity.Text.Codec
import Vicinity.Text.Codec.SingleByte
import Vicinity.Text.Codec.Utf16
import Vicinity.Text.Codec.Utf8
import Vicinity.Text.Decoder
import Vicinity.Text.Digit
import Vicinity.Text.Encoding
import Vicinity.Text.Hexadecimal
import Vicinity.Text.Name
import Vicinity.Text.Printable
import Vicinity.Text.Quoted
import Vicinity.Text.Tokens
import Vicinity.Text.Word
import Vicinity.Value
import Vicinity.Value.Literal
import Vicinity.Value.Same
import Vicinity.Zlib
