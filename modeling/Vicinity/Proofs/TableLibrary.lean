import Mathlib.Data.List.Forall2
import Vicinity.Csv
import Vicinity.Proofs.Frame
import Vicinity.TableLibrary
import Vicinity.Text.Codec.Utf8

/-!
# Laws of table libraries

What a library of tables does is up to it (`TableLibrary`). A statement about tables names the laws
that it takes the library to keep.

- Columns of different names and of one height make a table if their cells are of one kind
  (`TableLibrary.MakesColumns`).
- A table that is made of scalars of one type for each column has them for its cells
  (`TableLibrary.KeepsColumns`).
- What is read is a table (`TableLibrary.ReadsTables`).
- A text without quotes is read as its rows, with null for a cell that is empty
  (`TableLibrary.ReadsTexts`).
- The texts in a column are split at separators, and nothing else is (`TableLibrary.SplitsTexts`).
-/

namespace Vicinity

/-! ## Values of one type -/

namespace ColumnType

variable {t : ColumnType} {v w : Value}

/-- A value of a type is a scalar that the type is about, if it can be a key and is not null. -/
theorem holds_cases (h : t.holds v) (hkey : v.isHashable) (hne : v ≠ .null) :
    (∃ b, v = .bool b ∧ t = .boolean) ∨ (∃ n, v = .int n ∧ t.holdsInt n) ∨
      (∃ x, v = .float x ∧ t = .float) ∨ ∃ s, v = .text s ∧ t = .text := by
  cases v with
  | null => exact absurd rfl hne
  | bool b => cases t <;> simp_all [holds]
  | int n => cases t <;> simp_all [holds]
  | float x => cases t <;> simp_all [holds]
  | text s => cases t <;> simp_all [holds]
  | tuple items => cases t <;> simp [holds] at h
  | list items => cases hkey
  | dict entries => cases hkey

/-- Texts and whole numbers of 64 bits can be keys. -/
theorem isHashable_of_uniform (ht : t ∈ [text, integer, unsigned]) (h : t.holds v) :
    v.isHashable := by
  simp only [List.mem_cons, List.not_mem_nil, or_false] at ht
  obtain rfl | rfl | rfl := ht
  all_goals cases v <;> simp_all [holds, Value.isHashable]

end ColumnType

/-! ## Making tables -/

namespace Value

/-- The values are all texts, or all whole numbers of 64 bits, with a sign or without, unless they
are null. -/
def AreUniform (vs : List Value) : Prop :=
  ∃ t ∈ [ColumnType.text, .integer, .unsigned], ∀ v ∈ vs, t.holds v

theorem AreUniform.mono {vs ws : List Value} (h : AreUniform vs) (hsub : ∀ w ∈ ws, w ∈ vs) :
    AreUniform ws := by
  obtain ⟨t, ht, hholds⟩ := h
  exact ⟨t, ht, fun w hw => hholds w (hsub w hw)⟩

theorem AreUniform.isHashable {vs : List Value} (h : AreUniform vs) : ∀ v ∈ vs, v.isHashable := by
  obtain ⟨t, ht, hholds⟩ := h
  exact fun v hv => ColumnType.isHashable_of_uniform ht (hholds v hv)

end Value

namespace ColumnCells

/-- Cells of which a column can be made : values of one kind, texts, or positions of 32 bits. -/
inductive ArePlain : ColumnCells → Prop
  | values {cells : List Value} (h : Value.AreUniform cells) : ArePlain (.values cells)
  | texts {cells : List Value} (h : ∀ v ∈ cells, ColumnType.text.holds v) :
    ArePlain (.texts cells)
  | positions {cells : List Nat} (h : ∀ n ∈ cells, n < 0x100000000) : ArePlain (.positions cells)

/-- Named columns with their cells as values. -/
def named (columns : List (String × ColumnCells)) : List (String × List Value) :=
  columns.map fun c => (c.1, c.2.toValues)

end ColumnCells

namespace TableLibrary

/-- Columns of different names and of one height, with cells of one kind, make a table of them. -/
def MakesColumns (lib : TableLibrary) : Prop :=
  ∀ columns : List (String × ColumnCells), (columns.map Prod.fst).Nodup →
    (∃ n, ∀ c ∈ columns, c.2.toValues.length = n) → (∀ c ∈ columns, c.2.ArePlain) →
      ∃ f, lib.make columns = .ok f ∧ f.cells = ColumnCells.named columns

/-- What is read has columns of one height and of the types that they say. -/
structure ReadsTables (lib : TableLibrary) : Prop where
  readFrame {fs : FileSystem} {path : String} {f : Frame} (h : lib.readFrame fs path = .ok f) :
    f.IsTable
  splitTexts {fs : FileSystem} {path name : String} {separator : Char} {f g : Frame}
    (h : lib.readTexts fs path = .ok f) (hg : lib.splitTexts separator name f = .ok g) : g.IsTable

end TableLibrary

/-- The path stands for one file : no part of it is a pattern, a home directory or a scheme. -/
def Path.IsPlain (path : String) : Prop :=
  ∀ c ∈ path.toList, c ∉ ['*', '?', '[', ']', '\x7b', '\x7d', '~', ':', '\x00']

instance : DecidablePred Path.IsPlain := fun path => List.decidableBAll _ path.toList

namespace Csv

/-- The text can stand in a cell without quotes. -/
def IsPlain (s : String) : Prop := ∀ c ∈ s.toList, c ≠ ',' ∧ c ≠ '"' ∧ c ≠ '\r' ∧ c ≠ '\n'

instance : DecidablePred IsPlain := fun s => List.decidableBAll _ s.toList

/-- The text can stand in a cell without quotes, and does not leave it empty. -/
structure IsCell (s : String) : Prop where
  ne_empty : s ≠ ""
  plain : IsPlain s

/-- The line has the cells in it, with commas between them. A carriage return may follow. -/
def IsLine (cells : List String) (line : String) : Prop :=
  line = ",".intercalate cells ∨ line = ",".intercalate cells ++ "\r"

/-- The text has a line for each row, with line feeds between them. One more may follow. -/
def IsText (rows : List (List String)) (text : String) : Prop :=
  ∃ lines, List.Forall₂ IsLine rows lines ∧
    (text = "\n".intercalate lines ∨ text = "\n".intercalate lines ++ "\n")

/-- The cell in which a text stands. -/
def cellOf (s : String) : Value := if s = "" then .null else .text s

/-- The texts can stand in the cells of a row. -/
structure IsRow (width : Nat) (cells : List String) : Prop where
  length_eq : cells.length = width
  plain : ∀ s ∈ cells, IsPlain s

/-- The names can stand in the first line of a text. A text with one column can have rows that look
like blank lines, and one whose first name is the beginning of a mark or of a compressed stream is
taken for what it is not. -/
structure IsHeader (names : List String) : Prop where
  width : 2 ≤ names.length
  plain : ∀ s ∈ names, IsPlain s
  nodup : names.Nodup
  head?_ne : ∀ s ∈ names.head?, s.toList.head? ≠ some '\ufeff'
  not_isCompressed : ∀ s ∈ names.head?, ∀ level ∈ ([0x01, 0x5e, 0x9c, 0xda] : List UInt8),
    ¬ [0x78, level] <+: Text.Utf8.encode s.toList

end Csv

namespace TableLibrary

/-- A text without quotes is read as its rows. All cells are texts, and those that are empty are
null. -/
def ReadsTexts (lib : TableLibrary) : Prop :=
  ∀ {fs : FileSystem} {path text : String} {names : List String} {rows : List (List String)},
    Path.IsPlain path → fs.read path = .ok (Text.Utf8.encode text.toList) →
      Csv.IsHeader names → (∀ row ∈ rows, Csv.IsRow names.length row) →
        Csv.IsText (names :: rows) text →
          lib.readTexts fs path =
            .ok (Csv.frameOfRows names (rows.map fun row => row.map Csv.cellOf))

/-- The name of a column that is not taken for a pattern. -/
def IsColumnName (name : String) : Prop :=
  name ≠ "*" ∧ ¬ (name.toList.head? = some '^' ∧ name.toList.getLast? = some '$')

instance : DecidablePred IsColumnName := fun name => by
  unfold IsColumnName
  infer_instance

/-- The texts in the column of a name are split at the separators, and all else stays as it is. -/
def SplitsTexts (lib : TableLibrary) : Prop :=
  ∀ (separator : Char) (name : String) (f : Frame), IsColumnName name →
    (f.columns.map (·.name)).Nodup → (∃ c ∈ f.columns, c.name = name ∧ c.type = .text) →
      ∃ g, lib.splitTexts separator name f = .ok g ∧ g.cells = f.cells.map fun c =>
        if c.1 = name then (c.1, c.2.map (Csv.splitCell separator)) else c

end TableLibrary

end Vicinity
