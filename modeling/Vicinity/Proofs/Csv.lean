import Mathlib.Data.List.Nodup
import Vicinity.Proofs.TableLibrary
import Vicinity.Proofs.Text.Codec.Utf8
import Vicinity.Proofs.Text.Tokens

/-!
# Tables without quotes

A table of texts without commas, quotes and line ends (`Csv.IsText`) is read as the table that was
written (`Csv.Sheet.exists_of_isText`) : empty texts are nulls, and it makes no difference whether
there are carriage returns at the ends of lines, and a line feed after the last one.
-/

namespace Vicinity

namespace Csv

open Text

/-! ## Writing -/

/-- A text begins with the first cell of its first row. -/
theorem IsText.exists_toList_eq {s s' : String} {cells : List String} {rows : List (List String)}
    {text : String} (h : IsText ((s :: s' :: cells) :: rows) text) :
    ∃ rest, text.toList = s.toList ++ ',' :: rest := by
  obtain ⟨_, hlines, htext⟩ := h
  obtain ⟨line, lines, hline, -, rfl⟩ := List.forall₂_cons_left_iff.mp hlines
  obtain ⟨rest, hrest⟩ : ∃ rest, line.toList = s.toList ++ ',' :: rest := by
    obtain rfl | rfl := hline <;> simp
  have hlong : ∃ more, text.toList = line.toList ++ more := by
    cases lines with
    | nil => obtain rfl | rfl := htext <;> simp
    | cons line' lines =>
      obtain rfl | rfl := htext <;> simp [List.append_assoc]
  obtain ⟨more, hmore⟩ := hlong
  exact ⟨rest ++ more, by rw [hmore, hrest, List.append_assoc, List.cons_append]⟩

/-! ## Fields -/

/-- The bytes of a text. -/
def fieldOf (s : String) : List UInt8 := Utf8.encode s.toList

theorem fieldOf_eq_nil_iff {s : String} : fieldOf s = [] ↔ s = "" := by
  rw [fieldOf, ← String.toList_eq_nil_iff]
  cases s.toList with
  | nil => exact iff_of_true rfl rfl
  | cons c cs =>
    obtain ⟨b, tail, hbytes, -⟩ := Utf8.exists_encode_cons c cs
    rw [hbytes]
    exact iff_of_false (List.cons_ne_nil _ _) (List.cons_ne_nil _ _)

theorem IsPlain.of_mem_fieldOf {s : String} (h : IsPlain s) {b : UInt8} (hb : b ∈ fieldOf s) :
    b ≠ comma ∧ b ≠ quote ∧ b ≠ carriageReturn ∧ b ≠ lineFeed := by
  refine ⟨?_, ?_, ?_, ?_⟩
  all_goals
    rintro rfl
    obtain ⟨hcomma, hquote, hreturn, hfeed⟩ :=
      h _ (Utf8.ofNat_mem_of_mem_encode hb (by decide))
    contradiction

theorem IsPlain.isField {s : String} (h : IsPlain s) :
    ∀ b ∈ fieldOf s, b ≠ quote ∧ isEnd b = false := fun b hb => by
  obtain ⟨hcomma, hquote, -, hfeed⟩ := h.of_mem_fieldOf hb
  exact ⟨hquote, by simp [isEnd, hcomma, hfeed]⟩

/-- A carriage return is taken off. -/
theorem withoutLast_append {b : UInt8} {bytes ending : List UInt8} (h : b ∉ bytes)
    (hending : ending = [] ∨ ending = [b]) : withoutLast b (bytes ++ ending) = bytes := by
  rw [withoutLast]
  obtain rfl | rfl := hending
  · rw [List.append_nil, if_neg fun hlast => h (List.mem_of_getLast? hlast)]
  · rw [if_pos List.getLast?_concat, List.dropLast_concat]

/-- A field goes on to the byte that ends it. -/
theorem spanField_append {field after : List UInt8}
    (hfield : ∀ b ∈ field, b ≠ quote ∧ isEnd b = false) (hafter : ∀ b ∈ after.head?, isEnd b) :
    spanField (field ++ after) = (field, after) := by
  have hquote : (field ++ after).head? ≠ some quote := by
    cases field with
    | nil =>
      intro hhead
      exact absurd (hafter quote hhead) (by decide)
    | cons b field =>
      intro hhead
      exact (hfield b List.mem_cons_self).1 (Option.some.inj hhead)
  have hpos : ∀ b ∈ field, !isEnd b := fun b hb => by rw [(hfield b hb).2, Bool.not_false]
  rw [spanField, if_neg hquote, List.takeWhile_append_of_pos hpos,
    List.dropWhile_append_of_pos hpos]
  cases after with
  | nil => simp
  | cons b rest => simp [hafter b rfl]

theorem cellOfField_append {s : String} (h : IsPlain s) {ending : List UInt8}
    (hending : ending = [] ∨ ending = [carriageReturn]) :
    cellOfField (fieldOf s ++ ending) = .ok (cellOf s) := by
  rw [cellOfField, withoutLast_append (fun hmem => (h.of_mem_fieldOf hmem).2.2.1 rfl) hending]
  split
  · rename_i hnil
    rw [cellOf, if_pos (fieldOf_eq_nil_iff.mp hnil)]
  · rename_i b rest hcons
    have hb : b ≠ quote := (h.of_mem_fieldOf (hcons ▸ List.mem_cons_self)).2.1
    have hne : s ≠ "" := fun hs => by
      rw [fieldOf_eq_nil_iff.mpr hs] at hcons
      cases hcons
    rw [if_neg hb, ← hcons, cellOfBytes, fieldOf, Codec.decode_encode, cellOf, if_neg hne]
    simp

/-! ## Rows -/

/-- The bytes of cells with commas between them. -/
def fieldsOf (cells : List String) : List UInt8 := [comma].intercalate (cells.map fieldOf)

theorem fieldsOf_singleton (s : String) : fieldsOf [s] = fieldOf s := List.intercalate_singleton

theorem fieldsOf_cons_cons (s s' : String) (cells : List String) :
    fieldsOf (s :: s' :: cells) = fieldOf s ++ comma :: fieldsOf (s' :: cells) := by
  simp [fieldsOf, List.intercalate_cons_cons]

theorem length_le_fieldsOf (cells : List String) : cells.length ≤ (fieldsOf cells).length + 1 := by
  induction cells with
  | nil => exact Nat.zero_le _
  | cons s cells ih =>
    cases cells with
    | nil => simp
    | cons s' cells =>
      rw [fieldsOf_cons_cons, List.length_append, List.length_cons (a := s),
        List.length_cons (a := comma)]
      omega

/-- The bytes are those of cells, with a carriage return at the end or without. -/
def WritesRow (cells : List String) (line : List UInt8) : Prop :=
  ∃ ending, (ending = [] ∨ ending = [carriageReturn]) ∧ line = fieldsOf cells ++ ending

section

variable {bytes field after : List UInt8} {v : Value}

/-- A row goes on after a comma. -/
theorem readRow_of_comma {width : Nat} {rest : List UInt8} {cells : List Value}
    (hspan : spanField bytes = (field, comma :: after)) (hcell : cellOfField field = .ok v)
    (hrest : readRow width after = .ok (cells, rest)) :
    readRow (width + 1) bytes = .ok (v :: cells, rest) := by
  rw [readRow, hspan]
  simp only [hcell]
  change Except.bind (readRow width after) _ = _
  rw [hrest]
  rfl

/-- A row ends with a line feed, or with the text. -/
theorem readRow_of_end (hspan : spanField bytes = (field, after))
    (hcell : cellOfField field = .ok v) (hafter : ∀ b ∈ after.head?, b = lineFeed) :
    readRow 1 bytes = .ok ([v], after.tail) := by
  rw [readRow, hspan]
  simp only [hcell]
  cases after with
  | nil => rfl
  | cons b rest =>
    obtain rfl := hafter b rfl
    rfl

end

section

variable {cells : List String} (hplain : ∀ s ∈ cells, IsPlain s)
include hplain

theorem mem_fieldsOf {b : UInt8} (hb : b ∈ fieldsOf cells) :
    b ≠ quote ∧ b ≠ carriageReturn ∧ b ≠ lineFeed := by
  induction cells with
  | nil => cases hb
  | cons s cells ih =>
    obtain ⟨hs, hcells⟩ := List.forall_mem_cons.mp hplain
    cases cells with
    | nil =>
      rw [fieldsOf_singleton] at hb
      exact (hs.of_mem_fieldOf hb).2
    | cons s' cells =>
      rw [fieldsOf_cons_cons, List.mem_append, List.mem_cons] at hb
      obtain hb | rfl | hb := hb
      · exact (hs.of_mem_fieldOf hb).2
      · decide
      · exact ih hcells hb

/-- The cells of a row are read, and its line feed if there is one. -/
theorem readRow_append (hne : cells ≠ []) {line after : List UInt8} (hline : WritesRow cells line)
    (hafter : ∀ b ∈ after.head?, b = lineFeed) :
    readRow cells.length (line ++ after) = .ok (cells.map cellOf, after.tail) := by
  obtain ⟨ending, hending, rfl⟩ := hline
  induction cells with
  | nil => exact absurd rfl hne
  | cons s cells ih =>
    obtain ⟨hs, hcells⟩ := List.forall_mem_cons.mp hplain
    cases cells with
    | nil =>
      -- a carriage return is part of the last field, and only its cell is without it
      have hlast : ∀ b ∈ fieldOf s ++ ending, b ≠ quote ∧ isEnd b = false := fun b hb => by
        obtain hb | hb := List.mem_append.mp hb
        · exact hs.isField b hb
        · obtain rfl | rfl := hending
          · cases hb
          · obtain rfl := List.mem_singleton.mp hb
            decide
      rw [fieldsOf_singleton]
      refine readRow_of_end (spanField_append hlast fun b hb => ?_)
        (cellOfField_append hs hending) hafter
      rw [hafter b hb]
      rfl
    | cons s' cells =>
      have hcell := cellOfField_append hs (.inl rfl)
      rw [List.append_nil] at hcell
      rw [fieldsOf_cons_cons, List.append_assoc, List.append_assoc, List.cons_append,
        ← List.append_assoc (fieldsOf _)]
      refine readRow_of_comma (spanField_append hs.isField fun b hb => ?_) hcell
        (ih hcells (List.cons_ne_nil _ _))
      rw [← Option.some.inj hb]
      rfl

end

/-! ## Lines -/

section

variable {width : Nat} {rows : List (List String)} {lines : List (List UInt8)}

theorem WritesRow.not_mem {cells : List String} {line : List UInt8} (hrow : IsRow width cells)
    (hline : WritesRow cells line) : quote ∉ line ∧ lineFeed ∉ line := by
  obtain ⟨ending, hending, rfl⟩ := hline
  have hreturn : ∀ b ∈ ending, b = carriageReturn := by
    obtain rfl | rfl := hending <;> simp
  have hmem : ∀ b ∈ fieldsOf cells ++ ending, b ≠ quote ∧ b ≠ lineFeed := fun b hb => by
    obtain hb | hb := List.mem_append.mp hb
    · obtain ⟨hquote, -, hfeed⟩ := mem_fieldsOf hrow.plain hb
      exact ⟨hquote, hfeed⟩
    · rw [hreturn b hb]
      decide
  exact ⟨fun h => (hmem _ h).1 rfl, fun h => (hmem _ h).2 rfl⟩

theorem not_mem_of_writes (hrows : ∀ row ∈ rows, IsRow width row)
    (hlines : List.Forall₂ WritesRow rows lines) :
    ∀ line ∈ lines, quote ∉ line ∧ lineFeed ∉ line := by
  induction hlines with
  | nil => simp
  | cons hline _ ih =>
    obtain ⟨hrow, hrows⟩ := List.forall_mem_cons.mp hrows
    exact List.forall_mem_cons.mpr ⟨hline.not_mem hrow, ih hrows⟩

/-- A row of several cells has a comma in it. -/
theorem WritesRow.comma_mem {cells : List String} {line : List UInt8} (hrow : IsRow width cells)
    (hwidth : 2 ≤ width) (hline : WritesRow cells line) : comma ∈ line := by
  obtain ⟨ending, -, rfl⟩ := hline
  obtain ⟨s, s', cells, rfl⟩ : ∃ s s' rest, cells = s :: s' :: rest := by
    match cells, hrow.length_eq with
    | [], hlength => simp at hlength; omega
    | [_], hlength => simp at hlength; omega
    | s :: s' :: rest, _ => exact ⟨s, s', rest, rfl⟩
  rw [fieldsOf_cons_cons]
  simp

theorem readRows_of_readRow {todo : Nat} {bytes rest : List UInt8} {row : List Value}
    {rows : List (List Value)} (hne : bytes ≠ []) (hrow : readRow width bytes = .ok (row, rest))
    (hrest : readRows width todo rest = .ok rows) :
    readRows width (todo + 1) bytes = .ok (row :: rows) := by
  cases bytes with
  | nil => exact absurd rfl hne
  | cons b bytes =>
    rw [readRows, hrow]
    · change Except.bind (readRows width todo rest) _ = _
      rw [hrest]
      rfl
    · exact fun hnil => List.cons_ne_nil _ _ hnil

variable (hwidth : 2 ≤ width)
include hwidth

theorem readRow_of_writes {cells : List String} {line after : List UInt8}
    (hrow : IsRow width cells) (hline : WritesRow cells line)
    (hafter : ∀ b ∈ after.head?, b = lineFeed) :
    readRow width (line ++ after) = .ok (cells.map cellOf, after.tail) := by
  have hne : cells ≠ [] := by
    rintro rfl
    have hlength := hrow.length_eq
    rw [List.length_nil] at hlength
    omega
  rw [← hrow.length_eq]
  exact readRow_append hrow.plain hne hline hafter

/-- A last line without a line feed is a row too. -/
theorem readExactly_last {cells : List String} {line : List UInt8} (hrow : IsRow width cells)
    (hline : WritesRow cells line) :
    readExactly width (lastRowCount line) line = .ok [cells.map cellOf] := by
  have hne : line ≠ [] := List.ne_nil_of_mem (hline.comma_mem hrow hwidth)
  have hcount : lastRowCount line = 1 := by
    rw [lastRowCount, List.getLast?_eq_some_getLast hne]
    refine if_neg fun hfeed => ?_
    exact (hline.not_mem hrow).2 (hfeed ▸ List.getLast_mem hne)
  have hread : readRow width (line ++ []) = .ok (cells.map cellOf, []) :=
    readRow_of_writes hwidth hrow hline fun b hb => by cases hb
  rw [List.append_nil] at hread
  obtain ⟨todo, htodo⟩ := Nat.exists_eq_add_one_of_ne_zero (mt List.length_eq_zero_iff.mp hne)
  have hnone : readRows width todo [] = .ok [] := by cases todo <;> rfl
  rw [readExactly, htodo, readRows_of_readRow hne hread hnone, hcount]
  rfl

variable (hrows : ∀ row ∈ rows, IsRow width row) (hlines : List.Forall₂ WritesRow rows lines)
include hrows hlines

theorem readRows_of_writes {todo : Nat} (htodo : rows.length ≤ todo) :
    readRows width todo (lines.flatMap fun line => line ++ [lineFeed]) =
      .ok (rows.map fun row => row.map cellOf) := by
  induction hlines generalizing todo with
  | nil => cases todo <;> rfl
  | @cons row line rows lines hline hlines ih =>
    obtain ⟨hrow, hrows⟩ := List.forall_mem_cons.mp hrows
    obtain ⟨todo, rfl⟩ := Nat.exists_eq_add_one_of_ne_zero (Nat.ne_zero_of_lt htodo)
    rw [List.flatMap_cons, List.append_assoc]
    refine readRows_of_readRow ?_ (readRow_of_writes hwidth hrow hline fun b hb => ?_)
      (ih hrows (Nat.le_of_succ_le_succ htodo))
    · simp
    · exact (Option.some.inj hb).symm

theorem readExactly_of_writes :
    readExactly width lines.length (lines.flatMap fun line => line ++ [lineFeed]) =
      .ok (rows.map fun row => row.map cellOf) := by
  have hlength : rows.length ≤ (lines.flatMap fun line => line ++ [lineFeed]).length := by
    rw [hlines.length_eq]
    clear hlines
    induction lines with
    | nil => exact Nat.zero_le _
    | cons line lines ih =>
      simp only [List.flatMap_cons, List.length_append, List.length_cons]
      omega
  rw [readExactly, readRows_of_writes hwidth hrows hlines hlength]
  exact if_pos (by rw [List.length_map, hlines.length_eq])

/-- The last line is read after the others. -/
theorem readLines_append {last : List UInt8} {lastRows : List (List Value)}
    (hlast : readExactly width (lastRowCount last) last = .ok lastRows) :
    readLines width (lines ++ [last]) = .ok ((rows.map fun row => row.map cellOf) ++ lastRows) := by
  rw [readLines, List.dropLast_concat, List.getLast?_concat]
  simp only [Option.getD_some, readExactly_of_writes hwidth hrows hlines, hlast]
  rfl

theorem readLines_of_writes {ends : List (List UInt8)} (hends : ends = [] ∨ ends = [[]]) :
    readLines width (lines ++ ends) = .ok (rows.map fun row => row.map cellOf) := by
  obtain rfl | rfl := hends
  · rw [List.append_nil]
    obtain rfl | ⟨whole, line, rfl⟩ := List.eq_nil_or_concat' lines
    · cases hlines
      rfl
    · -- the last line stands on its own, since it has no line feed
      have hwhole := List.forall₂_take_append rows whole [line] hlines
      obtain ⟨row, none', hline, hnone, hrow⟩ :=
        List.forall₂_cons_right_iff.mp (List.forall₂_drop_append rows whole [line] hlines)
      rw [List.forall₂_nil_right_iff.mp hnone] at hrow
      have hsplit : rows = rows.take whole.length ++ [row] := by
        rw [← hrow, List.take_append_drop]
      have hlast := readExactly_last hwidth (hrows row (hsplit ▸ by simp)) hline
      have h := readLines_append hwidth (fun row' h => hrows row' (List.mem_of_mem_take h)) hwhole
        hlast
      rw [hsplit, List.map_append]
      exact h
  · have h : readLines width (lines ++ [[]]) = .ok ((rows.map fun row => row.map cellOf) ++ []) :=
      readLines_append hwidth hrows hlines rfl
    rwa [List.append_nil] at h

end

/-- Without quotes lines end at every line feed. -/
theorem lines_of_not_mem {bytes : List UInt8} (h : quote ∉ bytes) :
    lines false bytes = bytes.splitOn lineFeed := by
  induction bytes with
  | nil => rfl
  | cons b bytes ih =>
    obtain ⟨hb, hbytes⟩ := List.ne_and_not_mem_of_not_mem_cons h
    have hinside : (false != (b == quote)) = false := by simp [hb.symm]
    rw [lines, hinside, ih hbytes, List.splitOn_cons_eq_if_modifyHead]
    by_cases hfeed : b = lineFeed
    · simp [hfeed]
    · cases hpieces : bytes.splitOn lineFeed with
      | nil => exact absurd hpieces (List.splitOn_ne_nil _ _)
      | cons piece pieces => simp [hfeed, consFirst]

/-! ## Names of columns -/

theorem nameOfField_fieldOf {s : String} (h : IsPlain s) : nameOfField (fieldOf s) = s := by
  have hquote : ¬ ((fieldOf s).head? = some quote ∧ 2 ≤ (fieldOf s).length) := fun hhead =>
    (h.of_mem_fieldOf (List.mem_of_head? hhead.1)).2.1 rfl
  simp only [nameOfField, if_neg hquote]
  rw [fieldOf, Codec.decodeEach_encode]
  simp [Function.comp_def]

theorem namesOfLine_fieldsOf {names : List String} (hplain : ∀ s ∈ names, IsPlain s)
    (hne : names ≠ []) {todo : Nat} (htodo : names.length ≤ todo) :
    namesOfLine todo (fieldsOf names) = names := by
  induction names generalizing todo with
  | nil => exact absurd rfl hne
  | cons s names ih =>
    obtain ⟨hs, hnames⟩ := List.forall_mem_cons.mp hplain
    obtain ⟨todo, rfl⟩ := Nat.exists_eq_add_one_of_ne_zero (Nat.ne_zero_of_lt htodo)
    cases names with
    | nil =>
      have hspan : spanField (fieldOf s ++ []) = (fieldOf s, []) :=
        spanField_append hs.isField fun b hb => by cases hb
      rw [List.append_nil] at hspan
      rw [fieldsOf_singleton, namesOfLine, hspan]
      simp only [nameOfField_fieldOf hs]
    | cons s' names =>
      have hspan : spanField (fieldOf s ++ comma :: fieldsOf (s' :: names)) =
          (fieldOf s, comma :: fieldsOf (s' :: names)) :=
        spanField_append hs.isField fun b hb => by rw [← Option.some.inj hb]; rfl
      rw [fieldsOf_cons_cons, namesOfLine, hspan]
      simp only [if_true, nameOfField_fieldOf hs,
        ih hnames (List.cons_ne_nil _ _) (Nat.le_of_succ_le_succ htodo)]

theorem eraseDups_of_nodup {names : List String} (h : names.Nodup) : names.eraseDups = names := by
  induction names with
  | nil => rfl
  | cons name names ih =>
    obtain ⟨hname, hnames⟩ := List.nodup_cons.mp h
    have hne : ∀ a ∈ names, !a == name := fun a ha => by
      simpa using ne_of_mem_of_not_mem ha hname
    rw [List.eraseDups_cons, List.filter_eq_self.mpr hne, ih hnames]

theorem distinctNames_of_nodup {names : List String} (h : names.Nodup) :
    distinctNames names = names := by
  have hcount : ∀ name i, (name, i) ∈ names.zipIdx → (names.take i).count name = 0 := by
    intro name i he
    rw [List.count_eq_zero]
    intro hmem
    obtain ⟨hi, hname⟩ := List.mem_zipIdx' he
    obtain ⟨j, hj, hname'⟩ := List.mem_take_iff_getElem.mp hmem
    have hij := h.getElem_inj_iff.mp (hname'.trans hname)
    omega
  refine (congrArg List.eraseDups ?_).trans (eraseDups_of_nodup h)
  refine (List.map_congr_left fun e he => ?_).trans (List.zipIdx_map_fst 0 names)
  obtain ⟨name, i⟩ := e
  simp only [hcount name i he]

/-! ## Sheets -/

theorem fieldOf_intercalate (cells : List String) :
    fieldOf (",".intercalate cells) = fieldsOf cells := by
  rw [fieldOf, String.toList_intercalate, Utf8.encode_intercalate, List.map_map]
  rfl

theorem IsLine.writesRow {cells : List String} {line : String} (h : IsLine cells line) :
    WritesRow cells (fieldOf line) := by
  obtain rfl | rfl := h
  · exact ⟨[], .inl rfl, by rw [fieldOf_intercalate, List.append_nil]⟩
  · refine ⟨[carriageReturn], .inr rfl, ?_⟩
    rw [fieldOf, String.toList_append, Utf8.encode_append, ← fieldOf, fieldOf_intercalate]
    rfl

/-- The bytes of a text are its lines, with line feeds between them. -/
theorem IsText.exists_lines {rows : List (List String)} {text : String} (hne : rows ≠ [])
    (h : IsText rows text) :
    ∃ lines ends, List.Forall₂ WritesRow rows lines ∧ (ends = [] ∨ ends = [[]]) ∧
      fieldOf text = [lineFeed].intercalate (lines ++ ends) := by
  obtain ⟨lines, hlines, htext⟩ := h
  have hbytes (lines : List String) :
      fieldOf ("\n".intercalate lines) = [lineFeed].intercalate (lines.map fieldOf) := by
    rw [fieldOf, String.toList_intercalate, Utf8.encode_intercalate, List.map_map]
    rfl
  have hrows : List.Forall₂ WritesRow rows (lines.map fieldOf) :=
    List.forall₂_map_right_iff.mpr (hlines.imp fun _ _ => IsLine.writesRow)
  obtain rfl | rfl := htext
  · exact ⟨_, [], hrows, .inl rfl, by rw [hbytes, List.append_nil]⟩
  · -- after the last line feed there is one more line, which is empty
    have hne' : lines ≠ [] := by
      rintro rfl
      exact hne (List.forall₂_nil_right_iff.mp hlines)
    have hlast : "\n".intercalate lines ++ "\n" = "\n".intercalate (lines ++ [""]) := by
      rw [String.intercalate_append_of_ne_nil hne' (List.cons_ne_nil _ _),
        String.intercalate_singleton, String.append_empty]
    refine ⟨_, [[]], hrows, .inr rfl, ?_⟩
    rw [hlast, hbytes, List.map_append]
    rfl

/-- A text is cut into its lines. -/
theorem lines_of_writes {width : Nat} {rows : List (List String)} {bytes : List UInt8}
    {lines ends : List (List UInt8)} (hrows : ∀ row ∈ rows, IsRow width row)
    (hlines : List.Forall₂ WritesRow rows lines) (hends : ends = [] ∨ ends = [[]])
    (hne : lines ++ ends ≠ []) (hbytes : bytes = [lineFeed].intercalate (lines ++ ends)) :
    Csv.lines false bytes = lines ++ ends := by
  have hpieces : ∀ piece ∈ lines ++ ends, quote ∉ piece ∧ lineFeed ∉ piece := by
    intro piece hpiece
    obtain hpiece | hpiece := List.mem_append.mp hpiece
    · exact not_mem_of_writes hrows hlines piece hpiece
    · obtain rfl | rfl := hends
      · cases hpiece
      · obtain rfl := List.mem_singleton.mp hpiece
        exact ⟨List.not_mem_nil, List.not_mem_nil⟩
  have hquote : quote ∉ bytes := by
    intro hmem
    rw [hbytes] at hmem
    obtain hfeed | ⟨piece, hpiece, hmem⟩ := mem_intercalate_singleton hmem
    · exact absurd hfeed (by decide)
    · exact (hpieces piece hpiece).1 hmem
  rw [lines_of_not_mem hquote, hbytes,
    List.splitOn_intercalate lineFeed (fun piece hpiece => (hpieces piece hpiece).2) hne]

/-- A text that is written for names and rows is the sheet of them. -/
theorem Sheet.exists_of_isText {names : List String} {rows : List (List String)} {text : String}
    (hwidth : 2 ≤ names.length) (hnodup : names.Nodup)
    (hrows : ∀ row ∈ names :: rows, IsRow names.length row)
    (hmark : text.toList.head? ≠ some '\ufeff') (h : IsText (names :: rows) text) :
    ∃ s, Sheet.ofBytes (Utf8.encode text.toList) = .ok s ∧ s.names = names ∧
      s.rows = .ok (rows.map fun row => row.map cellOf) := by
  obtain ⟨all, ends, hall, hends, hbytes⟩ := h.exists_lines (List.cons_ne_nil _ _)
  obtain ⟨header, lines, hheader, hlines, rfl⟩ := List.forall₂_cons_left_iff.mp hall
  obtain ⟨hnames, hcells⟩ := List.forall_mem_cons.mp hrows
  have hplain : withoutMark (fieldOf text) = fieldOf text := by
    refine if_neg fun hprefix => hmark ?_
    exact Utf8.head?_eq_of_mark_isPrefix (List.isPrefixOf_iff_prefix.mp hprefix)
  have hsplit : Csv.lines false (fieldOf text) = header :: (lines ++ ends) :=
    lines_of_writes hrows hall hends (List.cons_ne_nil _ _) hbytes
  have hblank : isBlankLine header = false := by
    have hcomma := hheader.comma_mem hnames hwidth
    rw [isBlankLine, Bool.or_eq_false_iff, decide_eq_false_iff_not, decide_eq_false_iff_not]
    constructor
    all_goals
      rintro rfl
      exact absurd hcomma (by decide)
  have hreturn : withoutLast carriageReturn header = fieldsOf names := by
    obtain ⟨ending, hending, rfl⟩ := hheader
    exact withoutLast_append (fun hmem => (mem_fieldsOf hnames.plain hmem).2.1 rfl) hending
  refine ⟨⟨names, lines ++ ends⟩, ?_, rfl, readLines_of_writes hwidth hcells hlines hends⟩
  rw [← fieldOf, ofBytes, hplain, hsplit, List.dropWhile_cons_of_neg (by simp [hblank])]
  have hne : names ≠ [] := by
    rintro rfl
    simp at hwidth
  simp only [hreturn, namesOfLine_fieldsOf hnames.plain hne (length_le_fieldsOf names),
    distinctNames_of_nodup hnodup]

end Csv

end Vicinity
