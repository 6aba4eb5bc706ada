import Mathlib.Tactic.Choose
import Vicinity.Proofs.Except
import Vicinity.Proofs.FileSystem
import Vicinity.Proofs.Gzip.Pack
import Vicinity.Proofs.Load.Outcome
import Vicinity.Proofs.Text.Tokens

/-!
# A store that is written is loaded again

`Labeler.Names` says when a label may stand for an identifier : it can stand in a line, and the
index leads back from it. If all identifiers of a store have such a label, the line of each entry
says this entry and nothing else (`NeighborFile.ofLine_textOfEntry`), so that loading the lines
appends the entries one after the other (`Load.afterLines_of_entries`) and comes to the store
(`NeighborReader.loadLines_of_entries`). Encoding and compressing the text of the lines, writing
it to a file and reading it there are each undone by their counterparts
(`NeighborReader.loadFile_write`).
-/

namespace Vicinity

open Text

/-! ## Labels that lead back -/

/-- The label of an identifier : one that can stand in a line, and that the index resolves to the
identifier. -/
structure Labeler.Names (labeler : Labeler) (index : LabelIndex) (id : Value) (label : String) :
    Prop where
  label_eq : labeler.label id = .ok (.text label)
  isToken : IsToken label
  resolve_eq : index.resolve? label = some id

/-- A label for each identifier of an entry. -/
def Labeler.NamesEntry (labeler : Labeler) (index : LabelIndex) (label : Value → String)
    (entry : Value × List Value) : Prop :=
  ∀ id ∈ entry.1 :: entry.2, labeler.Names index id (label id)

/-- The identifiers of a store, as subjects and as neighbors. -/
def NeighborStore.ids (s : NeighborStore) : List Value := s.toList.flatMap fun e => e.1 :: e.2

/-! ## Lines -/

namespace NeighborFile

/-- The line of an entry without its end, if every identifier has a label. -/
def textOfEntry (label : Value → String) (entry : Value × List Value) : String :=
  " ".intercalate ((entry.1 :: entry.2).map label)

/-- The lines of entries, each with its line feed. -/
def linesOfEntries (label : Value → String) (entries : List (Value × List Value)) : List String :=
  entries.map fun e => textOfEntry label e ++ "\n"

section

variable {labeler : Labeler} {index : LabelIndex} {label : Value → String}

theorem line_eq_ok {entry : Value × List Value} (h : labeler.NamesEntry index label entry) :
    line labeler entry = .ok (textOfEntry label entry ++ "\n") := by
  have hlabels : (entry.1 :: entry.2).mapM labeler.label =
      .ok ((entry.1 :: entry.2).map fun id => .text (label id)) :=
    mapM_eq_pure fun id hid => (h id hid).label_eq
  have htokens : ((entry.1 :: entry.2).map fun id => Value.text (label id)).mapM textOfLabel =
      .ok ((entry.1 :: entry.2).map label) := by
    rw [List.mapM_map]
    exact mapM_eq_pure fun _ _ => rfl
  rw [line, hlabels]
  simp only [Bind.bind, Except.bind, htokens]
  rfl

theorem lines_eq_ok {entries : List (Value × List Value)}
    (h : ∀ entry ∈ entries, labeler.NamesEntry index label entry) :
    lines labeler entries = (linesOfEntries label entries, none) := by
  induction entries with
  | nil => rfl
  | cons entry rest ih =>
    obtain ⟨hentry, hrest⟩ := List.forall_mem_cons.mp h
    simp only [lines, line_eq_ok hentry, ih hrest, linesOfEntries, List.map_cons]

/-- The labels of an entry are the tokens of its line. -/
theorem isToken_of_names {entry : Value × List Value} (h : labeler.NamesEntry index label entry) :
    ∀ token ∈ (entry.1 :: entry.2).map label, IsToken token := by
  intro token htoken
  obtain ⟨id, hid, rfl⟩ := List.mem_map.mp htoken
  exact (h id hid).isToken

/-- The line of an entry says this entry, and all of its labels are resolved. -/
theorem ofLine_textOfEntry {entry : Value × List Value}
    (h : labeler.NamesEntry index label entry) {line : String}
    (hline : withoutLineEnd line = textOfEntry label entry) :
    LineReading.ofLine index false line = .entry entry.1 entry.2 [] := by
  have htokens : tokens (withoutLineEnd line) = (entry.1 :: entry.2).map label := by
    rw [hline]
    exact tokens_intercalate (isToken_of_names h)
  have hresolve : ∀ id ∈ entry.1 :: entry.2, index.resolve? (label id) = some id :=
    fun id hid => (h id hid).resolve_eq
  obtain ⟨hsubject, hneighbors⟩ := List.forall_mem_cons.mp hresolve
  have hnamed : (((entry.1 :: entry.2).map label).zipIdx.drop 1).filterMap
      (fun t => index.resolve? t.1) = entry.2 := by
    rw [filterMap_zipIdx, List.map_cons, List.drop_one, List.tail_cons, List.filterMap_map]
    exact (List.filterMap_congr hneighbors).trans List.filterMap_some
  have hunresolved : (((entry.1 :: entry.2).map label).zipIdx.drop 1).filter
      (fun t => (index.resolve? t.1).isNone) = [] := by
    refine List.filter_eq_nil_iff.mpr fun t ht hnone => ?_
    have hmem : t.1 ∈ (entry.1 :: entry.2).map label :=
      List.fst_mem_of_mem_zipIdx (List.mem_of_mem_drop ht)
    obtain ⟨id, hid, hlabel⟩ := List.mem_map.mp hmem
    rw [← hlabel, hresolve id hid] at hnone
    cases hnone
  rw [LineReading.ofLine, htokens]
  simp only [List.map_cons] at hnamed hunresolved ⊢
  simp only [hsubject, Bool.false_eq_true, if_false, hnamed, hunresolved]

theorem map_withoutLineEnd {entries : List (Value × List Value)}
    (h : ∀ entry ∈ entries, labeler.NamesEntry index label entry) :
    (linesOfEntries label entries).map withoutLineEnd = entries.map (textOfEntry label) := by
  rw [linesOfEntries, List.map_map]
  exact List.map_congr_left fun entry hentry =>
    withoutLineEnd_append (not_mem_intercalate (isToken_of_names (h entry hentry))) (by simp)

/-- Lines of entries say these entries, whatever their ends are. -/
theorem map_ofLine {entries : List (Value × List Value)}
    (h : ∀ entry ∈ entries, labeler.NamesEntry index label entry)
    {lines : List String} (hlines : lines.map withoutLineEnd = entries.map (textOfEntry label)) :
    lines.map (LineReading.ofLine index false) = entries.map fun e => .entry e.1 e.2 [] := by
  induction entries generalizing lines with
  | nil =>
    obtain rfl := List.map_eq_nil_iff.mp hlines
    rfl
  | cons entry rest ih =>
    obtain ⟨hentry, hrest⟩ := List.forall_mem_cons.mp h
    obtain ⟨line, lines, rfl, hline, hlines⟩ := List.map_eq_cons_iff.mp hlines
    rw [List.map_cons, List.map_cons, ofLine_textOfEntry hentry hline, ih hrest hlines]

/-! ## The text of a store -/

/-- A text that is made of the lines of entries has these lines. -/
theorem linesOfWhole_join {entries : List (Value × List Value)}
    (h : ∀ entry ∈ entries, labeler.NamesEntry index label entry) :
    (linesOfWhole (String.join (linesOfEntries label entries)).toList).map String.ofList =
      linesOfEntries label entries := by
  have hends : ∀ entry ∈ entries, ∀ c ∈ (textOfEntry label entry).toList, c ≠ '\r' ∧ c ≠ '\n' :=
    fun entry hentry => not_mem_intercalate (isToken_of_names (h entry hentry))
  have hended : ∀ line ∈ entries.map fun e => (textOfEntry label e ++ "\n").toList,
      IsEnded line ∧ '\r' ∉ line := by
    intro line hline
    obtain ⟨entry, hentry, rfl⟩ := List.mem_map.mp hline
    rw [String.toList_append]
    refine ⟨⟨_, fun hc => (hends entry hentry _ hc).2 rfl, rfl⟩, fun hc => ?_⟩
    obtain hc | hc := List.mem_append.mp hc
    · exact (hends entry hentry _ hc).1 rfl
    · simp at hc
  have hlines := linesOfWhole_flatten (fun line hline => (hended line hline).1)
    fun line hline => (hended line hline).2
  rw [linesOfEntries, String.toList_join, List.flatMap_map, List.flatMap, hlines, List.map_map]
  simp [Function.comp_def]

end

/-- A file of lines delivers their text, whether it is compressed or not. -/
theorem deliver_encode [Platform] (compress : Bool) (lines : List String) :
    (Gzip.deliver (encode compress lines)).failure = none ∧
      (Gzip.deliver (encode compress lines)).bytes = Utf8.encode (String.join lines).toList := by
  cases compress with
  | false =>
    have hplain := Gzip.deliver_of_not_isCompressed
      (Utf8.not_isCompressed_encode (String.join lines).toList)
    have hencode : encode false lines = Utf8.encode (String.join lines).toList := rfl
    rw [hencode, hplain]
    exact ⟨rfl, Delivery.bytes_ofBytes _⟩
  | true => exact Gzip.deliver_pack _

end NeighborFile

/-! ## Loading entries -/

namespace Load

/-- Lines that each say an entry are counted, their neighbors are counted, and the entries are
appended; nothing is warned of. -/
theorem afterLines_of_entries (options : LoadOptions) (index : LabelIndex) {lines : List String}
    {entries : List (Value × List Value)}
    (h : lines.map (LineReading.ofLine index options.includeSubject) =
      entries.map fun e => .entry e.1 e.2 []) (l : Load) :
    l.afterLines options index lines =
      { l with
        lineNumber := l.lineNumber + entries.length
        stats := l.stats +
          { linesRead := entries.length
            resolvedNeighbors := entries.foldr (fun e n => e.2.length + n) 0 }
        store := entries.foldl NeighborStore.append l.store } := by
  induction entries generalizing lines l with
  | nil =>
    obtain rfl := List.map_eq_nil_iff.mp h
    rfl
  | cons entry rest ih =>
    obtain ⟨line, lines, rfl, hline, hrest⟩ := List.map_eq_cons_iff.mp h
    have hafter : l.after options (.entry entry.1 entry.2 []) =
        { l with
          lineNumber := l.lineNumber + 1
          stats := l.stats + { linesRead := 1, resolvedNeighbors := entry.2.length }
          store := l.store.append entry } := by
      rw [after, LineReading.warnings, List.map_nil, withWarnings_nil]
      rfl
    have hstats : ({ linesRead := 1, resolvedNeighbors := entry.2.length } : LoadStats) +
        { linesRead := rest.length
          resolvedNeighbors := rest.foldr (fun e n => e.2.length + n) 0 } =
        { linesRead := (entry :: rest).length
          resolvedNeighbors := (entry :: rest).foldr (fun e n => e.2.length + n) 0 } := by
      rw [List.length_cons, Nat.add_comm rest.length]
      rfl
    rw [afterLines_cons, ih hrest, hline, hafter]
    simp only [LoadStats.add_assoc, hstats, List.length_cons, List.foldl_cons,
      Nat.add_right_comm, Nat.add_assoc]

end Load

/-- Where a load stands that read one line for each entry of a store, and nothing else. -/
def Load.ofStore (s : NeighborStore) : Load where
  lineNumber := s.size
  stats := { linesRead := s.size, resolvedNeighbors := s.pairCount, entries := s.size }
  store := s

namespace NeighborReader

/-- Lines that each say an entry of a store are loaded to this store. -/
theorem loadLines_of_entries {r : NeighborReader} {store : NeighborStore} {lines : List String}
    (hkeys : ∀ entry ∈ store.toList, entry.1.isHashable)
    (h : lines.map (LineReading.ofLine r.index r.settings.options.includeSubject) =
      store.toList.map fun e => .entry e.1 e.2 []) :
    r.loadLines lines = ({ r with last := .ofStore store }, ⟨[], .ok store⟩) := by
  have hloaded : r.loaded lines =
      { lineNumber := store.size
        stats := { linesRead := store.size, resolvedNeighbors := store.pairCount }
        store } := by
    have hstore : store.toList.foldl NeighborStore.append .empty = store := store.ofAppends_toList
    have hload := Load.afterLines_of_entries r.settings.options r.index h {}
    rw [LoadStats.zero_add, Nat.zero_add, hstore] at hload
    rw [loaded, hload, store.pairCount_eq_foldr]
    rfl
  have hsubjects : ∀ line ∈ lines, ∀ x ∈ r.index.subject? line, x.isHashable := by
    intro line hline
    rw [← exists_append?_ofLine_iff r.index r.settings.options.includeSubject line
      (Value.isHashable · = true)]
    obtain ⟨entry, hentry, heq⟩ := List.mem_map.mp (h ▸ List.mem_map_of_mem hline)
    rw [← heq]
    rintro _ ⟨⟩
    exact hkeys entry hentry
  rw [loadLines_of_isHashable hsubjects, hloaded]
  rfl

/-- A file whose content is the text of a store, packed in whatever way or not at all, is loaded
to this store. -/
theorem loadFile_of_text [Platform] {r : NeighborReader} {store : NeighborStore} {text : String}
    {fs : FileSystem} {path : String} {bytes : List UInt8}
    (htext : r.loadLines ((linesOfWhole text.toList).map String.ofList) =
      ({ r with last := .ofStore store }, ⟨[], .ok store⟩))
    (hsetting : Encoding.ofSetting r.settings.encoding = .ok (.own .utf8))
    (hpath : path.contains '\x00' = false) (hread : fs.read path = .ok bytes)
    (hfailure : (Gzip.deliver bytes).failure = none)
    (hbytes : (Gzip.deliver bytes).bytes = Utf8.encode text.toList) :
    (r.loadFile fs path).1 = { r with last := .ofStore store } ∧
      (r.loadFile fs path).2.result = .ok store := by
  have hreads : r.ReadsFile fs path text.toList :=
    ⟨hpath, bytes, .own .utf8, hread, hsetting, hfailure, .inl hbytes⟩
  have hload := loadFile_of_readsFile hreads
  rwa [htext] at hload

/-- A store is written and loaded again. Its subjects can be keys, each of its identifiers has a
label that leads back to it, and the subject of a line does not count as its own neighbor. Then
the text of the store is loaded to it, line by line, whatever the ends of the lines are; and so is
a file that the store is written to, and every file that delivers this text. The load warns of
nothing and counts one line for each entry. -/
theorem loadFile_write [Platform] {r : NeighborReader} {labeler : Labeler} {store : NeighborStore}
    (hkeys : ∀ entry ∈ store.toList, entry.1.isHashable)
    (hnames : ∀ id ∈ store.ids, ∃ label, labeler.Names r.index id label)
    (hsubject : r.settings.includeSubject.isTruthy = false)
    (hsetting : Encoding.ofSetting r.settings.encoding = .ok (.own .utf8)) :
    ∃ text, NeighborFile.serialize labeler store = .ok text ∧
      (∀ lines : List String,
        lines.map withoutLineEnd =
          ((linesOfWhole text.toList).map String.ofList).map withoutLineEnd →
        r.loadLines lines = ({ r with last := .ofStore store }, ⟨[], .ok store⟩)) ∧
      (∀ (fs : FileSystem) (path : String) (compress : Bool), path.contains '\x00' = false →
        (∃ names, fs.locateNew path = .ok names) →
        ∃ fs', NeighborFile.write labeler store fs path compress = (fs', none) ∧
          (r.loadFile fs' path).1 = { r with last := .ofStore store } ∧
          (r.loadFile fs' path).2.result = .ok store) ∧
      ∀ (fs : FileSystem) (path : String) (bytes : List UInt8), path.contains '\x00' = false →
        fs.read path = .ok bytes → (Gzip.deliver bytes).failure = none →
        (Gzip.deliver bytes).bytes = Utf8.encode text.toList →
        (r.loadFile fs path).1 = { r with last := .ofStore store } ∧
          (r.loadFile fs path).2.result = .ok store := by
  choose! label hlabel using hnames
  have hentries : ∀ entry ∈ store.toList, labeler.NamesEntry r.index label entry :=
    fun entry hentry id hid => hlabel id (List.mem_flatMap.mpr ⟨entry, hentry, hid⟩)
  have hlines := NeighborFile.lines_eq_ok hentries
  have hwhole := NeighborFile.linesOfWhole_join hentries
  have hends := NeighborFile.map_withoutLineEnd hentries
  have hload : ∀ lines : List String,
      lines.map withoutLineEnd = store.toList.map (NeighborFile.textOfEntry label) →
        r.loadLines lines = ({ r with last := .ofStore store }, ⟨[], .ok store⟩) := by
    intro lines hsame
    have hoption : r.settings.options.includeSubject = false := hsubject
    refine loadLines_of_entries hkeys ?_
    rw [hoption]
    exact NeighborFile.map_ofLine hentries hsame
  have htext := hwhole ▸ hload _ hends
  have hserialize : NeighborFile.serialize labeler store =
      .ok (String.join (NeighborFile.linesOfEntries label store.toList)) := by
    simp only [NeighborFile.serialize, hlines]
  refine ⟨_, hserialize, ?lines, ?written, ?delivered⟩
  case lines =>
    intro lines hsame
    rw [hwhole, hends] at hsame
    exact hload lines hsame
  case written =>
    intro fs path compress hpath ⟨names, hnew⟩
    obtain ⟨fs', hwrite, hread⟩ := FileSystem.exists_write hnew
      (NeighborFile.encode compress (NeighborFile.linesOfEntries label store.toList))
    obtain ⟨hfailure, hbytes⟩ := NeighborFile.deliver_encode compress
      (NeighborFile.linesOfEntries label store.toList)
    refine ⟨fs', ?_, loadFile_of_text htext hsetting hpath hread hfailure hbytes⟩
    rw [NeighborFile.write, hpath]
    simp only [hlines, hwrite, Bool.false_eq_true, if_false, Option.map_none]
  case delivered =>
    intro fs path bytes hpath hread hfailure hbytes
    exact loadFile_of_text htext hsetting hpath hread hfailure hbytes

/-- A reader that knows labels of unusual characters : a tab, a mark of byte order, two line ends
that are none here, and a character beyond the first 65536. -/
def unusualReader : NeighborReader where
  index := ⟨.ofList [(.text "\uFEFFa\t", .int 1), (.text "\u2028\x85", .text "p"),
    (.text "😀", .bool false)], 3, []⟩
  settings := { encoding := .null }

/-- What it knows, the other way round. -/
def unusualLabeler : Labeler := .given (.ofList [(.int 1, .text "\uFEFFa\t"),
  (.text "p", .text "\u2028\x85"), (.bool false, .text "😀")])

/-- A store of such identifiers, one of them without neighbors. -/
def unusualStore : NeighborStore :=
  ⟨.ofList [(.int 1, [.text "p", .bool false, .int 1]), (.text "p", [])]⟩

theorem loadFile_write_unusual :
    ∃ fs', NeighborFile.write unusualLabeler unusualStore (.ofWorkingDirectory []) "x" true =
        (fs', none) ∧
      (unusualReader.loadFile fs' "x").1.last = .ofStore unusualStore ∧
      (unusualReader.loadFile fs' "x").2.result = .ok unusualStore := by
  have hkeys : ∀ entry ∈ unusualStore.toList, entry.1.isHashable := by decide +kernel
  have hids : unusualStore.ids = [.int 1, .text "p", .bool false, .int 1, .text "p"] := by
    decide +kernel
  have hone : unusualLabeler.Names unusualReader.index (.int 1) "\uFEFFa\t" :=
    ⟨by rfl, ⟨by decide, by simp⟩, by decide +kernel⟩
  have hp : unusualLabeler.Names unusualReader.index (.text "p") "\u2028\x85" :=
    ⟨by rfl, ⟨by decide, by simp⟩, by decide +kernel⟩
  have hfalse : unusualLabeler.Names unusualReader.index (.bool false) "😀" :=
    ⟨by rfl, ⟨by decide, by simp⟩, by decide +kernel⟩
  have hnames : ∀ id ∈ unusualStore.ids, ∃ label,
      unusualLabeler.Names unusualReader.index id label := by
    simp only [hids, List.forall_mem_cons]
    exact ⟨⟨_, hone⟩, ⟨_, hp⟩, ⟨_, hfalse⟩, ⟨_, hone⟩, ⟨_, hp⟩, by simp⟩
  obtain ⟨text, -, -, hwritten, -⟩ := loadFile_write hkeys hnames rfl rfl
  obtain ⟨fs', hwrite, hstate, hresult⟩ := hwritten (.ofWorkingDirectory []) "x" true
    contains_zero_x ⟨["x"], rfl⟩
  exact ⟨fs', hwrite, by rw [hstate], hresult⟩

end NeighborReader

end Vicinity
