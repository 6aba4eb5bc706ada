import Vicinity.Proofs.Json.Numbers
import Vicinity.Proofs.Json.Readable
import Vicinity.Proofs.Json.Strings

/-!
# JSON that is written and read

Every value that a text can hold is read again when it is written over several lines
(`Json.read_indented`). The reader goes through the text as the writer did : a value ends where the
writer ended it, since nothing follows that could continue a number. In between there are blanks,
which the reader skips, and there are no line ends but line feeds (`IsReadable.return_not_mem`).
-/

namespace Vicinity

namespace Json

open Text Binary64

/-! ## Scalars -/

theorem afterWord?_of_ne {w c : Char} (h : w ≠ c) (ws cs : List Char) :
    afterWord? (w :: ws) (c :: cs) = none := if_neg h

/-- What begins with a digit, or with a sign and a digit, is no word. -/
theorem readScalar_signed (negative : Bool) {c : Char} (hc : c.isDigit) (cs : List Char) :
    readScalar (signed negative (c :: cs)) = readNumber (signed negative (c :: cs)) := by
  have hne (d : Char) (hd : d.isDigit = false) : d ≠ c := by
    rintro rfl
    rw [hc] at hd
    cases hd
  have hnone : (words.findSome? fun w =>
      (afterWord? w.1 (signed negative (c :: cs))).map fun rest => (w.2, rest)) = none := by
    refine List.findSome?_eq_none_iff.mpr fun w hw => ?_
    cases negative with
    | false =>
      simp only [words, List.mem_cons, List.not_mem_nil, or_false] at hw
      obtain rfl | rfl | rfl | rfl | rfl | rfl := hw <;>
        exact congrArg (Option.map _) (afterWord?_of_ne (hne _ rfl) _ _)
    | true =>
      simp only [words, List.mem_cons, List.not_mem_nil, or_false] at hw
      obtain rfl | rfl | rfl | rfl | rfl | rfl := hw
      iterate 5 exact congrArg (Option.map _) (afterWord?_of_ne (by decide) _ _)
      -- the sign is that of the last word, but a letter follows it there
      exact congrArg (Option.map _) (afterWord?_of_ne (hne 'I' rfl) _ _)
  rw [readScalar, hnone]

theorem readScalar_float (x : Binary64) {rest : List Char} (hrest : EndsNumber rest) :
    readScalar (scalar (.float x) ++ rest) = .ok (.float x, rest) := by
  cases x with
  | finite x =>
    have hread := readNumber_toText "Infinity".toList "NaN".toList x hrest
    obtain ⟨c, tail, hlayout, hc⟩ := exists_layout_eq x.shortest.point x.shortest.isNumeral_digits
    rw [toText, signed_append, hlayout] at hread
    rw [scalar, toText, signed_append, hlayout, List.cons_append, readScalar_signed x.negative hc]
    exact hread
  | infinite negative => cases negative <;> rfl
  | nan => rfl

theorem readScalar_int {n : Int} (h : (Nat.toDigits 10 n.natAbs).length ≤ Value.maxDigits)
    {rest : List Char} (hrest : EndsNumber rest) :
    readScalar (scalar (.int n) ++ rest) = .ok (.int n, rest) := by
  have hread := readNumber_toString h hrest
  have hnumeral := isNumeral_toDigits n.natAbs
  rw [scalar, toList_toString, signed_append] at *
  cases hdigits : Nat.toDigits 10 n.natAbs with
  | nil => exact absurd hdigits hnumeral.ne_nil
  | cons c tail =>
    rw [hdigits] at hread hnumeral
    rw [List.cons_append, readScalar_signed _ (hnumeral.isDigit c List.mem_cons_self)]
    exact hread

theorem readScalar_bool (b : Bool) (rest : List Char) :
    readScalar (scalar (.bool b) ++ rest) = .ok (.bool b, rest) := by
  cases b <;> rfl

/-! ## Values by their first character -/

/-- What is neither a string nor an array nor an object is a scalar. -/
theorem readValue_of_scalar (todo depth : Nat) {c : Char} (cs : List Char)
    (h : c ≠ '"' ∧ c ≠ '[' ∧ c ≠ '\x7b') :
    readValue (todo + 1) depth (c :: cs) = readScalar (c :: cs) := by
  rw [readValue]
  all_goals
    rintro _ heq
    obtain ⟨rfl, -⟩ := List.cons.inj heq
    simp at h

theorem string_append (s : String) (rest : List Char) :
    string s ++ rest = '"' :: (s.toList.flatMap escaped ++ '"' :: rest) := by
  simp [string]

theorem readValue_string (todo depth : Nat) (s : String) (rest : List Char) :
    readValue (todo + 1) depth (string s ++ rest) = .ok (.text s, rest) := by
  rw [string_append, readValue, readString_string]
  rfl

theorem readValue_list (todo depth : Nat) {cs : List Char}
    (h : ∀ c ∈ (skipBlanks cs).head?, c ≠ ']') :
    readValue (todo + 1) (depth + 1) ('[' :: cs) =
      (readItems todo depth (skipBlanks cs)).map fun read => (.list read.1, read.2) :=
  readValue.eq_5 todo cs depth fun rest hrest => h ']' (by rw [hrest]; rfl) rfl

theorem readValue_dict (todo depth : Nat) {cs : List Char}
    (h : ∀ c ∈ (skipBlanks cs).head?, c ≠ '\x7d') :
    readValue (todo + 1) (depth + 1) ('\x7b' :: cs) =
      (readMembers todo depth [] (skipBlanks cs)).map fun read => (.dict read.1, read.2) :=
  readValue.eq_8 todo cs depth fun rest hrest => h '\x7d' (by rw [hrest]; rfl) rfl

/-! ## Blanks -/

theorem skipBlanks_newline (level : Nat) (cs : List Char) :
    skipBlanks (newline level ++ cs) = skipBlanks cs := by
  have hspaces : ∀ c ∈ List.replicate (2 * level) ' ', isBlank c := by
    intro c hc
    rw [List.eq_of_mem_replicate hc]
    rfl
  rw [skipBlanks, newline, List.cons_append, List.dropWhile_cons_of_pos rfl,
    List.dropWhile_append_of_pos hspaces, skipBlanks]

theorem skipBlanks_cons {c : Char} (h : isBlank c = false) (cs : List Char) :
    skipBlanks (c :: cs) = c :: cs :=
  List.dropWhile_cons_of_neg (by simp [h])

theorem endsNumber_newline (level : Nat) (cs : List Char) : EndsNumber (newline level ++ cs) := by
  rintro _ ⟨⟩
  decide

theorem endsNumber_comma (cs : List Char) : EndsNumber (',' :: cs) := by
  rintro _ ⟨⟩
  decide

/-- A digit is neither a blank nor a bracket, and no quote. -/
theorem of_isDigit {c : Char} (h : c.isDigit) :
    isBlank c = false ∧ c ∉ ['"', '[', ']', '\x7b', '\x7d'] := by
  have hne (d : Char) (hd : d.isDigit = false) : c ≠ d := by
    rintro rfl
    rw [h] at hd
    cases hd
  simp [isBlank, hne ' ' rfl, hne '\t' rfl, hne '\n' rfl, hne '\r' rfl, hne '"' rfl, hne '[' rfl,
    hne ']' rfl, hne '\x7b' rfl, hne '\x7d' rfl]

/-- A number begins with a digit or with a sign. -/
theorem exists_signed_eq (negative : Bool) {c : Char} (tail : List Char) (hc : c.isDigit) :
    ∃ d tail', signed negative (c :: tail) = d :: tail' ∧ isBlank d = false ∧
      d ∉ ['"', '[', ']', '\x7b', '\x7d'] := by
  cases negative with
  | false => exact ⟨c, tail, rfl, of_isDigit hc⟩
  | true => exact ⟨'-', c :: tail, rfl, rfl, by decide⟩

/-- A scalar that is no string begins with a character that begins nothing else. -/
theorem exists_scalar_eq {v : Value} (h : ∀ s, v ≠ .text s) : ∃ c tail,
    scalar v = c :: tail ∧ isBlank c = false ∧ c ∉ ['"', '[', ']', '\x7b', '\x7d'] := by
  cases v with
  | null | tuple items | list items | dict entries => exact ⟨_, _, rfl, rfl, by decide⟩
  | bool b => cases b <;> exact ⟨_, _, rfl, rfl, by decide⟩
  | int n =>
    have hnumeral := isNumeral_toDigits n.natAbs
    rw [scalar, toList_toString]
    cases hdigits : Nat.toDigits 10 n.natAbs with
    | nil => exact absurd hdigits hnumeral.ne_nil
    | cons c tail =>
      rw [hdigits] at hnumeral
      exact exists_signed_eq _ tail (hnumeral.isDigit c List.mem_cons_self)
  | float x =>
    cases x with
    | finite x =>
      obtain ⟨c, tail, hlayout, hc⟩ := exists_layout_eq x.shortest.point x.shortest.isNumeral_digits
      rw [scalar, toText, hlayout]
      exact exists_signed_eq _ tail hc
    | infinite negative => cases negative <;> exact ⟨_, _, rfl, rfl, by decide⟩
    | nan => exact ⟨_, _, rfl, rfl, by decide⟩
  | text s => exact absurd rfl (h s)

/-- A value begins with a character that is neither a blank nor a closing bracket. -/
theorem exists_indentedAt_eq (level : Nat) (v : Value) : ∃ c tail,
    indentedAt level v = c :: tail ∧ isBlank c = false ∧ c ≠ ']' ∧ c ≠ '\x7d' := by
  have hscalar (hs : ∀ s, v ≠ .text s) (hv : indentedAt level v = scalar v) : ∃ c tail,
      indentedAt level v = c :: tail ∧ isBlank c = false ∧ c ≠ ']' ∧ c ≠ '\x7d' := by
    obtain ⟨c, tail, htext, hblank, hc⟩ := exists_scalar_eq hs
    simp only [List.mem_cons, List.not_mem_nil, or_false, not_or] at hc
    exact ⟨c, tail, hv.trans htext, hblank, hc.2.2.1, hc.2.2.2.2⟩
  cases v with
  | null => exact hscalar (by simp) (by rw [indentedAt])
  | bool b => exact hscalar (by simp) (by rw [indentedAt])
  | int n => exact hscalar (by simp) (by rw [indentedAt])
  | float x => exact hscalar (by simp) (by rw [indentedAt])
  | text s => exact ⟨'"', _, by rw [indentedAt]; rfl, rfl, by decide⟩
  | tuple items | list items =>
    cases items <;> exact ⟨'[', _, by rw [indentedAt], rfl, by decide⟩
  | dict entries =>
    cases entries <;> exact ⟨'\x7b', _, by rw [indentedAt], rfl, by decide⟩

theorem skipBlanks_indentedAt (level level' : Nat) (v : Value) (rest : List Char) :
    skipBlanks (newline level' ++ (indentedAt level v ++ rest)) = indentedAt level v ++ rest := by
  obtain ⟨c, tail, htext, hblank, -⟩ := exists_indentedAt_eq level v
  rw [skipBlanks_newline, htext, List.cons_append, skipBlanks_cons hblank]

theorem skipBlanks_space (level : Nat) (v : Value) (rest : List Char) :
    skipBlanks (' ' :: (indentedAt level v ++ rest)) = indentedAt level v ++ rest := by
  obtain ⟨c, tail, htext, hblank, -⟩ := exists_indentedAt_eq level v
  rw [htext]
  exact skipBlanks_cons hblank _

/-! ## Reading what is written -/

/-- Whether a value is read again wherever it is written, within the levels that are left. -/
def ReadsBack (depth : Nat) (v : Value) : Prop :=
  ∀ (level todo : Nat) (rest : List Char), EndsNumber rest →
    (indentedAt level v).length ≤ todo →
    readValue todo depth (indentedAt level v ++ rest) = .ok (v, rest)

theorem readsBack_scalar {depth : Nat} {v : Value} (hs : ∀ s, v ≠ .text s)
    (hv : ∀ level, indentedAt level v = scalar v)
    (h : ∀ rest, EndsNumber rest → readScalar (scalar v ++ rest) = .ok (v, rest)) :
    ReadsBack depth v := by
  intro level todo rest hrest htodo
  obtain ⟨c, tail, htext, -, hc⟩ := exists_scalar_eq hs
  simp only [List.mem_cons, List.not_mem_nil, or_false, not_or] at hc
  have hread := h rest hrest
  rw [hv, htext] at htodo ⊢
  rw [htext] at hread
  obtain ⟨todo, rfl⟩ : ∃ n, todo = n + 1 := ⟨todo - 1, by simp at htodo; omega⟩
  rw [List.cons_append, readValue_of_scalar todo depth _ ⟨hc.1, hc.2.1, hc.2.2.2.1⟩]
  exact hread

/-- The items of an array are read to its closing bracket. -/
theorem readItems_indentedAt {depth : Nat} {v : Value} {items : List Value}
    (h : ∀ w ∈ v :: items, ReadsBack depth w) (level level' todo : Nat) (rest : List Char)
    (htodo : (indentedAt level v).length + (indentedItems level items).length < todo) :
    readItems todo depth
        (indentedAt level v ++ (indentedItems level items ++ (newline level' ++ ']' :: rest))) =
      .ok (v :: items, rest) := by
  induction items generalizing v todo with
  | nil =>
    obtain ⟨todo, rfl⟩ : ∃ n, todo = n + 1 := ⟨todo - 1, by omega⟩
    have hv := h v List.mem_cons_self level todo (newline level' ++ ']' :: rest)
      (endsNumber_newline _ _) (by omega)
    rw [indentedItems, List.nil_append, readItems, hv]
    simp only [skipBlanks_newline, skipBlanks_cons (c := ']') rfl]
  | cons w items ih =>
    obtain ⟨todo, rfl⟩ : ∃ n, todo = n + 1 := ⟨todo - 1, by omega⟩
    obtain ⟨hv, hitems⟩ := List.forall_mem_cons.mp h
    simp only [indentedItems, List.length_cons, List.length_append] at htodo
    have hread := hv level todo (',' :: (newline level ++ (indentedAt level w ++
      (indentedItems level items ++ (newline level' ++ ']' :: rest))))) (endsNumber_comma _)
      (by omega)
    have hrest := ih hitems todo (by omega)
    simp only [indentedItems, List.cons_append, List.append_assoc]
    rw [readItems, hread]
    simp only [skipBlanks_cons (c := ',') rfl, skipBlanks_indentedAt, hrest]
    rfl

theorem setEntry_of_not_mem {key : String} {entries : List (String × Value)}
    (h : key ∉ entries.map Prod.fst) (v : Value) :
    Value.setEntry key v entries = entries ++ [(key, v)] := by
  induction entries with
  | nil => rfl
  | cons e entries ih =>
    obtain ⟨hne, hrest⟩ := not_or.mp (mt List.mem_cons.mpr h)
    rw [Value.setEntry, if_neg (Ne.symm hne), ih hrest, List.cons_append]

theorem not_mem_keys {e : String × Value} {done entries : List (String × Value)}
    (h : ((done ++ e :: entries).map Prod.fst).Nodup) : e.1 ∉ done.map Prod.fst := by
  rw [List.map_append, List.nodup_append] at h
  exact fun hmem => h.2.2 e.1 hmem e.1 List.mem_cons_self rfl

/-- An entry is read, and so are those after a comma. -/
theorem readMembers_comma {depth : Nat} {e : String × Value} {done : List (String × Value)}
    (h : ReadsBack depth e.2) (hkey : e.1 ∉ done.map Prod.fst) (level todo : Nat)
    (rest : List Char) (htodo : (indentedAt level e.2).length ≤ todo) :
    readMembers (todo + 1) depth done
        (string e.1 ++ ':' :: ' ' :: (indentedAt level e.2 ++ ',' :: rest)) =
      readMembers todo depth (done ++ [e]) (skipBlanks rest) := by
  obtain ⟨key, v⟩ := e
  rw [string_append, readMembers, readString_string]
  simp only [skipBlanks_cons (c := ':') rfl, skipBlanks_space,
    h level todo _ (endsNumber_comma rest) htodo, setEntry_of_not_mem hkey,
    skipBlanks_cons (c := ',') rfl]

/-- The last entry is read, and the closing brace. -/
theorem readMembers_brace {depth : Nat} {e : String × Value} {done : List (String × Value)}
    (h : ReadsBack depth e.2) (hkey : e.1 ∉ done.map Prod.fst) (level level' todo : Nat)
    (rest : List Char) (htodo : (indentedAt level e.2).length ≤ todo) :
    readMembers (todo + 1) depth done (string e.1 ++
        ':' :: ' ' :: (indentedAt level e.2 ++ (newline level' ++ '\x7d' :: rest))) =
      .ok (done ++ [e], rest) := by
  obtain ⟨key, v⟩ := e
  rw [string_append, readMembers, readString_string]
  simp only [skipBlanks_cons (c := ':') rfl, skipBlanks_space,
    h level todo _ (endsNumber_newline level' _) htodo, setEntry_of_not_mem hkey,
    skipBlanks_newline, skipBlanks_cons (c := '\x7d') rfl]

/-- The entries of an object are read to its closing brace. -/
theorem readMembers_indentedAt {depth : Nat} {e : String × Value}
    {entries done : List (String × Value)} (h : ∀ e' ∈ e :: entries, ReadsBack depth e'.2)
    (hkeys : ((done ++ e :: entries).map Prod.fst).Nodup) (level level' todo : Nat)
    (rest : List Char)
    (htodo : (indentedAt level e.2).length + (indentedEntries level entries).length < todo) :
    readMembers todo depth done (string e.1 ++ ':' :: ' ' :: (indentedAt level e.2 ++
        (indentedEntries level entries ++ (newline level' ++ '\x7d' :: rest)))) =
      .ok (done ++ e :: entries, rest) := by
  induction entries generalizing e done todo with
  | nil =>
    obtain ⟨todo, rfl⟩ : ∃ n, todo = n + 1 := ⟨todo - 1, by omega⟩
    rw [indentedEntries, List.nil_append]
    exact readMembers_brace (h e List.mem_cons_self) (not_mem_keys hkeys) level level' todo rest
      (by omega)
  | cons f entries ih =>
    obtain ⟨todo, rfl⟩ : ∃ n, todo = n + 1 := ⟨todo - 1, by omega⟩
    obtain ⟨he, hentries⟩ := List.forall_mem_cons.mp h
    simp only [indentedEntries, List.length_cons, List.length_append] at htodo
    have hkeys' : (((done ++ [e]) ++ f :: entries).map Prod.fst).Nodup := by simpa using hkeys
    have hread := ih hentries hkeys' todo (by omega)
    simp only [indentedEntries, List.cons_append, List.append_assoc, List.nil_append] at hread ⊢
    rw [readMembers_comma he (not_mem_keys hkeys) level todo _ (by omega), skipBlanks_newline,
      string_append, skipBlanks_cons rfl, ← string_append]
    exact hread

/-- A value that a text can hold is read where it is written. -/
theorem IsReadable.readsBack {depth : Nat} {v : Value} (h : IsReadable depth v) :
    ReadsBack depth v := by
  induction h with
  | null depth => exact readsBack_scalar (by simp) (fun _ => by rw [indentedAt]) fun rest _ => rfl
  | bool depth b =>
    exact readsBack_scalar (by simp) (fun _ => by rw [indentedAt]) fun rest _ =>
      readScalar_bool b rest
  | int depth hlength =>
    exact readsBack_scalar (by simp) (fun _ => by rw [indentedAt]) fun rest hrest =>
      readScalar_int hlength hrest
  | float depth x =>
    exact readsBack_scalar (by simp) (fun _ => by rw [indentedAt]) fun rest hrest =>
      readScalar_float x hrest
  | text depth s =>
    intro level todo rest hrest htodo
    rw [indentedAt, scalar] at *
    obtain ⟨todo, rfl⟩ : ∃ n, todo = n + 1 := ⟨todo - 1, by simp [string] at htodo; omega⟩
    exact readValue_string todo depth s rest
  | @list depth items h ih =>
    intro level todo rest hrest htodo
    obtain ⟨todo, rfl⟩ : ∃ n, todo = n + 1 := by
      refine ⟨todo - 1, ?_⟩
      cases items <;> simp [indentedAt] at htodo <;> omega
    cases items with
    | nil => rfl
    | cons v items =>
      obtain ⟨c, tail, htext, hblank, hc, -⟩ := exists_indentedAt_eq (level + 1) v
      simp only [indentedAt, List.length_cons, List.length_append, List.length_nil] at htodo
      simp only [indentedAt, List.cons_append, List.append_assoc, List.nil_append]
      rw [readValue_list, skipBlanks_indentedAt,
        readItems_indentedAt ih (level + 1) level todo rest (by omega)]
      · rfl
      · rw [skipBlanks_indentedAt, htext]
        rintro _ ⟨⟩
        exact hc
  | @dict depth entries hkeys h ih =>
    intro level todo rest hrest htodo
    obtain ⟨todo, rfl⟩ : ∃ n, todo = n + 1 := by
      refine ⟨todo - 1, ?_⟩
      cases entries <;> simp [indentedAt] at htodo <;> omega
    cases entries with
    | nil => rfl
    | cons e entries =>
      simp only [indentedAt, List.length_cons, List.length_append, List.length_nil] at htodo
      simp only [indentedAt, List.cons_append, List.append_assoc, List.nil_append]
      rw [← List.nil_append (e :: entries)] at hkeys
      have hread := readMembers_indentedAt ih hkeys (level + 1) level todo rest (by omega)
      rw [readValue_dict, skipBlanks_newline, string_append, skipBlanks_cons rfl]
      · rw [← string_append, hread]
        rfl
      · rw [skipBlanks_newline, string_append, skipBlanks_cons rfl]
        rintro _ ⟨⟩
        decide

/-! ## Whole texts -/

/-- A value that a text can hold is read where it is written over several lines. -/
theorem read_indented {v : Value} (h : IsReadable maxDepth v) : read (indented v) = .ok v := by
  obtain ⟨c, tail, htext, hblank, -⟩ := exists_indentedAt_eq 0 v
  have hskip : skipBlanks (indentedAt 0 v) = indentedAt 0 v := by
    rw [htext, skipBlanks_cons hblank]
  have hread := h.readsBack 0 ((indentedAt 0 v).length + 1) [] (by rintro _ ⟨⟩)
    (Nat.le_succ _)
  rw [List.append_nil] at hread
  simp only [read, indented, String.toList_ofList, hskip, hread]
  rfl

/-! ## Line ends -/

theorem return_not_mem_toDigits (n : Nat) : '\r' ∉ Nat.toDigits 10 n := fun h => by
  have hdigit := Nat.isDigit_of_mem_toDigits (by omega) (by omega) h
  cases hdigit

theorem return_not_mem_hexadecimal (width n : Nat) : '\r' ∉ hexadecimal width n := by
  have hdigits : ∀ n, '\r' ∉ Nat.toDigits 16 n := by
    intro n
    induction n using Nat.strong_induction_on with
    | h n ih =>
      rw [Nat.toDigits_eq_if (by omega)]
      have hne (d : Nat) : '\r' ≠ d.digitChar := (Nat.digitChar_ne '\r' (by decide)).symm
      split
      · simp [hne]
      · simp [hne, ih (n / 16) (by omega)]
  rw [hexadecimal, List.mem_append, not_or]
  exact ⟨fun h => absurd (List.eq_of_mem_replicate h) (by decide), hdigits n⟩

theorem return_not_mem_escaped (c : Char) : '\r' ∉ escaped c := by
  have hunit (n : Nat) : '\r' ∉ unitEscape n := by
    simp [unitEscape, return_not_mem_hexadecimal]
  by_cases hreturn : c = '\r'
  · subst hreturn
    decide
  rw [escaped]
  iterate 6
    split
    · decide
  split
  · exact hunit _
  split
  · simpa using Ne.symm hreturn
  split
  · exact hunit _
  · simp [hunit]

theorem return_not_mem_string (s : String) : '\r' ∉ string s := by
  simp [string, return_not_mem_escaped]

theorem return_not_mem_layout {digits : List Char} (point : Int) (h : '\r' ∉ digits) :
    '\r' ∉ layout digits point := by
  have hexp (n : Int) : '\r' ∉ exponentText n := by
    rw [exponentText]
    split <;> split <;> simp [return_not_mem_toDigits]
  rw [layout]
  split
  · rw [positional]
    split
    · simp [h]
    split
    · simp [h]
    · have htake : '\r' ∉ digits.take point.toNat := fun hc => h (List.mem_of_mem_take hc)
      have hdrop : '\r' ∉ digits.drop point.toNat := fun hc => h (List.mem_of_mem_drop hc)
      simp [htake, hdrop]
  · rcases digits with _ | ⟨d, _ | ⟨e, digits⟩⟩
    · simp [scientific]
    · simp only [List.mem_singleton] at h
      simp [scientific, hexp, h]
    · simp only [List.mem_cons, not_or] at h
      simp [scientific, hexp, h]

theorem return_not_mem_scalar {v : Value} : '\r' ∉ scalar v := by
  cases v with
  | null | tuple items | list items | dict entries => rw [scalar]; decide
  | bool b => cases b <;> decide
  | text s => exact return_not_mem_string s
  | int n =>
    rw [scalar, toList_toString, signed]
    split <;> simp [return_not_mem_toDigits]
  | float x =>
    cases x with
    | infinite negative => cases negative <;> decide
    | nan => decide
    | finite x =>
      have hdigits : '\r' ∉ x.shortest.digits := fun h => by
        have hdigit := x.shortest.isNumeral_digits.isDigit _ h
        cases hdigit
      rw [scalar, toText, signed]
      split <;> simp [return_not_mem_layout _ hdigits]

theorem return_not_mem_newline (level : Nat) : '\r' ∉ newline level := by
  simp [newline]

theorem return_not_mem_indentedItems {items : List Value}
    (h : ∀ v ∈ items, ∀ level, '\r' ∉ indentedAt level v) (level : Nat) :
    '\r' ∉ indentedItems level items := by
  induction items with
  | nil => simp [indentedItems]
  | cons v items ih =>
    obtain ⟨hv, hitems⟩ := List.forall_mem_cons.mp h
    simp [indentedItems, return_not_mem_newline, hv level, ih hitems]

theorem return_not_mem_indentedEntries {entries : List (String × Value)}
    (h : ∀ e ∈ entries, ∀ level, '\r' ∉ indentedAt level e.2) (level : Nat) :
    '\r' ∉ indentedEntries level entries := by
  induction entries with
  | nil => simp [indentedEntries]
  | cons e entries ih =>
    obtain ⟨he, hentries⟩ := List.forall_mem_cons.mp h
    simp [indentedEntries, return_not_mem_newline, return_not_mem_string, he level, ih hentries]

/-- A text over several lines has no other line ends than line feeds. -/
theorem IsReadable.return_not_mem {depth : Nat} {v : Value} (h : IsReadable depth v) :
    ∀ level, '\r' ∉ indentedAt level v := by
  induction h with
  | null | bool | int | float | text =>
    intro level
    rw [indentedAt]
    exact return_not_mem_scalar
  | @list depth items h ih =>
    intro level
    cases items with
    | nil => simp [indentedAt]
    | cons v items =>
      obtain ⟨hv, hitems⟩ := List.forall_mem_cons.mp ih
      simp [indentedAt, return_not_mem_newline, hv _, return_not_mem_indentedItems hitems _]
  | @dict depth entries hkeys h ih =>
    intro level
    cases entries with
    | nil => simp [indentedAt]
    | cons e entries =>
      obtain ⟨he, hentries⟩ := List.forall_mem_cons.mp ih
      simp [indentedAt, return_not_mem_newline, return_not_mem_string, he _,
        return_not_mem_indentedEntries hentries _]

end Json

end Vicinity
