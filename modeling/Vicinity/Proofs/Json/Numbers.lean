import Vicinity.Json.Reader
import Vicinity.Json.Writer
import Vicinity.Proofs.Binary64.Text

/-!
# Numbers in JSON

A number that is written is read again, provided that nothing follows that could continue it
(`Json.EndsNumber`). The reader takes a numeral, a fraction and an exponent one after the other,
and so there is one lemma for each of the shapes a number is written in : whole numbers
(`readNumber_whole`), and floating-point numbers with a fraction, an exponent or both. In the
layouts of a decimal the point stands where the exponent that is read puts it back
(`readNumber_layout`), so that the value is that of the decimal, and the decimal reads back as
the number (`readNumber_toText`).
-/

namespace Vicinity

namespace Json

open Text Binary64

/-! ## What follows a number -/

/-- Whether the rest of a text does not continue a number. -/
def EndsNumber (rest : List Char) : Prop :=
  ∀ c ∈ rest.head?, c.isDigit = false ∧ c ≠ '.' ∧ c ≠ 'e' ∧ c ≠ 'E'

theorem takeWhile_isDigit_append {digits rest : List Char} (h : ∀ c ∈ digits, c.isDigit)
    (hrest : ∀ c ∈ rest.head?, c.isDigit = false) :
    (digits ++ rest).takeWhile Char.isDigit = digits ∧
      (digits ++ rest).dropWhile Char.isDigit = rest := by
  rw [List.takeWhile_append_of_pos h, List.dropWhile_append_of_pos h]
  cases rest with
  | nil => simp
  | cons c rest => simp [hrest c rfl]

/-! ## Parts of numbers -/

theorem readWhole_append {digits rest : List Char} (h : IsNumeral digits)
    (hrest : ∀ c ∈ rest.head?, c.isDigit = false) :
    readWhole (digits ++ rest) = some (digits, rest) := by
  obtain ⟨hne, hdigit, hzero⟩ := h
  cases digits with
  | nil => exact absurd rfl hne
  | cons c digits =>
    by_cases hc : c = '0'
    · subst hc
      obtain rfl : digits = [] := by simpa using hzero rfl
      rfl
    · have htail :=
        takeWhile_isDigit_append (fun d hd => hdigit d (List.mem_cons_of_mem _ hd)) hrest
      rw [List.cons_append, readWhole.eq_def]
      split
      · rename_i heq
        exact absurd (List.cons.inj heq).1 hc
      · rename_i heq
        obtain ⟨rfl, rfl⟩ := List.cons.inj heq
        rw [if_pos (hdigit _ List.mem_cons_self), htail.1, htail.2]
      · rename_i heq
        cases heq

theorem readFraction_append {digits rest : List Char} (hne : digits ≠ [])
    (h : ∀ c ∈ digits, c.isDigit) (hrest : ∀ c ∈ rest.head?, c.isDigit = false) :
    readFraction ('.' :: (digits ++ rest)) = some (digits, rest) := by
  obtain ⟨htake, hdrop⟩ := takeWhile_isDigit_append h hrest
  simp only [readFraction, htake, hdrop, List.isEmpty_eq_false_iff.mpr hne, Bool.false_eq_true,
    if_false]

theorem readFraction_of_head?_ne {rest : List Char} (h : ∀ c ∈ rest.head?, c ≠ '.') :
    readFraction rest = none := by
  rw [readFraction]
  rintro rest' rfl
  exact h '.' rfl rfl

theorem readExponent_of_head?_ne {rest : List Char} (h : ∀ c ∈ rest.head?, c ≠ 'e' ∧ c ≠ 'E') :
    readExponent rest = none := by
  cases rest with
  | nil => rfl
  | cons c rest =>
    obtain ⟨he, hE⟩ := h c rfl
    simp only [readExponent, he, hE, or_self, if_false]

/-- An exponent is a letter, a sign and digits. -/
theorem exists_exponentText_eq (n : Int) : ∃ digits,
    exponentText n = 'e' :: (if n < 0 then '-' else '+') :: digits ∧ digits ≠ [] ∧
      (∀ c ∈ digits, c.isDigit) ∧ digitsValue digits = n.natAbs := by
  have hdigit := (isNumeral_toDigits n.natAbs).isDigit
  refine ⟨_, rfl, ?_⟩
  split
  · exact ⟨by simp, List.forall_mem_cons.mpr ⟨rfl, hdigit⟩, Nat.ofDigitChars_ten_toDigits⟩
  · exact ⟨Nat.toDigits_ne_nil, hdigit, Nat.ofDigitChars_ten_toDigits⟩

theorem readExponent_exponentText (n : Int) {rest : List Char}
    (hrest : ∀ c ∈ rest.head?, c.isDigit = false) :
    readExponent (exponentText n ++ rest) = some (n, rest) := by
  obtain ⟨digits, htext, hne, hdigit, hn⟩ := exists_exponentText_eq n
  obtain ⟨htake, hdrop⟩ := takeWhile_isDigit_append hdigit hrest
  rw [htext]
  by_cases hneg : n < 0
  · simp [readExponent, hneg, htake, hdrop, hn, hne, abs_of_neg hneg]
  · simp [readExponent, hneg, htake, hdrop, hn, hne, abs_of_nonneg (not_lt.mp hneg)]

/-! ## Signs -/

/-- A number whose sign has been taken. -/
def readUnsigned (negative : Bool) (cs : List Char) : Except Fault (Value × List Char) :=
  match readWhole cs with
  | none => .error .malformed
  | some (whole, rest) =>
    match readFraction rest, readExponent rest with
    | none, none =>
      if Value.maxDigits < whole.length then .error .longInteger
      else
        let n : Int := digitsValue whole
        .ok (.int (if negative then -n else n), rest)
    | none, some (e, rest) =>
      .ok (.float (ofScientific negative (digitsValue whole) e), rest)
    | some (fraction, rest), _ =>
      let (e, rest) := (readExponent rest).getD (0, rest)
      .ok (.float (ofScientific negative (digitsValue (whole ++ fraction))
        (e - fraction.length)), rest)

/-- The sign is taken first. -/
theorem readNumber_signed (negative : Bool) {cs : List Char} (h : ∀ c ∈ cs.head?, c ≠ '-') :
    readNumber (signed negative cs) = readUnsigned negative cs := by
  cases negative with
  | true => rfl
  | false =>
    cases cs with
    | nil => rfl
    | cons c cs =>
      have hc := h c rfl
      rw [signed, if_neg Bool.false_ne_true, readNumber.eq_def]
      split
      rename_i heq
      split at heq
      · rename_i heq'
        exact absurd (List.cons.inj heq').1 hc
      · cases heq
        rfl

/-! ## Shapes of numbers -/

variable {whole fraction rest : List Char}

theorem readUnsigned_whole (negative : Bool) (hwhole : IsNumeral whole) (hrest : EndsNumber rest)
    (hlength : whole.length ≤ Value.maxDigits) :
    readUnsigned negative (whole ++ rest) =
      .ok (.int (if negative then -digitsValue whole else digitsValue whole), rest) := by
  rw [readUnsigned, readWhole_append hwhole fun c hc => (hrest c hc).1]
  simp only [readFraction_of_head?_ne fun c hc => (hrest c hc).2.1,
    readExponent_of_head?_ne fun c hc => (hrest c hc).2.2, if_neg (not_lt.mpr hlength)]

theorem readUnsigned_exponent (negative : Bool) (n : Int) (hwhole : IsNumeral whole)
    (hrest : ∀ c ∈ rest.head?, c.isDigit = false) :
    readUnsigned negative (whole ++ (exponentText n ++ rest)) =
      .ok (.float (ofScientific negative (digitsValue whole) n), rest) := by
  have hletter : ∀ c ∈ (exponentText n ++ rest).head?, c = 'e' := by simp [exponentText]
  rw [readUnsigned, readWhole_append hwhole fun c hc => by rw [hletter c hc]; rfl]
  simp only [readFraction_of_head?_ne fun c hc => by rw [hletter c hc]; decide,
    readExponent_exponentText n hrest]

theorem readUnsigned_fraction (negative : Bool) (hwhole : IsNumeral whole) (hne : fraction ≠ [])
    (hfraction : ∀ c ∈ fraction, c.isDigit) (hrest : EndsNumber rest) :
    readUnsigned negative (whole ++ '.' :: (fraction ++ rest)) =
      .ok (.float (ofScientific negative (digitsValue (whole ++ fraction)) (-fraction.length)),
        rest) := by
  rw [readUnsigned, readWhole_append hwhole (by simp)]
  simp only [readFraction_append hne hfraction fun c hc => (hrest c hc).1,
    readExponent_of_head?_ne fun c hc => (hrest c hc).2.2, Option.getD_none, Int.zero_sub]

theorem readUnsigned_fraction_exponent (negative : Bool) (n : Int) (hwhole : IsNumeral whole)
    (hne : fraction ≠ []) (hfraction : ∀ c ∈ fraction, c.isDigit)
    (hrest : ∀ c ∈ rest.head?, c.isDigit = false) :
    readUnsigned negative (whole ++ '.' :: (fraction ++ (exponentText n ++ rest))) =
      .ok (.float (ofScientific negative (digitsValue (whole ++ fraction))
        (n - fraction.length)), rest) := by
  have hletter : ∀ c ∈ (exponentText n ++ rest).head?, c.isDigit = false := by
    simp [exponentText]
  rw [readUnsigned, readWhole_append hwhole (by simp)]
  simp only [readFraction_append hne hfraction hletter, readExponent_exponentText n hrest,
    Option.getD_some]

/-! ## Layouts -/

variable {digits : List Char} {point : Int}

theorem isDigit_of_mem_zeros (n : Nat) : ∀ c ∈ List.replicate n '0', c.isDigit := by
  intro c hc
  rw [List.eq_of_mem_replicate hc]
  rfl

/-- Zeros before the digits have no value. -/
theorem readUnsigned_zeros_digits (negative : Bool) (n : Nat) (h : IsNumeral digits)
    (hrest : EndsNumber rest) :
    readUnsigned negative ('0' :: '.' :: (List.replicate n '0' ++ digits ++ rest)) =
      .ok (.float (ofScientific negative (digitsValue digits) (-(n + digits.length : Nat))),
        rest) := by
  have hvalue : digitsValue (['0'] ++ (List.replicate n '0' ++ digits)) = digitsValue digits := by
    change Nat.ofDigitChars 10 _ 0 = Nat.ofDigitChars 10 _ 0
    rw [Nat.ofDigitChars_append, Nat.ofDigitChars_append, Nat.ofDigitChars_replicate_zero]
    rfl
  have hne : List.replicate n '0' ++ digits ≠ [] := by simp [h.ne_nil]
  have hread := readUnsigned_fraction negative (isNumeral_toDigits 0) hne
    (List.forall_mem_append.mpr ⟨isDigit_of_mem_zeros n, h.isDigit⟩) hrest
  rw [Nat.toDigits_zero, hvalue, List.length_append, List.length_replicate] at hread
  exact hread

/-- Zeros after the digits are powers of ten, and so is the zero after the point. -/
theorem readUnsigned_digits_zeros (negative : Bool) (n : Nat) (h : IsNumeral digits)
    (hzero : digits.head? = some '0' → n = 0) (hrest : EndsNumber rest) :
    readUnsigned negative (digits ++ List.replicate n '0' ++ '.' :: '0' :: rest) =
      .ok (.float (ofScientific negative (digitsValue digits) n), rest) := by
  have hwhole : IsNumeral (digits ++ List.replicate n '0') := by
    refine ⟨by simp [h.ne_nil], List.forall_mem_append.mpr ⟨h.isDigit, isDigit_of_mem_zeros n⟩, ?_⟩
    rw [List.head?_append_of_ne_nil _ h.ne_nil]
    intro hhead
    rw [h.eq_zero hhead, hzero hhead]
    rfl
  have hvalue : digitsValue ((digits ++ List.replicate n '0') ++ ['0']) =
      digitsValue digits * 10 ^ (n + 1) := by
    rw [List.append_assoc, ← List.replicate_succ']
    exact ofDigitChars_append_replicate _ _
  have hexp : (-(['0'].length : ℕ) : Int) + (n + 1 : ℕ) = n := by
    rw [List.length_singleton]
    omega
  have hread := readUnsigned_fraction negative hwhole (List.cons_ne_nil '0' [])
    (isDigit_of_mem_zeros 1) hrest
  rw [hvalue, ofScientific_mul_pow, hexp] at hread
  exact hread

/-- The point can stand between any two digits. -/
theorem readUnsigned_take_drop (negative : Bool) {n : Nat} (h : IsNumeral digits)
    (hzero : digits.head? = some '0' → n = 1) (hpos : 0 < n) (hlt : n < digits.length)
    (hrest : EndsNumber rest) :
    readUnsigned negative (digits.take n ++ '.' :: (digits.drop n ++ rest)) =
      .ok (.float (ofScientific negative (digitsValue digits) (-(digits.length - n : Nat))),
        rest) := by
  have htake : digits.take n ≠ [] := by
    simp only [ne_eq, List.take_eq_nil_iff, h.ne_nil, or_false]
    omega
  have hdrop : digits.drop n ≠ [] := by
    rw [ne_eq, List.drop_eq_nil_iff]
    omega
  have hwhole : IsNumeral (digits.take n) := by
    refine ⟨htake, fun c hc => h.isDigit c (List.mem_of_mem_take hc), fun hhead => ?_⟩
    rw [List.head?_take, if_neg (by omega)] at hhead
    rw [h.eq_zero hhead, hzero hhead]
    rfl
  have hread := readUnsigned_fraction negative hwhole hdrop
    (fun c hc => h.isDigit c (List.mem_of_mem_drop hc)) hrest
  rw [List.take_append_drop, List.length_drop] at hread
  exact hread

theorem readUnsigned_positional (negative : Bool) (h : IsNumeral digits)
    (hzero : digits.head? = some '0' → point = 1) (hrest : EndsNumber rest) :
    readUnsigned negative (positional digits point ++ rest) =
      .ok (.float (ofScientific negative (digitsValue digits) (point - digits.length)), rest) := by
  rw [positional]
  split
  · have hexp : (-((-point).toNat + digits.length : ℕ) : Int) = point - digits.length := by omega
    rw [← hexp]
    exact readUnsigned_zeros_digits negative _ h hrest
  split
  · have hexp : ((point.toNat - digits.length : ℕ) : Int) = point - digits.length := by omega
    have hpos := List.length_pos_iff.mpr h.ne_nil
    have hread := readUnsigned_digits_zeros negative (point.toNat - digits.length) h
      (fun hhead => by rw [hzero hhead]; omega) hrest
    rw [hexp] at hread
    simpa using hread
  · have hexp : (-(digits.length - point.toNat : ℕ) : Int) = point - digits.length := by omega
    have hread := readUnsigned_take_drop negative h (n := point.toNat)
      (fun hhead => by rw [hzero hhead]; rfl) (by omega) (by omega) hrest
    rw [hexp] at hread
    simpa using hread

theorem readUnsigned_scientific (negative : Bool) (h : IsNumeral digits)
    (hrest : EndsNumber rest) :
    readUnsigned negative (scientific digits point ++ rest) =
      .ok (.float (ofScientific negative (digitsValue digits) (point - digits.length)), rest) := by
  have hend : ∀ c ∈ rest.head?, c.isDigit = false := fun c hc => (hrest c hc).1
  obtain ⟨hne, hdigit, -⟩ := h
  match digits with
  | [] => exact absurd rfl hne
  | [d] =>
    have hwhole : IsNumeral [d] := ⟨by simp, hdigit, by simp⟩
    exact readUnsigned_exponent negative (point - 1) hwhole hend
  | d :: e :: digits =>
    obtain ⟨hd, htail⟩ := List.forall_mem_cons.mp hdigit
    have hwhole : IsNumeral [d] := ⟨by simp, by simpa using hd, by simp⟩
    have hread := readUnsigned_fraction_exponent negative (point - 1) hwhole
      (List.cons_ne_nil e digits) htail hend
    have hexp : point - 1 - (e :: digits).length = point - (d :: e :: digits).length := by
      simp only [List.length_cons]
      omega
    rw [hexp] at hread
    simpa [scientific] using hread

theorem readUnsigned_layout (negative : Bool) (h : IsNumeral digits)
    (hzero : digits.head? = some '0' → point = 1) (hrest : EndsNumber rest) :
    readUnsigned negative (layout digits point ++ rest) =
      .ok (.float (ofScientific negative (digitsValue digits) (point - digits.length)), rest) := by
  rw [layout]
  split
  · exact readUnsigned_positional negative h hzero hrest
  · exact readUnsigned_scientific negative h hrest

/-- A layout begins with a digit. -/
theorem exists_layout_eq (point : Int) (h : IsNumeral digits) :
    ∃ c tail, layout digits point = c :: tail ∧ c.isDigit := by
  obtain ⟨hne, hdigit, -⟩ := h
  cases digits with
  | nil => exact absurd rfl hne
  | cons d digits =>
    have hd := hdigit d List.mem_cons_self
    rw [layout]
    split
    · rw [positional]
      split
      · exact ⟨'0', _, rfl, rfl⟩
      split
      · exact ⟨d, _, rfl, hd⟩
      · rename_i hpoint _
        obtain ⟨n, hn⟩ : ∃ n, point.toNat = n + 1 := ⟨point.toNat - 1, by omega⟩
        rw [hn]
        exact ⟨d, _, rfl, hd⟩
    · cases digits with
      | nil => exact ⟨d, _, rfl, hd⟩
      | cons e digits => exact ⟨d, _, rfl, hd⟩

/-! ## Numbers that are written -/

theorem signed_append (negative : Bool) (text rest : List Char) :
    signed negative text ++ rest = signed negative (text ++ rest) := by
  cases negative <;> rfl

theorem ne_minus_of_isDigit {c : Char} (h : c.isDigit) : c ≠ '-' := by
  rintro rfl
  cases h

/-- A floating-point number is read as it was, with its sign. -/
theorem readNumber_toText (infinity notANumber : List Char) (x : Finite)
    (hrest : EndsNumber rest) :
    readNumber (toText infinity notANumber (.finite x) ++ rest) =
      .ok (.float (.finite x), rest) := by
  have hnumeral := x.shortest.isNumeral_digits
  obtain ⟨c, tail, hlayout, hc⟩ := exists_layout_eq x.shortest.point hnumeral
  have hhead : ∀ d ∈ (layout x.shortest.digits x.shortest.point ++ rest).head?, d ≠ '-' := by
    rw [hlayout]
    rintro _ ⟨⟩
    exact ne_minus_of_isDigit hc
  have hvalue : ofScientific x.negative (digitsValue x.shortest.digits)
      (x.shortest.point - x.shortest.digits.length) = .finite x :=
    (x.shortest.ofScientific_digits x.negative).trans (eq_of_beq x.readsBack_shortest)
  rw [toText, signed_append, readNumber_signed x.negative hhead,
    readUnsigned_layout x.negative hnumeral Decimal.point_of_head?_eq_zero hrest, hvalue]

theorem toList_toString (n : Int) :
    (toString n).toList = signed (n < 0) (Nat.toDigits 10 n.natAbs) := by
  cases n with
  | ofNat n => exact Nat.toList_repr
  | negSucc n =>
    have htext : toString (Int.negSucc n) = "-" ++ (n + 1).repr := rfl
    rw [htext, String.toList_append, Nat.toList_repr, decide_eq_true (Int.negSucc_lt_zero n),
      Int.natAbs_negSucc]
    rfl

/-- A whole number of not too many digits is read as it was. -/
theorem readNumber_toString {n : Int}
    (hlength : (Nat.toDigits 10 n.natAbs).length ≤ Value.maxDigits) (hrest : EndsNumber rest) :
    readNumber ((toString n).toList ++ rest) = .ok (.int n, rest) := by
  have hnumeral := isNumeral_toDigits n.natAbs
  have hhead : ∀ d ∈ (Nat.toDigits 10 n.natAbs ++ rest).head?, d ≠ '-' := by
    rw [List.head?_append_of_ne_nil _ hnumeral.ne_nil]
    intro d hd
    exact ne_minus_of_isDigit (hnumeral.isDigit d (List.mem_of_mem_head? hd))
  have hvalue : digitsValue (Nat.toDigits 10 n.natAbs) = n.natAbs := Nat.ofDigitChars_ten_toDigits
  rw [toList_toString, signed_append, readNumber_signed _ hhead,
    readUnsigned_whole _ hnumeral hrest hlength, hvalue]
  by_cases hneg : n < 0
  · simp [hneg, abs_of_neg hneg]
  · simp [hneg, abs_of_nonneg (not_lt.mp hneg)]

end Json

end Vicinity
