import Conformance.Native.JsonText
import Conformance.Spec.JsonEquality

/-!
# JSON text, written and read

What `json.dumps` writes, `json.loads` reads back. A value that was written is followed
by the end, a comma or a closing bracket, so a number is read to its end.

## Key results

- `scanString_escaped`, `scanNumber_dumpInt`, `scanNumber_float`: the scalars
- `readBack`: a value with more text behind it
- `jsonLoads_jsonDumps`: the round trip
-/

namespace Conformance

open Except

/-! ## Values as they are read -/

/-- The items of a list are read one by one. -/
theorem itemsToPy_eq_map (items : List Json) : itemsToPy items = items.map Json.toPy := by
  induction items with
  | nil => rfl
  | cons item rest ih => rw [itemsToPy, ih, List.map_cons]

/-- The members of an object are read one by one. -/
theorem fieldsToPy_eq_map (fields : JsonObject) :
    fieldsToPy fields = fields.map fun field => (.ofString field.1, field.2.toPy) := by
  induction fields with
  | nil => rfl
  | cons field rest ih => rw [fieldsToPy, ih, List.map_cons]

@[simp] theorem Json.toPy_arr (items : List Json) :
    (Json.arr items).toPy = .arr (items.map Json.toPy) := by
  rw [Json.toPy, itemsToPy_eq_map]

/-- An object is read member by member. -/
@[simp] theorem Json.toPy_obj (fields : JsonObject) :
    (Json.obj fields).toPy =
      .obj (fields.map fun field => (.ofString field.1, field.2.toPy)) := by
  rw [Json.toPy, fieldsToPy_eq_map]

/-- Different texts are different strings. -/
theorem PyStr.ofString_injective : Function.Injective PyStr.ofString := by
  intro text text' h
  have hscalar : Function.Injective CodePoint.scalar := fun _ _ h => CodePoint.scalar.inj h
  exact String.toList_inj.mp (hscalar.list_map h)

/-- The code point of a character is its scalar value. -/
theorem CodePoint.ofNat_toNat (c : Char) : CodePoint.ofNat c.toNat = .scalar c := by
  have hvalid : ¬(0xd800 ≤ c.toNat ∧ c.toNat < 0xe000) := by
    rcases c.valid with hlow | ⟨hhigh, -⟩
    · have hlow : c.toNat < 0xd800 := hlow
      omega
    · have hhigh : 0xdfff < c.toNat := hhigh
      omega
  rw [CodePoint.ofNat, dif_neg hvalid, Char.ofNat_toNat]

/-! ## Strings -/

theorem hexValue?_lowerHexDigit : ∀ n, n < 16 → hexValue? (lowerHexDigit n) = some n := by
  decide +kernel

/-- A control character is read back from its four digits. -/
theorem scanString_control {c : Char} (h : c.toNat < 0x20) (rest : List Char) :
    scanString ('\\' :: 'u' :: '0' :: '0' :: lowerHexDigit (c.toNat / 16) ::
      lowerHexDigit (c.toNat % 16) :: rest) = consPoint (.scalar c) (scanString rest) := by
  have hfour : hexFour? '0' '0' (lowerHexDigit (c.toNat / 16)) (lowerHexDigit (c.toNat % 16)) =
      some c.toNat := by
    have hzero : hexValue? '0' = some 0 := rfl
    simp only [hexFour?, hzero, hexValue?_lowerHexDigit _ (show c.toNat / 16 < 16 by omega),
      hexValue?_lowerHexDigit _ (show c.toNat % 16 < 16 by omega), Option.bind_eq_bind,
      Option.bind_some, Option.pure_def, Option.some.injEq]
    omega
  rw [scanString, hfour]
  simp only
  rw [if_neg (by omega), CodePoint.ofNat_toNat]

/-- A character that needs no escape is read as it stands. -/
theorem scanString_plain {c : Char} (hquote : c ≠ '"') (hbackslash : c ≠ '\\')
    (hcontrol : ¬c.toNat < 0x20) (rest : List Char) :
    scanString (c :: rest) = consPoint (.scalar c) (scanString rest) := by
  rw [scanString.eq_def]
  split
  · rename_i heq
    cases heq
  · rename_i heq
    exact absurd (List.cons.inj heq).1 hquote
  · rename_i heq
    exact absurd (List.cons.inj heq).1 hbackslash
  · rename_i heq
    exact absurd (List.cons.inj heq).1 hbackslash
  · rename_i heq
    obtain ⟨rfl, rfl⟩ := List.cons.inj heq
    rw [if_neg hcontrol]

/-- An escaped character is read back. -/
theorem scanString_escapeChar (c : Char) (rest : List Char) :
    scanString (escapeChar c ++ rest) = consPoint (.scalar c) (scanString rest) := by
  unfold escapeChar
  split
  · rename_i h
    subst h
    rfl
  split
  · rename_i h
    subst h
    rfl
  split
  · rename_i h
    subst h
    rfl
  split
  · rename_i h
    subst h
    rfl
  split
  · rename_i h
    subst h
    rfl
  split
  · rename_i h
    obtain rfl : c = Char.ofNat 0x08 := by rw [← h, Char.ofNat_toNat]
    rfl
  split
  · rename_i h
    obtain rfl : c = Char.ofNat 0x0c := by rw [← h, Char.ofNat_toNat]
    rfl
  split
  · rename_i hcontrol
    exact scanString_control hcontrol rest
  · rename_i hquote hbackslash _ _ _ _ _ hcontrol
    exact scanString_plain hquote hbackslash hcontrol rest

/-- Escaped characters are read back up to the closing quote. -/
theorem scanString_escaped (cs rest : List Char) :
    scanString (cs.flatMap escapeChar ++ '"' :: rest) = some (cs.map .scalar, rest) := by
  induction cs with
  | nil => rfl
  | cons c cs ih =>
    rw [List.flatMap_cons, List.append_assoc, scanString_escapeChar, ih]
    rfl

/-! ## Numbers -/

/-- The text after a value: its end, a comma or a closing bracket. -/
def Ends (rest : List Char) : Prop := ∀ c ∈ rest.head?, c = ',' ∨ c = ']' ∨ c = '\x7d'

theorem ends_nil : Ends [] := by simp [Ends]

theorem Ends.not_digit {rest : List Char} (h : Ends rest) : ∀ c ∈ rest.head?, c.isDigit = false := by
  intro c hc
  rcases h c hc with rfl | rfl | rfl <;> rfl

/-- Digits are taken up to what follows them. -/
theorem takeWhile_isDigit_append {digits rest : List Char} (hdigits : ∀ c ∈ digits, c.isDigit = true)
    (hrest : ∀ c ∈ rest.head?, c.isDigit = false) :
    (digits ++ rest).takeWhile Char.isDigit = digits := by
  rw [List.takeWhile_append_of_pos hdigits]
  cases rest with
  | nil => simp
  | cons c rest =>
    rw [List.takeWhile_cons_of_neg (by simp [hrest c rfl]), List.append_nil]

/-- An integer part: digits, the first of them no zero unless it is the only one. -/
structure IsIntegerPart (digits : List Char) : Prop where
  notEmpty : digits ≠ []
  allDigits : ∀ c ∈ digits, c.isDigit = true
  zero : digits.head? = some '0' → digits = ['0']

/-- The integer part is read up to what follows it. -/
theorem integerPart_append {digits rest : List Char} (h : IsIntegerPart digits)
    (hrest : ∀ c ∈ rest.head?, c.isDigit = false) : integerPart (digits ++ rest) = digits := by
  obtain ⟨c, tail, rfl⟩ := List.exists_cons_of_ne_nil h.notEmpty
  by_cases hzero : c = '0'
  · subst hzero
    obtain rfl := (List.cons.inj (h.zero rfl)).2
    rfl
  · have htake := takeWhile_isDigit_append h.allDigits hrest
    unfold integerPart
    split
    · rename_i heq
      exact absurd (List.cons.inj heq).1 hzero
    · exact htake

/-- The text of a fraction. -/
def IsFraction (cs : List Char) : Prop :=
  ∃ digits, cs = '.' :: digits ∧ digits ≠ [] ∧ ∀ c ∈ digits, c.isDigit = true

/-- The fraction is read up to what follows it. -/
theorem fractionPart_append {cs rest : List Char} (h : IsFraction cs)
    (hrest : ∀ c ∈ rest.head?, c.isDigit = false) : fractionPart (cs ++ rest) = cs := by
  obtain ⟨digits, rfl, hne, hdigits⟩ := h
  have htake := takeWhile_isDigit_append hdigits hrest
  rw [List.cons_append, fractionPart, htake, if_neg hne]

/-- Without a point there is no fraction. -/
theorem fractionPart_eq_nil {rest : List Char} (h : rest.head? ≠ some '.') :
    fractionPart rest = [] := by
  unfold fractionPart
  split
  · exact absurd rfl h
  · rfl

/-- The text of an exponent, with its sign. -/
def IsExponent (cs : List Char) : Prop :=
  ∃ sign digits, cs = 'e' :: sign :: digits ∧ (sign = '-' ∨ sign = '+') ∧ digits ≠ [] ∧
    ∀ c ∈ digits, c.isDigit = true

/-- The exponent is read up to what follows it. -/
theorem exponentPart_append {cs rest : List Char} (h : IsExponent cs)
    (hrest : ∀ c ∈ rest.head?, c.isDigit = false) : exponentPart (cs ++ rest) = cs := by
  obtain ⟨sign, digits, rfl, hsign, hne, hdigits⟩ := h
  have htake := takeWhile_isDigit_append hdigits hrest
  have hhead : (sign :: (digits ++ rest)).head? = some '-' ∨
      (sign :: (digits ++ rest)).head? = some '+' := by
    simpa using hsign
  rw [List.cons_append, List.cons_append, exponentPart]
  simp only [true_or, if_true, if_pos hhead, List.take_succ_cons, List.take_zero,
    List.length_singleton, List.drop_succ_cons, List.drop_zero, htake, if_neg hne,
    List.singleton_append]

/-- Without an `e` there is no exponent. -/
theorem exponentPart_eq_nil {rest : List Char} (h : ∀ c ∈ rest.head?, c ≠ 'e' ∧ c ≠ 'E') :
    exponentPart rest = [] := by
  cases rest with
  | nil => rfl
  | cons c rest =>
    rw [exponentPart, if_neg]
    rintro (rfl | rfl)
    · exact (h _ rfl).1 rfl
    · exact (h _ rfl).2 rfl

/-- How a float is written: as a number with a fraction or an exponent, which reads as
    the float. -/
structure FloatText.Reads (floats : FloatText) (q : Rat) : Prop where
  reads : floats.ofText (floats.repr q) = .finite q
  written : ∃ sign digits fraction exponent,
    floats.repr q = sign ++ (digits ++ (fraction ++ exponent)) ∧ (sign = [] ∨ sign = ['-']) ∧
    IsIntegerPart digits ∧ (fraction = [] ∨ IsFraction fraction) ∧
    (exponent = [] ∨ IsExponent exponent) ∧ (fraction ≠ [] ∨ exponent ≠ [])

/-- A positive number is written without a leading zero. -/
theorem head?_toDigits_ne_zero {n : Nat} (h : 0 < n) :
    (Nat.toDigits 10 n).head? ≠ some '0' := by
  induction n using Nat.strongRecOn with
  | ind n ih =>
    rw [Nat.toDigits_eq_if (by decide)]
    split
    · rename_i hlt
      have hdigit : ∀ m, m < 10 → 0 < m → Nat.digitChar m ≠ '0' := by decide +kernel
      rw [List.head?_cons]
      exact fun heq => hdigit n hlt h (Option.some.inj heq)
    · rename_i hlt
      have hrest := ih (n / 10) (by omega) (by omega)
      rwa [List.head?_append_of_ne_nil _ Nat.toDigits_ne_nil]

/-- The decimal digits of a number are an integer part. -/
theorem isIntegerPart_toDigits (n : Nat) : IsIntegerPart (Nat.toDigits 10 n) where
  notEmpty := Nat.toDigits_ne_nil
  allDigits := fun _ hc => Nat.isDigit_of_mem_toDigits (by decide) (by decide) hc
  zero := by
    intro hhead
    rcases Nat.eq_zero_or_pos n with rfl | hpos
    · rfl
    · exact absurd hhead (head?_toDigits_ne_zero hpos)

/-- The sign of an integer. -/
theorem sign_cases (n : Int) :
    (if n < 0 then ['-'] else []) = [] ∨ (if n < 0 then ['-'] else []) = ['-'] := by
  split
  · exact .inr rfl
  · exact .inl rfl

/-- An integer is its sign and its absolute value. -/
theorem sign_natAbs (n : Int) :
    (if (if n < 0 then ['-'] else []) = ([] : List Char) then (n.natAbs : Int) else -n.natAbs) =
      n := by
  by_cases hneg : n < 0
  · rw [if_pos hneg, if_neg (List.cons_ne_nil _ _)]
    omega
  · rw [if_neg hneg, if_pos rfl]
    omega

/-- A sign is no digit, so it is told from what follows it. -/
theorem signPart_append {sign digits : List Char} (hsign : sign = [] ∨ sign = ['-'])
    (hdigits : IsIntegerPart digits) (rest : List Char) :
    (if (sign ++ (digits ++ rest)).head? = some '-' then ['-'] else []) = sign := by
  rcases hsign with rfl | rfl
  · obtain ⟨c, tail, rfl⟩ := List.exists_cons_of_ne_nil hdigits.notEmpty
    rw [if_neg]
    intro hhead
    obtain rfl : c = '-' := Option.some.inj hhead
    exact absurd (hdigits.allDigits '-' List.mem_cons_self) (by decide)
  · rfl

/-- Numerator and denominator with a point between them. -/
def ratioText : FloatText where
  repr q := (if q.num < 0 then ['-'] else []) ++
    (Nat.toDigits 10 q.num.natAbs ++ '.' :: Nat.toDigits 10 q.den)
  ofText text :=
    let sign := if text.head? = some '-' then ['-'] else []
    let digits := (text.drop sign.length).takeWhile Char.isDigit
    let numerator : Int := Nat.ofDigitChars 10 digits 0
    .finite (mkRat (if sign = [] then numerator else -numerator)
      (Nat.ofDigitChars 10 (text.drop (sign.length + digits.length + 1)) 0))

/-- What the sample spelling reads. -/
theorem ratioText_ofText {sign digits : List Char} (hsign : sign = [] ∨ sign = ['-'])
    (hdigits : IsIntegerPart digits) (rest : List Char) :
    ratioText.ofText (sign ++ (digits ++ '.' :: rest)) =
      .finite (mkRat (if sign = [] then (Nat.ofDigitChars 10 digits 0 : Int)
        else -(Nat.ofDigitChars 10 digits 0 : Int)) (Nat.ofDigitChars 10 rest 0)) := by
  have htake := takeWhile_isDigit_append hdigits.allDigits (show ∀ c ∈ ('.' :: rest).head?,
    c.isDigit = false from fun c hc => Option.some.inj hc ▸ rfl)
  have hdrop : (sign ++ (digits ++ '.' :: rest)).drop (sign.length + digits.length + 1) = rest := by
    have happend : sign ++ (digits ++ '.' :: rest) = (sign ++ digits ++ ['.']) ++ rest := by simp
    rw [happend, List.drop_left']
    simp [Nat.add_assoc]
  simp only [ratioText, signPart_append hsign hdigits, List.drop_left, htake, hdrop]

/-- The sample spelling reads every float back. -/
theorem ratioText_reads (q : Rat) : ratioText.Reads q where
  reads := by
    refine (ratioText_ofText (sign_cases q.num) (isIntegerPart_toDigits _) _).trans ?_
    rw [Nat.ofDigitChars_ten_toDigits, Nat.ofDigitChars_ten_toDigits, sign_natAbs]
    exact congrArg PyFloat.finite (Rat.mkRat_self q)
  written := by
    refine ⟨if q.num < 0 then ['-'] else [], Nat.toDigits 10 q.num.natAbs,
      '.' :: Nat.toDigits 10 q.den, [], by simp [ratioText], ?_, isIntegerPart_toDigits _,
      .inr ⟨_, rfl, Nat.toDigits_ne_nil, fun c hc => ?_⟩, .inl rfl, .inl (List.cons_ne_nil _ _)⟩
    · exact sign_cases q.num
    · exact (isIntegerPart_toDigits q.den).allDigits c hc

/-- An integer is read up to what follows it. -/
theorem scanNumber_integer (floats : FloatText) {sign digits rest : List Char}
    (hsign : sign = [] ∨ sign = ['-']) (hdigits : IsIntegerPart digits)
    (hlength : digits.length ≤ maxIntDigits) (hrest : Ends rest) :
    scanNumber floats (sign ++ (digits ++ rest)) =
      some (.int (if sign = [] then (Nat.ofDigitChars 10 digits 0 : Int)
        else -(Nat.ofDigitChars 10 digits 0 : Int)), rest) := by
  have hfraction : fractionPart rest = [] := by
    apply fractionPart_eq_nil
    intro hhead
    rcases hrest '.' hhead with h | h | h <;> cases h
  have hexponent : exponentPart rest = [] := by
    apply exponentPart_eq_nil
    intro c hc
    rcases hrest c hc with rfl | rfl | rfl <;> decide
  unfold scanNumber
  simp only [signPart_append hsign hdigits rest, List.drop_left,
    integerPart_append hdigits hrest.not_digit, hfraction, List.length_nil, List.drop_zero,
    hexponent, if_neg hdigits.notEmpty, and_self, if_true, if_neg (Nat.not_lt.mpr hlength)]

/-- An integer is written when it has few enough digits. -/
theorem dumpInt_eq_ok {n : Int} {text : List Char} (h : dumpInt n = .ok text) :
    (Nat.toDigits 10 n.natAbs).length ≤ maxIntDigits ∧
    text = (if n < 0 then ['-'] else []) ++ Nat.toDigits 10 n.natAbs := by
  obtain ⟨hlength, htext⟩ := ite_error_eq_ok.mp h
  refine ⟨Nat.le_of_not_lt hlength, ?_⟩
  cases htext
  split
  · rfl
  · rfl

/-- An integer is read back. -/
theorem scanNumber_dumpInt (floats : FloatText) {n : Int} {text rest : List Char}
    (h : dumpInt n = .ok text) (hrest : Ends rest) :
    scanNumber floats (text ++ rest) = some (.int n, rest) := by
  obtain ⟨hlength, rfl⟩ := dumpInt_eq_ok h
  rw [List.append_assoc,
    scanNumber_integer floats (sign_cases n) (isIntegerPart_toDigits n.natAbs) hlength hrest,
    Nat.ofDigitChars_ten_toDigits, sign_natAbs]

/-- A fraction begins with no digit. -/
theorem IsFraction.not_digit_head {fraction : List Char} (h : IsFraction fraction)
    (rest : List Char) : ∀ c ∈ (fraction ++ rest).head?, c.isDigit = false := by
  obtain ⟨digits, rfl, -, -⟩ := h
  intro c hc
  obtain rfl := Option.some.inj hc
  rfl

/-- An exponent begins with an `e`. -/
theorem IsExponent.head {exponent : List Char} (h : IsExponent exponent) (rest : List Char) :
    (exponent ++ rest).head? = some 'e' := by
  obtain ⟨sign, digits, rfl, -⟩ := h
  rfl

/-- A float is read back. -/
theorem scanNumber_float {floats : FloatText} {q : Rat} (h : floats.Reads q) {rest : List Char}
    (hrest : Ends rest) :
    scanNumber floats (floats.repr q ++ rest) = some (.float (.finite q), rest) := by
  obtain ⟨sign, digits, fraction, exponent, htext, hsign, hdigits, hfraction, hexponent, hone⟩ :=
    h.written
  have hafterExponent : ∀ c ∈ (exponent ++ rest).head?, c.isDigit = false := by
    rcases hexponent with rfl | hexponent
    · exact hrest.not_digit
    · rw [hexponent.head]
      rintro c hc
      obtain rfl := Option.some.inj hc
      rfl
  have hafterFraction : ∀ c ∈ (fraction ++ (exponent ++ rest)).head?, c.isDigit = false := by
    rcases hfraction with rfl | hfraction
    · exact hafterExponent
    · exact hfraction.not_digit_head _
  have hfractionPart : fractionPart (fraction ++ (exponent ++ rest)) = fraction := by
    rcases hfraction with rfl | hfraction
    · apply fractionPart_eq_nil
      rcases hexponent with rfl | hexponent
      · intro hhead
        rcases hrest '.' hhead with h | h | h <;> cases h
      · rw [List.nil_append, hexponent.head]
        decide
    · exact fractionPart_append hfraction hafterExponent
  have hexponentPart : exponentPart (exponent ++ rest) = exponent := by
    rcases hexponent with rfl | hexponent
    · apply exponentPart_eq_nil
      intro c hc
      rcases hrest c hc with rfl | rfl | rfl <;> decide
    · exact exponentPart_append hexponent hrest.not_digit
  have hsome : ¬ (fraction = [] ∧ exponent = []) := by
    rintro ⟨rfl, rfl⟩
    exact hone.elim (absurd rfl) (absurd rfl)
  have hassoc : floats.repr q ++ rest =
      sign ++ (digits ++ (fraction ++ (exponent ++ rest))) := by
    rw [htext]
    simp only [List.append_assoc]
  have hread : floats.ofText (sign ++ digits ++ fraction ++ exponent) = .finite q := by
    rw [← h.reads, htext]
    simp only [List.append_assoc]
  rw [hassoc]
  unfold scanNumber
  simp only [signPart_append hsign hdigits, List.drop_left,
    integerPart_append hdigits hafterFraction, hfractionPart, hexponentPart,
    if_neg hdigits.notEmpty, if_neg hsome, hread]

/-! ## Values -/

/-- The character that a value begins with is no white space and closes nothing. -/
def Begins (text : List Char) : Prop := ∃ c tail, text = c :: tail ∧ isJsonSpace c = false ∧ c ≠ ']'

/-- A value begins as it does whatever follows it. -/
theorem Begins.append {text : List Char} (h : Begins text) (rest : List Char) :
    Begins (text ++ rest) := by
  obtain ⟨c, tail, rfl, hc⟩ := h
  exact ⟨c, tail ++ rest, rfl, hc⟩

theorem Begins.skipSpace {text : List Char} (h : Begins text) : skipSpace text = text := by
  obtain ⟨c, tail, rfl, hc, -⟩ := h
  exact List.dropWhile_cons_of_neg (by simp [hc])

theorem Begins.length_pos {text : List Char} (h : Begins text) : 0 < text.length := by
  obtain ⟨c, tail, rfl, -⟩ := h
  exact Nat.succ_pos _

/-- A number begins with a digit, behind its sign. -/
def BeginsNumber (text : List Char) : Prop :=
  ∃ sign digit tail, text = sign ++ digit :: tail ∧ (sign = [] ∨ sign = ['-']) ∧
    digit.isDigit = true

/-- A number begins as it does whatever follows it. -/
theorem BeginsNumber.append {text : List Char} (h : BeginsNumber text) (rest : List Char) :
    BeginsNumber (text ++ rest) := by
  obtain ⟨sign, digit, tail, rfl, hsign, hdigit⟩ := h
  exact ⟨sign, digit, tail ++ rest, by simp, hsign, hdigit⟩

/-- A digit is no other character. -/
theorem ne_of_isDigit {c d : Char} (h : c.isDigit = true) (hd : d.isDigit = false) : c ≠ d := by
  rintro rfl
  rw [h] at hd
  cases hd

/-- A number is a value. -/
theorem BeginsNumber.begins {text : List Char} (h : BeginsNumber text) : Begins text := by
  obtain ⟨sign, digit, tail, rfl, rfl | rfl, hdigit⟩ := h
  · refine ⟨digit, tail, rfl, ?_, ne_of_isDigit hdigit rfl⟩
    simp only [isJsonSpace, Bool.or_eq_false_iff, beq_eq_false_iff_ne]
    exact ⟨⟨⟨ne_of_isDigit hdigit rfl, ne_of_isDigit hdigit rfl⟩, ne_of_isDigit hdigit rfl⟩,
      ne_of_isDigit hdigit rfl⟩
  · exact ⟨'-', digit :: tail, rfl, rfl, by decide⟩

/-- A sign and an integer part begin a number. -/
theorem beginsNumber_append {sign digits : List Char} (hsign : sign = [] ∨ sign = ['-'])
    (hdigits : IsIntegerPart digits) (rest : List Char) :
    BeginsNumber (sign ++ (digits ++ rest)) := by
  obtain ⟨c, tail, rfl⟩ := List.exists_cons_of_ne_nil hdigits.notEmpty
  exact ⟨sign, c, tail ++ rest, rfl, hsign, hdigits.allDigits c List.mem_cons_self⟩

/-- What begins as a number is scanned as one. -/
theorem scanOnce_number (floats : FloatText) (fuel : Nat) {text : List Char}
    (h : BeginsNumber text) : scanOnce floats (fuel + 1) text = scanNumber floats text := by
  obtain ⟨sign, digit, tail, rfl, rfl | rfl, hdigit⟩ := h
  · have hother : ∀ d, d.isDigit = false → digit ≠ d := fun d hd => ne_of_isDigit hdigit hd
    rw [List.nil_append, scanOnce, if_neg (hother _ rfl), if_neg (hother _ rfl),
      if_neg (hother _ rfl), if_neg (hother _ rfl), if_neg (hother _ rfl), if_neg (hother _ rfl),
      if_neg (hother _ rfl), if_neg (hother _ rfl), if_neg fun hminus => hother _ rfl hminus.1]
  · have hinfinity : ¬('-' = '-' ∧
        (digit :: tail).take 8 = ['I', 'n', 'f', 'i', 'n', 'i', 't', 'y']) := by
      rintro ⟨-, htake⟩
      rw [List.take_succ_cons] at htake
      exact ne_of_isDigit hdigit rfl (List.cons.inj htake).1
    show scanOnce floats (fuel + 1) ('-' :: digit :: tail) = _
    rw [scanOnce, if_neg (by decide), if_neg (by decide), if_neg (by decide), if_neg (by decide),
      if_neg (by decide), if_neg (by decide), if_neg (by decide), if_neg (by decide),
      if_neg hinfinity]
    rfl

/-- An integer is written as a number. -/
theorem beginsNumber_dumpInt {n : Int} {text : List Char} (h : dumpInt n = .ok text) :
    BeginsNumber text := by
  obtain ⟨-, rfl⟩ := dumpInt_eq_ok h
  rw [← List.append_nil (Nat.toDigits 10 n.natAbs)]
  exact beginsNumber_append (sign_cases n) (isIntegerPart_toDigits n.natAbs) []

/-- A float is written as a number. -/
theorem beginsNumber_repr {floats : FloatText} {q : Rat} (h : floats.Reads q) :
    BeginsNumber (floats.repr q) := by
  obtain ⟨sign, digits, fraction, exponent, htext, hsign, hdigits, -⟩ := h.written
  rw [htext]
  exact beginsNumber_append hsign hdigits _

mutual

/-- The floats in a value. -/
def Json.floatsIn : Json → List Rat
  | .float q => [q]
  | .arr items => floatsInItems items
  | .obj fields => floatsInFields fields
  | .null | .bool _ | .int _ | .str _ => []

/-- The floats in the items of a list. -/
def floatsInItems : List Json → List Rat
  | [] => []
  | item :: rest => item.floatsIn ++ floatsInItems rest

/-- The floats in the members of an object. -/
def floatsInFields : List (String × Json) → List Rat
  | [] => []
  | (_, value) :: rest => value.floatsIn ++ floatsInFields rest

end

/-- Every float in a value is read as it is written. -/
def Json.FloatsRead (floats : FloatText) (value : Json) : Prop :=
  ∀ q ∈ value.floatsIn, floats.Reads q

/-- The floats of an item are read back. -/
theorem Json.FloatsRead.item {floats : FloatText} {items : List Json}
    (h : (Json.arr items).FloatsRead floats) {item : Json} (hitem : item ∈ items) :
    item.FloatsRead floats := by
  intro q hq
  refine h q ?_
  rw [Json.floatsIn]
  induction items with
  | nil => cases hitem
  | cons head rest ih =>
    rw [floatsInItems, List.mem_append]
    rcases List.mem_cons.mp hitem with rfl | hitem
    · exact .inl hq
    · exact .inr (ih (fun q hq => h q (by
        rw [Json.floatsIn] at hq ⊢
        exact List.mem_append_right _ hq)) hitem)

/-- The floats of a member are read back. -/
theorem Json.FloatsRead.member {floats : FloatText} {fields : JsonObject}
    (h : (Json.obj fields).FloatsRead floats) {field : String × Json} (hfield : field ∈ fields) :
    field.2.FloatsRead floats := by
  intro q hq
  refine h q ?_
  rw [Json.floatsIn]
  induction fields with
  | nil => cases hfield
  | cons head rest ih =>
    rw [floatsInFields, List.mem_append]
    rcases List.mem_cons.mp hfield with rfl | hfield
    · exact .inl hq
    · exact .inr (ih (fun q hq => h q (by
        rw [Json.floatsIn] at hq ⊢
        exact List.mem_append_right _ hq)) hfield)

/-- What is written begins as a value does. -/
theorem begins_jsonDumps {floats : FloatText} {value : Json} (h : value.FloatsRead floats)
    {text : List Char} (hdump : jsonDumps floats value = .ok text) : Begins text := by
  cases value with
  | null =>
    cases hdump
    exact ⟨_, _, rfl, rfl, by decide⟩
  | bool b =>
    cases b with
    | true =>
      cases hdump
      exact ⟨_, _, rfl, rfl, by decide⟩
    | false =>
      cases hdump
      exact ⟨_, _, rfl, rfl, by decide⟩
  | int n => exact (beginsNumber_dumpInt hdump).begins
  | float q =>
    cases hdump
    exact (beginsNumber_repr (h q (List.mem_singleton.mpr rfl))).begins
  | str s =>
    cases hdump
    exact ⟨_, _, rfl, rfl, by decide⟩
  | arr items =>
    cases items with
    | nil =>
      cases hdump
      exact ⟨_, _, rfl, rfl, by decide⟩
    | cons item rest =>
      rw [jsonDumps] at hdump
      obtain ⟨first, -, hdump⟩ := bind_eq_ok.mp hdump
      obtain ⟨others, -, hdump⟩ := bind_eq_ok.mp hdump
      cases hdump
      exact ⟨_, _, rfl, rfl, by decide⟩
  | obj fields =>
    cases fields with
    | nil =>
      cases hdump
      exact ⟨_, _, rfl, rfl, by decide⟩
    | cons field rest =>
      obtain ⟨key, value⟩ := field
      rw [jsonDumps] at hdump
      obtain ⟨first, -, hdump⟩ := bind_eq_ok.mp hdump
      obtain ⟨others, -, hdump⟩ := bind_eq_ok.mp hdump
      cases hdump
      exact ⟨_, _, rfl, rfl, by decide⟩

section Reading

variable {floats : FloatText}

/-- `value` is read back from its text, whatever ends it. -/
structure ReadBack (floats : FloatText) (value : Json) : Prop where
  begins : ∀ text, jsonDumps floats value = .ok text → Begins text
  read : ∀ text, jsonDumps floats value = .ok text → ∀ rest fuel, Ends rest →
    text.length ≤ fuel → scanOnce floats fuel (text ++ rest) = some (value.toPy, rest)

/-- The first of the further items is written behind a comma. -/
theorem dumpItems_cons {item : Json} {items : List Json} {text : List Char}
    (h : dumpItems floats (item :: items) = .ok text) :
    ∃ first others, jsonDumps floats item = .ok first ∧ dumpItems floats items = .ok others ∧
      text = ',' :: (first ++ others) := by
  rw [dumpItems] at h
  obtain ⟨first, hfirst, h⟩ := bind_eq_ok.mp h
  obtain ⟨others, hothers, h⟩ := bind_eq_ok.mp h
  cases h
  exact ⟨first, others, hfirst, hothers, rfl⟩

/-- The first of the further members is written behind a comma. -/
theorem dumpFields_cons {key : String} {value : Json} {fields : JsonObject} {text : List Char}
    (h : dumpFields floats ((key, value) :: fields) = .ok text) :
    ∃ first others, jsonDumps floats value = .ok first ∧ dumpFields floats fields = .ok others ∧
      text = ',' :: (dumpString key ++ ':' :: (first ++ others)) := by
  rw [dumpFields] at h
  obtain ⟨first, hfirst, h⟩ := bind_eq_ok.mp h
  obtain ⟨others, hothers, h⟩ := bind_eq_ok.mp h
  cases h
  exact ⟨first, others, hfirst, hothers, rfl⟩

/-- An item ends before a comma or the bracket. -/
theorem ends_dumpItems {items : List Json} {text : List Char}
    (h : dumpItems floats items = .ok text) (rest : List Char) : Ends (text ++ ']' :: rest) := by
  intro c hc
  cases items with
  | nil =>
    cases h
    exact .inr (.inl (Option.some.inj hc).symm)
  | cons item items =>
    obtain ⟨first, others, -, -, rfl⟩ := dumpItems_cons h
    exact .inl (Option.some.inj hc).symm

/-- A member ends before a comma or the brace. -/
theorem ends_dumpFields {fields : JsonObject} {text : List Char}
    (h : dumpFields floats fields = .ok text) (rest : List Char) :
    Ends (text ++ '\x7d' :: rest) := by
  intro c hc
  cases fields with
  | nil =>
    cases h
    exact .inr (.inr (Option.some.inj hc).symm)
  | cons field fields =>
    obtain ⟨key, value⟩ := field
    obtain ⟨first, others, -, -, rfl⟩ := dumpFields_cons h
    exact .inl (Option.some.inj hc).symm

/-- The bracket ends the list. -/
theorem scanItems_close {fuel : Nat} {cs rest : List Char} {item : PyJson} (before : List PyJson)
    (hitem : scanOnce floats fuel cs = some (item, ']' :: rest)) :
    scanItems floats (fuel + 1) before cs = some (.arr (before ++ [item]), rest) := by
  rw [scanItems, hitem]
  rfl

/-- A comma is followed by another item. -/
theorem scanItems_comma {fuel : Nat} {cs rest : List Char} {item : PyJson} (before : List PyJson)
    (hitem : scanOnce floats fuel cs = some (item, ',' :: rest)) :
    scanItems floats (fuel + 1) before cs =
      scanItems floats fuel (before ++ [item]) (skipSpace rest) := by
  rw [scanItems, hitem]
  rfl

/-- The items of an array from one of them on. -/
theorem scanItems_dumpItems {item : Json} {items : List Json}
    (hread : ∀ value ∈ item :: items, ReadBack floats value) {first others : List Char}
    (hfirst : jsonDumps floats item = .ok first) (hothers : dumpItems floats items = .ok others)
    (before : List PyJson) (rest : List Char) {fuel : Nat}
    (hfuel : first.length + others.length ≤ fuel) :
    scanItems floats (fuel + 1) before (first ++ (others ++ ']' :: rest)) =
      some (.arr (before ++ (item :: items).map Json.toPy), rest) := by
  induction items generalizing item first others before fuel with
  | nil =>
    have hitem := (hread item List.mem_cons_self).read first hfirst _ fuel
      (ends_dumpItems hothers rest) (by omega)
    cases hothers
    exact scanItems_close before hitem
  | cons next items ih =>
    have hitem := (hread item List.mem_cons_self).read first hfirst _ fuel
      (ends_dumpItems hothers rest) (by omega)
    obtain ⟨nextText, more, hnext, hmore, rfl⟩ := dumpItems_cons hothers
    have hlength := ((hread item List.mem_cons_self).begins first hfirst).length_pos
    simp only [List.length_cons, List.length_append] at hfuel
    obtain ⟨fuel, rfl⟩ : ∃ n, fuel = n + 1 := ⟨fuel - 1, by omega⟩
    have hread' : ∀ value ∈ next :: items, ReadBack floats value :=
      fun value hvalue => hread value (List.mem_cons_of_mem item hvalue)
    have hrest := ih hread' hnext hmore (before ++ [item.toPy])
      (show nextText.length + more.length ≤ fuel by omega)
    have hbegins := ((hread' next List.mem_cons_self).begins nextText hnext).append
      (more ++ ']' :: rest)
    rw [List.cons_append, List.append_assoc] at hitem ⊢
    rw [scanItems_comma before hitem, hbegins.skipSpace, hrest, List.append_assoc,
      List.singleton_append]
    rfl

/-- `JSONObject` up to a member's value. -/
theorem scanFields_dumpString (fuel : Nat) (before : PyObject) (key : String) (cs : List Char) :
    scanFields floats (fuel + 1) before (dumpString key ++ ':' :: cs) =
      match scanOnce floats fuel (skipSpace cs) with
      | none => none
      | some (value, rest) =>
        match skipSpace rest with
        | '\x7d' :: rest => some (.obj (setMember before (.ofString key) value), rest)
        | ',' :: rest =>
          scanFields floats fuel (setMember before (.ofString key) value) (skipSpace rest)
        | _ => none := by
  have hkey : scanString (key.toList.flatMap escapeChar ++ (['"'] ++ ':' :: cs)) =
      some (.ofString key, ':' :: cs) := scanString_escaped key.toList (':' :: cs)
  rw [dumpString, List.cons_append, List.append_assoc, scanFields, hkey]
  rfl

/-- The brace ends the object. -/
theorem scanFields_close {fuel : Nat} {cs rest : List Char} {value : PyJson} (before : PyObject)
    (key : String) (hvalue : scanOnce floats fuel (skipSpace cs) = some (value, '\x7d' :: rest)) :
    scanFields floats (fuel + 1) before (dumpString key ++ ':' :: cs) =
      some (.obj (setMember before (.ofString key) value), rest) := by
  rw [scanFields_dumpString, hvalue]
  rfl

/-- A comma is followed by another member. -/
theorem scanFields_comma {fuel : Nat} {cs rest : List Char} {value : PyJson} (before : PyObject)
    (key : String) (hvalue : scanOnce floats fuel (skipSpace cs) = some (value, ',' :: rest)) :
    scanFields floats (fuel + 1) before (dumpString key ++ ':' :: cs) =
      scanFields floats fuel (setMember before (.ofString key) value) (skipSpace rest) := by
  rw [scanFields_dumpString, hvalue]
  rfl

theorem skipSpace_dumpString (key : String) (cs : List Char) :
    skipSpace (dumpString key ++ cs) = dumpString key ++ cs := rfl

/-- A member with a new key goes to the end. -/
theorem setMember_of_nodup {before fields : PyObject} {key : PyStr} {value : PyJson}
    (h : ((before ++ (key, value) :: fields).map Prod.fst).Nodup) :
    setMember before key value = before ++ [(key, value)] := by
  refine if_neg ?_
  rw [List.map_append, List.nodup_append] at h
  exact fun hmem => h.2.2 key hmem key List.mem_cons_self rfl

/-- A member as it is read. -/
abbrev memberToPy (field : String × Json) : PyStr × PyJson := (.ofString field.1, field.2.toPy)

/-- The members of an object from one of them on. -/
theorem scanFields_dumpFields (before : PyObject) {key : String} {value : Json}
    {fields : JsonObject} (hread : ∀ field ∈ (key, value) :: fields, ReadBack floats field.2)
    (hnodup : ((before ++ ((key, value) :: fields).map memberToPy).map Prod.fst).Nodup)
    {first others : List Char} (hfirst : jsonDumps floats value = .ok first)
    (hothers : dumpFields floats fields = .ok others) (rest : List Char) {fuel : Nat}
    (hfuel : first.length + others.length ≤ fuel) :
    scanFields floats (fuel + 1) before
        (dumpString key ++ ':' :: (first ++ (others ++ '\x7d' :: rest))) =
      some (.obj (before ++ ((key, value) :: fields).map memberToPy), rest) := by
  have hset := setMember_of_nodup hnodup
  have hbegins := (hread (key, value) List.mem_cons_self).begins first hfirst
  have hvalue := (hread (key, value) List.mem_cons_self).read first hfirst _ fuel
    (ends_dumpFields hothers rest) (by omega)
  rw [← (hbegins.append _).skipSpace] at hvalue
  induction fields generalizing key value first others before fuel with
  | nil =>
    cases hothers
    rw [List.map_singleton, ← hset]
    exact scanFields_close before key hvalue
  | cons next fields ih =>
    obtain ⟨nextKey, nextValue⟩ := next
    obtain ⟨nextText, more, hnext, hmore, rfl⟩ := dumpFields_cons hothers
    have hlength := hbegins.length_pos
    simp only [List.length_cons, List.length_append] at hfuel
    obtain ⟨fuel, rfl⟩ : ∃ n, fuel = n + 1 := ⟨fuel - 1, by omega⟩
    rw [List.map_cons, List.append_cons] at hnodup
    have hread' := fun field hfield => hread field (List.mem_cons_of_mem (key, value) hfield)
    have hnextFuel : nextText.length + more.length ≤ fuel := by omega
    have hnextBegins := (hread' (nextKey, nextValue) List.mem_cons_self).begins nextText hnext
    have hnextValue := (hread' (nextKey, nextValue) List.mem_cons_self).read nextText hnext _ fuel
      (ends_dumpFields hmore rest) (by omega)
    rw [← (hnextBegins.append _).skipSpace] at hnextValue
    have hrest := ih (before ++ [memberToPy (key, value)]) hread' hnodup hnext hmore hnextFuel
      (setMember_of_nodup hnodup) hnextBegins hnextValue
    simp only [List.cons_append, List.append_assoc] at hvalue ⊢
    rw [scanFields_comma before key hvalue, hset, skipSpace_dumpString, hrest, List.append_assoc,
      List.singleton_append]
    rfl

/-! ## Documents -/

/-- A text is not empty, so reading it takes some fuel. -/
theorem ReadBack.of_succ {value : Json} (h : value.FloatsRead floats)
    (hread : ∀ text, jsonDumps floats value = .ok text → ∀ rest fuel, Ends rest →
      text.length ≤ fuel + 1 →
        scanOnce floats (fuel + 1) (text ++ rest) = some (value.toPy, rest)) :
    ReadBack floats value where
  begins text hdump := begins_jsonDumps h hdump
  read text hdump rest fuel hrest hfuel := by
    have hlength := (begins_jsonDumps h hdump).length_pos
    obtain ⟨fuel, rfl⟩ : ∃ n, fuel = n + 1 := ⟨fuel - 1, by omega⟩
    exact hread text hdump rest fuel hrest hfuel

/-- A string is read back. -/
theorem readBack_str (s : String) : ReadBack floats (.str s) := by
  refine .of_succ (fun q hq => (by cases hq)) fun text hdump rest fuel _ _ => ?_
  cases hdump
  have hscan : scanString (s.toList.flatMap escapeChar ++ (['"'] ++ rest)) =
      some (.ofString s, rest) := scanString_escaped s.toList rest
  rw [dumpString, List.cons_append, List.append_assoc, scanOnce, if_pos rfl, hscan, Option.map_some,
    Json.toPy]

/-- A list is read back when its items are. -/
theorem readBack_arr {items : List Json} (h : (Json.arr items).FloatsRead floats)
    (hread : ∀ item ∈ items, ReadBack floats item) : ReadBack floats (.arr items) := by
  refine .of_succ h fun text hdump rest fuel _ hfuel => ?_
  rw [Json.toPy_arr]
  cases items with
  | nil =>
    cases hdump
    rfl
  | cons item items =>
    rw [jsonDumps] at hdump
    obtain ⟨first, hfirst, hdump⟩ := bind_eq_ok.mp hdump
    obtain ⟨others, hothers, hdump⟩ := bind_eq_ok.mp hdump
    cases hdump
    simp only [List.length_cons, List.length_append, List.length_nil] at hfuel
    obtain ⟨fuel, rfl⟩ : ∃ n, fuel = n + 1 := ⟨fuel - 1, by omega⟩
    have hitems := scanItems_dumpItems hread hfirst hothers [] rest
      (show first.length + others.length ≤ fuel by omega)
    obtain ⟨c, tail, rfl, hspace, hclose⟩ := (hread item List.mem_cons_self).begins first hfirst
    have hskip : ∀ cs, skipSpace (c :: cs) = c :: cs :=
      fun _ => List.dropWhile_cons_of_neg (by simp [hspace])
    simp only [List.cons_append, List.append_assoc, List.nil_append] at hitems ⊢
    rw [scanOnce, if_neg (by decide), if_neg (by decide), if_pos rfl, hskip]
    split
    · rename_i heq
      exact absurd (List.cons.inj heq).1 hclose
    · exact hitems

/-- An object is read back when its members are and its keys are distinct. -/
theorem readBack_obj {fields : JsonObject} (h : (Json.obj fields).FloatsRead floats)
    (hnodup : (fields.map Prod.fst).Nodup) (hread : ∀ field ∈ fields, ReadBack floats field.2) :
    ReadBack floats (.obj fields) := by
  refine .of_succ h fun text hdump rest fuel _ hfuel => ?_
  rw [Json.toPy_obj]
  have hkeys : ((fields.map memberToPy).map Prod.fst).Nodup := by
    have hmap : (fields.map memberToPy).map Prod.fst =
        (fields.map Prod.fst).map PyStr.ofString := by simp
    rw [hmap]
    exact hnodup.map PyStr.ofString_injective
  cases fields with
  | nil =>
    cases hdump
    rfl
  | cons field fields =>
    obtain ⟨key, value⟩ := field
    rw [jsonDumps] at hdump
    obtain ⟨first, hfirst, hdump⟩ := bind_eq_ok.mp hdump
    obtain ⟨others, hothers, hdump⟩ := bind_eq_ok.mp hdump
    cases hdump
    simp only [List.length_cons, List.length_append, List.length_nil] at hfuel
    obtain ⟨fuel, rfl⟩ : ∃ n, fuel = n + 1 := ⟨fuel - 1, by omega⟩
    have hfields := scanFields_dumpFields [] hread hkeys hfirst hothers rest
      (show first.length + others.length ≤ fuel by omega)
    simp only [List.cons_append, List.append_assoc, List.nil_append] at hfields ⊢
    rw [scanOnce, if_neg (by decide), if_pos rfl, skipSpace_dumpString]
    exact hfields

/-- A value that was written is read back, whatever ends it. -/
theorem readBack {value : Json} (hdecoded : value.Decoded) (h : value.FloatsRead floats) :
    ReadBack floats value := by
  induction hdecoded with
  | null =>
    refine .of_succ h fun text hdump rest fuel _ _ => ?_
    cases hdump
    rfl
  | bool b =>
    refine .of_succ h fun text hdump rest fuel _ _ => ?_
    cases b with
    | true =>
      cases hdump
      rfl
    | false =>
      cases hdump
      rfl
  | int n =>
    refine .of_succ h fun text hdump rest fuel hrest _ => ?_
    rw [scanOnce_number floats fuel ((beginsNumber_dumpInt hdump).append rest)]
    exact scanNumber_dumpInt floats hdump hrest
  | float q =>
    have hq : floats.Reads q := h q (List.mem_singleton.mpr rfl)
    refine .of_succ h fun text hdump rest fuel hrest _ => ?_
    cases hdump
    rw [scanOnce_number floats fuel ((beginsNumber_repr hq).append rest)]
    exact scanNumber_float hq hrest
  | str s => exact readBack_str s
  | arr _ ih => exact readBack_arr h fun item hitem => ih item hitem (h.item hitem)
  | obj hnodup _ ih => exact readBack_obj h hnodup fun field hfield => ih field hfield (h.member hfield)

/-- The round trip of a document. -/
theorem jsonLoads_jsonDumps {value : Json} (hdecoded : value.Decoded) (h : value.FloatsRead floats)
    {text : List Char} (hdump : jsonDumps floats value = .ok text) :
    jsonLoads floats (String.ofList text) = some value.toPy := by
  have hread := (readBack hdecoded h).read text hdump [] (text.length + 1) ends_nil
    (Nat.le_succ _)
  have hskip := (begins_jsonDumps h hdump).skipSpace
  rw [List.append_nil] at hread
  rw [jsonLoads, String.toList_ofList, hskip, hread]
  rfl

end Reading

/-- The bytes of a text decode to it. -/
theorem fromUTF8?_toUTF8 (text : String) : String.fromUTF8? text.toUTF8 = some text := by
  have hvalid : text.toUTF8.IsValidUTF8 := text.isValidUTF8
  unfold String.fromUTF8?
  rw [dif_pos hvalid]
  rfl

end Conformance
