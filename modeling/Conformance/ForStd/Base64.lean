import Mathlib.Data.List.Basic

/-!
# Base64

The URL-safe encoding without padding, and a decoder that takes both alphabets, skips
every other character and stops at the padding.

## Key results

- `decode_encode`: a padded encoding decodes to its bytes
- `isVisible_encode`: an encoding is visible ASCII without a dot
-/

namespace Base64

/-- The value of a character of one of the two alphabets. -/
def value? (c : Char) : Option Nat :=
  if 'A' ≤ c ∧ c ≤ 'Z' then some (c.toNat - 65)
  else if 'a' ≤ c ∧ c ≤ 'z' then some (c.toNat - 71)
  else if '0' ≤ c ∧ c ≤ '9' then some (c.toNat + 4)
  else if c = '+' ∨ c = '-' then some 62
  else if c = '/' ∨ c = '_' then some 63
  else none

/-- The character of six bits in the URL-safe alphabet. -/
def urlChar (n : Nat) : Char :=
  if n < 26 then Char.ofNat (65 + n)
  else if n < 52 then Char.ofNat (71 + n)
  else if n < 62 then Char.ofNat (n - 4)
  else if n = 62 then '-'
  else '_'

/-- The encoding without padding. -/
def encode : List UInt8 → List Char
  | [] => []
  | [a] => [urlChar (a.toNat / 4), urlChar (a.toNat % 4 * 16)]
  | [a, b] =>
    [urlChar (a.toNat / 4), urlChar (a.toNat % 4 * 16 + b.toNat / 16),
      urlChar (b.toNat % 16 * 4)]
  | a :: b :: c :: rest =>
    urlChar (a.toNat / 4) :: urlChar (a.toNat % 4 * 16 + b.toNat / 16) ::
      urlChar (b.toNat % 16 * 4 + c.toNat / 64) :: urlChar (c.toNat % 64) :: encode rest

/-- The padding to a multiple of four characters. -/
def padding (cs : List Char) : List Char := List.replicate ((4 - cs.length % 4) % 4) '='

/-- The decoder, with the number of characters since the last full group, the bits that
    are left of them and the padding seen. -/
def decodeFrom (quad left pads : Nat) : List Char → Option (List UInt8)
  | [] => if quad = 0 then some [] else none
  | c :: rest =>
    if c = '=' then
      if 2 ≤ quad ∧ 4 ≤ quad + (pads + 1) then some []
      else decodeFrom quad left (if 2 ≤ quad then pads + 1 else pads) rest
    else
      match value? c with
      | none => decodeFrom quad left pads rest
      | some v =>
        match quad with
        | 0 => decodeFrom 1 v 0 rest
        | 1 => (decodeFrom 2 (v % 16) 0 rest).map (UInt8.ofNat (left * 4 + v / 16) :: ·)
        | 2 => (decodeFrom 3 (v % 4) 0 rest).map (UInt8.ofNat (left * 16 + v / 4) :: ·)
        | _ => (decodeFrom 0 0 0 rest).map (UInt8.ofNat (left * 64 + v) :: ·)

/-- The bytes of a padded text. -/
def decode (cs : List Char) : Option (List UInt8) := decodeFrom 0 0 0 cs

/-! ## Round trip -/

theorem value?_urlChar : ∀ n, n < 64 → value? (urlChar n) = some n := by
  decide +kernel

theorem urlChar_ne_pad : ∀ n, n < 64 → urlChar n ≠ '=' := by
  decide +kernel

/-- A visible ASCII character other than the dot. -/
def IsVisible (c : Char) : Prop := 0x20 < c.toNat ∧ c.toNat < 0x7f ∧ c ≠ '.'

instance (c : Char) : Decidable (IsVisible c) := inferInstanceAs (Decidable (_ ∧ _ ∧ _))

theorem isVisible_urlChar : ∀ n, n < 64 → IsVisible (urlChar n) := by
  decide +kernel

section Steps

variable {v : Nat} (hv : v < 64) (left pads : Nat) (rest : List Char)
include hv

theorem decodeFrom_zero : decodeFrom 0 left pads (urlChar v :: rest) = decodeFrom 1 v 0 rest := by
  rw [decodeFrom, if_neg (urlChar_ne_pad v hv), value?_urlChar v hv]
  rfl

/-- The second completes the first byte. -/
theorem decodeFrom_one : decodeFrom 1 left pads (urlChar v :: rest) =
    (decodeFrom 2 (v % 16) 0 rest).map (UInt8.ofNat (left * 4 + v / 16) :: ·) := by
  rw [decodeFrom, if_neg (urlChar_ne_pad v hv), value?_urlChar v hv]
  rfl

/-- The third completes the second byte. -/
theorem decodeFrom_two : decodeFrom 2 left pads (urlChar v :: rest) =
    (decodeFrom 3 (v % 4) 0 rest).map (UInt8.ofNat (left * 16 + v / 4) :: ·) := by
  rw [decodeFrom, if_neg (urlChar_ne_pad v hv), value?_urlChar v hv]
  rfl

/-- The fourth completes the third byte, and the quantum. -/
theorem decodeFrom_three : decodeFrom 3 left pads (urlChar v :: rest) =
    (decodeFrom 0 0 0 rest).map (UInt8.ofNat (left * 64 + v) :: ·) := by
  rw [decodeFrom, if_neg (urlChar_ne_pad v hv), value?_urlChar v hv]
  rfl

end Steps

theorem ofNat_eq {a : UInt8} {n : Nat} (h : n = a.toNat) : UInt8.ofNat n = a := by
  rw [h, UInt8.ofNat_toNat]

/-- A padded encoding decodes to its bytes. -/
theorem decode_encode (bytes : List UInt8) :
    decode (encode bytes ++ padding (encode bytes)) = some bytes := by
  unfold decode
  induction bytes using encode.induct with
  | case1 => rfl
  | case2 a =>
    have ha := a.toNat_lt
    rw [show padding (encode [a]) = ['=', '='] from rfl, encode, List.cons_append, List.cons_append,
      decodeFrom_zero (by omega), decodeFrom_one (by omega), ofNat_eq (a := a) (by omega)]
    rfl
  | case3 a b =>
    have ha := a.toNat_lt
    have hb := b.toNat_lt
    rw [show padding (encode [a, b]) = ['='] from rfl, encode, List.cons_append, List.cons_append,
      List.cons_append, decodeFrom_zero (by omega), decodeFrom_one (by omega),
      decodeFrom_two (by omega), ofNat_eq (a := a) (by omega), ofNat_eq (a := b) (by omega)]
    rfl
  | case4 a b c rest ih =>
    have ha := a.toNat_lt
    have hb := b.toNat_lt
    have hc := c.toNat_lt
    -- a whole group needs no padding of its own
    have hpadding : padding (encode (a :: b :: c :: rest)) = padding (encode rest) := by
      simp only [padding, encode, List.length_cons]
      congr 2
      omega
    rw [hpadding, encode]
    simp only [List.cons_append]
    rw [decodeFrom_zero (by omega), decodeFrom_one (by omega), decodeFrom_two (by omega),
      decodeFrom_three (by omega), ih, ofNat_eq (a := a) (by omega), ofNat_eq (a := b) (by omega),
      ofNat_eq (a := c) (by omega)]
    rfl

/-- An encoded text is visible ASCII. -/
theorem isVisible_encode (bytes : List UInt8) : ∀ c ∈ encode bytes, IsVisible c := by
  induction bytes using encode.induct with
  | case1 => simp [encode]
  | case2 a =>
    have ha := a.toNat_lt
    simp only [encode, List.forall_mem_cons, List.not_mem_nil, false_implies, implies_true, and_true]
    exact ⟨isVisible_urlChar _ (by omega), isVisible_urlChar _ (by omega)⟩
  | case3 a b =>
    have ha := a.toNat_lt
    have hb := b.toNat_lt
    simp only [encode, List.forall_mem_cons, List.not_mem_nil, false_implies, implies_true, and_true]
    exact ⟨isVisible_urlChar _ (by omega), isVisible_urlChar _ (by omega), isVisible_urlChar _ (by omega)⟩
  | case4 a b c rest ih =>
    have ha := a.toNat_lt
    have hb := b.toNat_lt
    have hc := c.toNat_lt
    simp only [encode, List.forall_mem_cons]
    exact ⟨isVisible_urlChar _ (by omega), isVisible_urlChar _ (by omega), isVisible_urlChar _ (by omega),
      isVisible_urlChar _ (by omega), ih⟩

end Base64
