import Mathlib.Data.List.Basic

/-!
# UTF-8 with replacement

The decoder that puts `U+FFFD` for every maximal part of the bytes that begins no
character.

## Key results

- `decodeReplace_encode`: the encoding of a text decodes to it
-/

namespace Utf8

/-- A byte `10xxxxxx`. -/
def isContinuation (byte : UInt8) : Bool := 0x80 ≤ byte && byte ≤ 0xbf

/-- Whether a character of more than two bytes can begin with these two. -/
def isLongStart (first second : UInt8) : Bool :=
  isContinuation second &&
    if first = 0xe0 then 0xa0 ≤ second
    else if first = 0xed then second ≤ 0x9f
    else if first = 0xf0 then 0x90 ≤ second
    else if first = 0xf4 then second ≤ 0x8f
    else 0xe0 ≤ first && first ≤ 0xf4

/-- The number of bytes that one `U+FFFD` stands for, where no character begins. -/
def invalidLength : List UInt8 → Nat
  | first :: second :: rest =>
    if isLongStart first second = false then 1
    else if rest.head?.any isContinuation = true then 3
    else 2
  | _ => 1

/-- The decoder, with the number of bytes that belong to the last character. -/
def decodeFrom : Nat → List UInt8 → List Char
  | _, [] => []
  | skip + 1, _ :: rest => decodeFrom skip rest
  | 0, first :: rest =>
    match ByteArray.utf8DecodeChar? (first :: rest).toByteArray 0 with
    | some c => c :: decodeFrom (c.utf8Size - 1) rest
    | none => Char.ofNat 0xfffd :: decodeFrom (invalidLength (first :: rest) - 1) rest

/-- `bytes.decode("utf-8", "replace")`. -/
def decodeReplace (bytes : List UInt8) : List Char := decodeFrom 0 bytes

/-- What is skipped is not read. -/
theorem decodeFrom_length (skipped rest : List UInt8) :
    decodeFrom skipped.length (skipped ++ rest) = decodeFrom 0 rest := by
  induction skipped with
  | nil => rfl
  | cons byte skipped ih => exact ih

/-- A character in front of other bytes is decoded first. -/
theorem decodeReplace_encodeChar (c : Char) (rest : List UInt8) :
    decodeReplace (String.utf8EncodeChar c ++ rest) = c :: decodeReplace rest := by
  have hlength := String.length_utf8EncodeChar c
  have hdecode : ByteArray.utf8DecodeChar? (String.utf8EncodeChar c ++ rest).toByteArray 0 =
      some c := by
    rw [List.toByteArray_append]
    exact ByteArray.utf8DecodeChar?_utf8EncodeChar_append
  cases hbytes : String.utf8EncodeChar c with
  | nil =>
    have := c.utf8Size_pos
    simp [hbytes] at hlength
    omega
  | cons first others =>
    rw [hbytes, List.cons_append] at hdecode
    have hothers : c.utf8Size - 1 = others.length := by
      rw [← hlength, hbytes, List.length_cons, Nat.add_sub_cancel]
    rw [decodeReplace, List.cons_append, decodeFrom]
    simp only [hdecode, hothers, decodeFrom_length]
    rfl

/-- The encoding of a text decodes to it. -/
theorem decodeReplace_encode (cs : List Char) :
    decodeReplace (cs.flatMap String.utf8EncodeChar) = cs := by
  induction cs with
  | nil => rfl
  | cons c rest ih => rw [List.flatMap_cons, decodeReplace_encodeChar, ih]

end Utf8
