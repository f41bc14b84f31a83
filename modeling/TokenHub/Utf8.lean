import Mathlib.Data.List.Basic

/-!
# UTF-8, as the vault encodes and decodes its values

`SecureVault._encrypt` pads a value by its length in characters and then encrypts its UTF-8 bytes; `_decrypt` unpads the
bytes and decodes them. So the vault's behaviour depends on the UTF-8 length of a value, and its round trip on decoding
inverting encoding. Both are here, concrete: `utf8Char` is the encoding of one character (with arithmetic where the usual
statement has shifts and masks), `utf8Decode` is a strict decoder that accepts a list of bytes exactly when it is the
encoding of a list of characters, and `utf8Decode_utf8Encode` is the round trip.
-/

namespace TokenHub

/-- The UTF-8 bytes of one character. -/
def utf8Char (c : Char) : List UInt8 :=
  let v := c.toNat
  if v < 0x80 then [UInt8.ofNat v]
  else if v < 0x800 then [UInt8.ofNat (0xC0 + v / 64), UInt8.ofNat (0x80 + v % 64)]
  else if v < 0x10000 then
    [UInt8.ofNat (0xE0 + v / 4096), UInt8.ofNat (0x80 + v / 64 % 64), UInt8.ofNat (0x80 + v % 64)]
  else
    [UInt8.ofNat (0xF0 + v / 262144), UInt8.ofNat (0x80 + v / 4096 % 64), UInt8.ofNat (0x80 + v / 64 % 64),
      UInt8.ofNat (0x80 + v % 64)]

/-- `s.encode()`: the UTF-8 bytes of a text, character after character. -/
def utf8Encode (s : String) : List UInt8 := s.data.flatMap utf8Char

/-- The character of scalar value `v`, if `bs` are its UTF-8 bytes. -/
def decodeAs (bs : List UInt8) (v : Nat) : Option Char :=
  if utf8Char (Char.ofNat v) = bs then some (Char.ofNat v) else none

/-- One character off the front of strict UTF-8 bytes, and the bytes after it: the lead byte gives the length, the bytes
give the value, and they must be that value's encoding (which rules out overlong forms, surrogates and values past the
last character). -/
def decodeOne : List UInt8 → Option (Char × List UInt8)
  | [] => none
  | b0 :: bs =>
    if b0.toNat < 0x80 then some (Char.ofNat b0.toNat, bs)
    else if b0.toNat < 0xE0 then
      match bs with
      | b1 :: bs => (decodeAs [b0, b1] ((b0.toNat - 0xC0) * 64 + (b1.toNat - 0x80))).map (·, bs)
      | [] => none
    else if b0.toNat < 0xF0 then
      match bs with
      | b1 :: b2 :: bs =>
        (decodeAs [b0, b1, b2] ((b0.toNat - 0xE0) * 4096 + (b1.toNat - 0x80) * 64 + (b2.toNat - 0x80))).map (·, bs)
      | _ => none
    else
      match bs with
      | b1 :: b2 :: b3 :: bs =>
        (decodeAs [b0, b1, b2, b3]
          ((b0.toNat - 0xF0) * 262144 + (b1.toNat - 0x80) * 4096 + (b2.toNat - 0x80) * 64 + (b3.toNat - 0x80))).map
          (·, bs)
      | _ => none

/-- Characters off the front until the bytes run out; each takes at least one byte, so as many rounds as bytes suffice. -/
def decodeChars : Nat → List UInt8 → Option (List Char)
  | _, [] => some []
  | 0, _ :: _ => none
  | n + 1, b :: bs => do
    let (c, rest) ← decodeOne (b :: bs)
    (c :: ·) <$> decodeChars n rest

/-- `b.decode()`: strict UTF-8 decoding of bytes into a text; none where Python raises. -/
def utf8Decode (bs : List UInt8) : Option String := String.mk <$> decodeChars bs.length bs

namespace Utf8Aux

theorem toNat_ofNat {n : Nat} (h : n < 256) : (UInt8.ofNat n).toNat = n := UInt8.toNat_ofNat_of_lt h

theorem toNat_lt (c : Char) : c.toNat < 0x110000 := by
  rcases c.valid with h | h
  · have : c.val.toNat < 0xd800 := h
    exact Nat.lt_trans this (by decide)
  · exact h.2

theorem decodeAs_char (c : Char) : decodeAs (utf8Char c) c.toNat = some c := by
  rw [decodeAs, Char.ofNat_toNat, if_pos rfl]

theorem decodeOne_one {b0 : UInt8} (bs : List UInt8) (h : b0.toNat < 0x80) :
    decodeOne (b0 :: bs) = some (Char.ofNat b0.toNat, bs) := by
  rw [decodeOne.eq_def]
  exact if_pos h

theorem decodeOne_two {b0 b1 : UInt8} (bs : List UInt8) (h : ¬ b0.toNat < 0x80) (h' : b0.toNat < 0xE0) :
    decodeOne (b0 :: b1 :: bs) = (decodeAs [b0, b1] ((b0.toNat - 0xC0) * 64 + (b1.toNat - 0x80))).map (·, bs) := by
  rw [decodeOne, if_neg h, if_pos h']

theorem decodeOne_three {b0 b1 b2 : UInt8} (bs : List UInt8) (h : ¬ b0.toNat < 0xE0) (h' : b0.toNat < 0xF0) :
    decodeOne (b0 :: b1 :: b2 :: bs) = (decodeAs [b0, b1, b2]
      ((b0.toNat - 0xE0) * 4096 + (b1.toNat - 0x80) * 64 + (b2.toNat - 0x80))).map (·, bs) := by
  rw [decodeOne, if_neg (by omega), if_neg h, if_pos h']

theorem decodeOne_four {b0 b1 b2 b3 : UInt8} (bs : List UInt8) (h : ¬ b0.toNat < 0xF0) :
    decodeOne (b0 :: b1 :: b2 :: b3 :: bs) = (decodeAs [b0, b1, b2, b3]
      ((b0.toNat - 0xF0) * 262144 + (b1.toNat - 0x80) * 4096 + (b2.toNat - 0x80) * 64 + (b3.toNat - 0x80))).map
      (·, bs) := by
  rw [decodeOne, if_neg (by omega), if_neg (by omega), if_neg h]

/-- The bytes of one character, then more bytes: one round of decoding takes off the character. -/
theorem decodeOne_append (c : Char) (bs : List UInt8) : decodeOne (utf8Char c ++ bs) = some (c, bs) := by
  have hc := toNat_lt c
  have hd := decodeAs_char c
  unfold utf8Char at hd ⊢
  by_cases h1 : c.toNat < 0x80
  · simp only [h1, if_true, List.singleton_append]
    rw [decodeOne_one _ (by rw [toNat_ofNat (by omega)]; exact h1), toNat_ofNat (by omega), Char.ofNat_toNat]
  by_cases h2 : c.toNat < 0x800
  · simp only [h1, h2, if_true, if_false, List.cons_append, List.nil_append] at hd ⊢
    rw [decodeOne_two _ (by rw [toNat_ofNat (by omega)]; omega) (by rw [toNat_ofNat (by omega)]; omega),
      toNat_ofNat (by omega), toNat_ofNat (by omega),
      show (0xC0 + c.toNat / 64 - 0xC0) * 64 + (0x80 + c.toNat % 64 - 0x80) = c.toNat by omega, hd]
    rfl
  by_cases h3 : c.toNat < 0x10000
  · simp only [h1, h2, h3, if_true, if_false, List.cons_append, List.nil_append] at hd ⊢
    rw [decodeOne_three _ (by rw [toNat_ofNat (by omega)]; omega) (by rw [toNat_ofNat (by omega)]; omega),
      toNat_ofNat (by omega), toNat_ofNat (by omega), toNat_ofNat (by omega),
      show (0xE0 + c.toNat / 4096 - 0xE0) * 4096 + (0x80 + c.toNat / 64 % 64 - 0x80) * 64 +
        (0x80 + c.toNat % 64 - 0x80) = c.toNat by omega, hd]
    rfl
  · simp only [h1, h2, h3, if_false, List.cons_append, List.nil_append] at hd ⊢
    rw [decodeOne_four _ (by rw [toNat_ofNat (by omega)]; omega),
      toNat_ofNat (by omega), toNat_ofNat (by omega), toNat_ofNat (by omega), toNat_ofNat (by omega),
      show (0xF0 + c.toNat / 262144 - 0xF0) * 262144 + (0x80 + c.toNat / 4096 % 64 - 0x80) * 4096 +
        (0x80 + c.toNat / 64 % 64 - 0x80) * 64 + (0x80 + c.toNat % 64 - 0x80) = c.toNat by omega, hd]
    rfl

/-- Every character has at least one byte. -/
theorem utf8Char_ne_nil (c : Char) : utf8Char c ≠ [] := by
  simp only [utf8Char]
  split_ifs <;> simp

/-- Decoding the bytes of `cs` with at least as many rounds as characters gives back `cs`. -/
theorem decodeChars_flatMap (cs : List Char) : ∀ n, cs.length ≤ n → decodeChars n (cs.flatMap utf8Char) = some cs := by
  induction cs with
  | nil => intro n _; cases n <;> rfl
  | cons c cs ih =>
    intro n hn
    obtain ⟨m, rfl⟩ : ∃ m, n = m + 1 := ⟨n - 1, by simp at hn; omega⟩
    obtain ⟨b, bs, hb⟩ := List.exists_cons_of_ne_nil (utf8Char_ne_nil c)
    have hone := decodeOne_append c (cs.flatMap utf8Char)
    rw [List.flatMap_cons, hb, List.cons_append, decodeChars, ← List.cons_append, ← hb, hone]
    simp [ih m (by simp at hn; omega)]

theorem length_le_length_flatMap (cs : List Char) : cs.length ≤ (cs.flatMap utf8Char).length := by
  induction cs with
  | nil => simp
  | cons c cs ih =>
    have := List.length_pos.mpr (utf8Char_ne_nil c)
    simp only [List.flatMap_cons, List.length_append, List.length_cons]
    omega

end Utf8Aux

open Utf8Aux

/-- Decoding inverts encoding. -/
theorem utf8Decode_utf8Encode (s : String) : utf8Decode (utf8Encode s) = some s := by
  rw [utf8Decode, utf8Encode, decodeChars_flatMap s.data _ (length_le_length_flatMap s.data)]
  rfl

/-- Encoding a concatenation concatenates the encodings. -/
@[simp] theorem utf8Encode_append (s t : String) : utf8Encode (s ++ t) = utf8Encode s ++ utf8Encode t := by
  simp [utf8Encode, String.data_append]

/-- A character below `0x80` is one byte, its value. -/
theorem utf8Char_of_lt {n : Nat} (h : n < 0x80) : utf8Char (Char.ofNat n) = [UInt8.ofNat n] := by
  have hv : (Char.ofNat n).toNat = n := by
    rw [Char.ofNat, dif_pos (Or.inl (by omega))]
    rfl
  simp [utf8Char, hv, h]

end TokenHub
