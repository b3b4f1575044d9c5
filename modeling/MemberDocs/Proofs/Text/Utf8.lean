import MemberDocs.Text.Utf8

/-! # Text and its bytes

A character has its bytes in one of four sizes (`sizedBytes_utf8EncodeChar`), and they tell the
character, whatever follows them (`utf8Front_utf8EncodeChar`). So both readings give a text back from
its own bytes, the lenient one also in front of bytes that mean nothing (`decodeUtf8_encodeUtf8`,
`decodeUtf8Lenient_append`).
-/

namespace MemberDocs

section Bytes

variable {n : Nat} (small : n < 256)

include small

theorem ofNat_lt_iff (b : UInt8) : UInt8.ofNat n < b ↔ n < b.toNat := by
  rw [UInt8.lt_iff_toNat_lt, UInt8.toNat_ofNat', Nat.mod_eq_of_lt small]

theorem le_ofNat_iff (b : UInt8) : b ≤ UInt8.ofNat n ↔ b.toNat ≤ n := by
  rw [UInt8.le_iff_toNat_le, UInt8.toNat_ofNat', Nat.mod_eq_of_lt small]

theorem toNat_ofNat_small : (UInt8.ofNat n).toNat = n := by
  rw [UInt8.toNat_ofNat', Nat.mod_eq_of_lt small]

end Bytes

namespace Text

/-- The bytes of a number in the four sizes, by the bits that they hold. -/
inductive SizedBytes : Nat → List UInt8 → Prop
  | one {n : Nat} (small : n < 128) : SizedBytes n [UInt8.ofNat n]
  | two {high low n : Nat} (first : 2 ≤ high ∧ high < 32) (second : low < 64)
      (number : high * 64 + low = n) :
      SizedBytes n [UInt8.ofNat (high + 192), UInt8.ofNat (low + 128)]
  | three {high middle low n : Nat} (first : high < 16) (second : middle < 64) (third : low < 64)
      (number : high * 4096 + middle * 64 + low = n) (large : 0x800 ≤ n)
      (whole : n < 0xD800 ∨ 0xE000 ≤ n) :
      SizedBytes n [UInt8.ofNat (high + 224), UInt8.ofNat (middle + 128), UInt8.ofNat (low + 128)]
  | four {high second third low n : Nat} (first : high < 5) (six : second < 64) (sixToo : third < 64)
      (last : low < 64) (number : high * 262144 + second * 4096 + third * 64 + low = n)
      (large : 0x10000 ≤ n) (bound : n < 0x110000) :
      SizedBytes n [UInt8.ofNat (high + 240), UInt8.ofNat (second + 128), UInt8.ofNat (third + 128),
        UInt8.ofNat (low + 128)]

/-- A character has as many bytes as its number needs. -/
theorem sizedBytes_utf8EncodeChar (c : Char) : SizedBytes c.toNat (String.utf8EncodeChar c) := by
  have valid : c.toNat < 0xD800 ∨ 0xDFFF < c.toNat ∧ c.toNat < 0x110000 := c.valid
  unfold String.utf8EncodeChar
  simp only [show c.val.toNat = c.toNat from rfl]
  generalize c.toNat = n at *
  by_cases one : n ≤ 127
  · rw [if_pos one]
    exact .one (by omega)
  rw [if_neg one]
  by_cases two : n ≤ 2047
  · rw [if_pos two]
    exact .two (by omega) (by omega) (by omega)
  rw [if_neg two]
  by_cases three : n ≤ 65535
  · rw [if_pos three]
    exact .three (by omega) (by omega) (by omega) (by omega) (by omega) (by omega)
  rw [if_neg three]
  exact .four (by omega) (by omega) (by omega) (by omega) (by omega) (by omega) (by omega)

variable (rest : List UInt8)

/-- A byte that follows the first one adds its six bits. -/
theorem addPayload_ofNat {n bits : Nat} (six : bits < 64) :
    isContinuationByte (UInt8.ofNat (bits + 128)) = true ∧
      addPayload n (UInt8.ofNat (bits + 128)) = n * 64 + bits := by
  have small : bits + 128 < 256 := by omega
  simp only [isContinuationByte, addPayload, ofNat_lt_iff small, le_ofNat_iff small,
    toNat_ofNat_small small, Bool.and_eq_true, decide_eq_true_eq, UInt8.reduceToNat]
  omega

theorem utf8Front_one {n : Nat} (small : n < 128) :
    utf8Front (UInt8.ofNat n) rest = .char (Char.ofNat n) 1 := by
  have byte : n < 256 := by omega
  unfold utf8Front
  simp only [ofNat_lt_iff byte, toNat_ofNat_small byte, UInt8.reduceToNat]
  rw [if_pos small]

/-- Which second bytes can follow a first one, by their numbers. -/
theorem isSecondByte_ofNat {first bits : Nat} (byte : first < 256) (six : bits < 64)
    (e0 : first = 0xE0 → 32 ≤ bits) (ed : first = 0xED → bits < 32)
    (f0 : first = 0xF0 → 16 ≤ bits) (f4 : first = 0xF4 → bits < 16) :
    isSecondByte (UInt8.ofNat first) (UInt8.ofNat (bits + 128)) = true := by
  have small : bits + 128 < 256 := by omega
  obtain ⟨follows, -⟩ := @addPayload_ofNat 0 bits six
  have same (b : UInt8) : (UInt8.ofNat first = b) = (first = b.toNat) := by
    rw [← UInt8.toNat_inj, toNat_ofNat_small byte]
  simp only [isSecondByte, follows, same, ofNat_lt_iff small, le_ofNat_iff small, Bool.true_and,
    Bool.not_eq_true', Bool.or_eq_false_iff, Bool.and_eq_false_iff, decide_eq_false_iff_not,
    UInt8.reduceToNat]
  omega

theorem utf8Front_two {high low : Nat} (first : 2 ≤ high ∧ high < 32) (second : low < 64) :
    utf8Front (UInt8.ofNat (high + 192)) (UInt8.ofNat (low + 128) :: rest) =
      .char (Char.ofNat (high * 64 + low)) 2 := by
  have byte : high + 192 < 256 := by omega
  have follows := isSecondByte_ofNat byte second (by omega) (by omega) (by omega) (by omega)
  obtain ⟨-, bits⟩ := @addPayload_ofNat high low second
  have number : (high + 192) % 32 = high := by omega
  unfold utf8Front
  simp only [ofNat_lt_iff byte, le_ofNat_iff byte, toNat_ofNat_small byte, follows, number, bits,
    UInt8.reduceToNat, Bool.or_eq_true, decide_eq_true_eq]
  rw [if_neg (by omega), if_neg (by omega), if_neg (by simp), if_pos (by omega)]

theorem utf8Front_three {high middle low n : Nat} (first : high < 16) (second : middle < 64)
    (third : low < 64) (number : high * 4096 + middle * 64 + low = n) (large : 0x800 ≤ n)
    (whole : n < 0xD800 ∨ 0xE000 ≤ n) :
    utf8Front (UInt8.ofNat (high + 224))
      (UInt8.ofNat (middle + 128) :: UInt8.ofNat (low + 128) :: rest) =
        .char (Char.ofNat n) 3 := by
  have byte : high + 224 < 256 := by omega
  have follows := isSecondByte_ofNat byte second (by omega) (by omega) (by omega) (by omega)
  obtain ⟨-, bits⟩ := @addPayload_ofNat high middle second
  obtain ⟨followsToo, more⟩ := @addPayload_ofNat (high * 64 + middle) low third
  have lead : (high + 224) % 16 = high := by omega
  have value : (high * 64 + middle) * 64 + low = n := by omega
  unfold utf8Front
  simp only [ofNat_lt_iff byte, le_ofNat_iff byte, toNat_ofNat_small byte, follows, followsToo,
    lead, bits, more, value, UInt8.reduceToNat, Bool.or_eq_true, decide_eq_true_eq]
  rw [if_neg (by omega), if_neg (by omega), if_neg (by simp), if_neg (by omega),
    if_neg (by simp), if_pos (by omega)]

theorem utf8Front_four {high second third low n : Nat} (first : high < 5) (six : second < 64)
    (sixToo : third < 64) (last : low < 64)
    (number : high * 262144 + second * 4096 + third * 64 + low = n) (large : 0x10000 ≤ n)
    (bound : n < 0x110000) :
    utf8Front (UInt8.ofNat (high + 240)) (UInt8.ofNat (second + 128) ::
        UInt8.ofNat (third + 128) :: UInt8.ofNat (low + 128) :: rest) =
      .char (Char.ofNat n) 4 := by
  have byte : high + 240 < 256 := by omega
  have follows := isSecondByte_ofNat byte six (by omega) (by omega) (by omega) (by omega)
  obtain ⟨-, bits⟩ := @addPayload_ofNat high second six
  obtain ⟨followsToo, more⟩ := @addPayload_ofNat (high * 64 + second) third sixToo
  obtain ⟨followsLast, least⟩ := @addPayload_ofNat ((high * 64 + second) * 64 + third) low last
  have lead : (high + 240) % 8 = high := by omega
  have value : ((high * 64 + second) * 64 + third) * 64 + low = n := by omega
  unfold utf8Front
  simp only [ofNat_lt_iff byte, le_ofNat_iff byte, toNat_ofNat_small byte, follows, followsToo,
    followsLast, lead, bits, more, least, value, UInt8.reduceToNat, Bool.or_eq_true,
    decide_eq_true_eq]
  rw [if_neg (by omega), if_neg (by omega), if_neg (by simp), if_neg (by omega),
    if_neg (by simp), if_neg (by omega), if_neg (by simp)]

/-- The bytes of a character are a first one and those that it calls for. -/
theorem utf8Front_utf8EncodeChar (c : Char) :
    ∃ b more, String.utf8EncodeChar c = b :: more ∧
      ∀ rest, utf8Front b (more ++ rest) = .char c (more.length + 1) := by
  have sized := sizedBytes_utf8EncodeChar c
  have back : Char.ofNat c.toNat = c := Char.ofNat_toNat c
  generalize c.toNat = n, String.utf8EncodeChar c = bytes at *
  subst back
  cases sized with
  | one small => exact ⟨_, [], rfl, fun rest => utf8Front_one rest small⟩
  | two first second number =>
    exact ⟨_, [_], rfl, fun rest => number ▸ utf8Front_two rest first second⟩
  | three first second third number large whole =>
    exact ⟨_, [_, _], rfl, fun rest => utf8Front_three rest first second third number large whole⟩
  | four first six sixToo last number large bound =>
    exact ⟨_, [_, _, _], rfl, fun rest =>
      utf8Front_four rest first six sixToo last number large bound⟩

/-! ## Both readings -/

theorem decodeUtf8From_skip (position : Nat) (more rest : List UInt8) :
    decodeUtf8From position more.length (more ++ rest) =
      decodeUtf8From (position + more.length) 0 rest := by
  induction more generalizing position with
  | nil => rfl
  | cons b others ih =>
    rw [List.length_cons, List.cons_append, decodeUtf8From, ih, Nat.add_assoc, Nat.add_comm 1]

theorem decodeLenientFrom_skip (more rest : List UInt8) :
    decodeLenientFrom more.length (more ++ rest) = decodeLenientFrom 0 rest := by
  induction more with
  | nil => rfl
  | cons b others ih => rw [List.length_cons, List.cons_append, decodeLenientFrom, ih]

theorem decodeUtf8From_encode (chars : List Char) (position : Nat) :
    decodeUtf8From position 0 (chars.flatMap String.utf8EncodeChar) = .ok chars := by
  induction chars generalizing position with
  | nil => rfl
  | cons c others ih =>
    obtain ⟨b, more, bytes, front⟩ := utf8Front_utf8EncodeChar c
    rw [List.flatMap_cons, bytes, List.cons_append, decodeUtf8From, front]
    simp only [Nat.add_sub_cancel]
    rw [decodeUtf8From_skip, ih]
    rfl

/-- The bytes of a text are read as the text. -/
theorem decodeUtf8_encodeUtf8 (s : String) : decodeUtf8 (encodeUtf8 s) = .ok s.toList :=
  decodeUtf8From_encode s.toList 0

/-- The lenient reading gives a text back whatever its bytes are followed by. -/
theorem decodeUtf8Lenient_append (s : String) (rest : List UInt8) :
    decodeUtf8Lenient (encodeUtf8 s ++ rest) = s.toList ++ decodeUtf8Lenient rest := by
  unfold decodeUtf8Lenient encodeUtf8
  generalize s.toList = chars
  induction chars with
  | nil => rfl
  | cons c others ih =>
    obtain ⟨b, more, bytes, front⟩ := utf8Front_utf8EncodeChar c
    rw [List.flatMap_cons, bytes, List.cons_append, List.cons_append, decodeLenientFrom,
      List.append_assoc, front]
    simp only [Nat.add_sub_cancel]
    rw [decodeLenientFrom_skip, ih]
    rfl

end Text

end MemberDocs
