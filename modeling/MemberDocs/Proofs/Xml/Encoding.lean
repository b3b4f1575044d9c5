import MemberDocs.Proofs.Text.Utf8
import MemberDocs.Xml.Encoding

/-! # Text that is read from its own bytes

The bytes of a text in UTF-8 are read as its characters, up to the first number that is no character
of a text (`decodeUtf8_flatMap`), and they are taken for UTF-8 unless one of the first two characters
is zero (`detect_flatMap`).
-/

namespace MemberDocs.Xml.Encoding

/-- A byte that follows the first one, with its six bits. -/
theorem isContinuation_ofNat {bits : Nat} (six : bits < 64) :
    isContinuation (UInt8.ofNat (bits + 128)) = true ∧
      payload (UInt8.ofNat (bits + 128)) = bits := by
  have small : bits + 128 < 256 := by omega
  simp only [isContinuation, payload, ofNat_lt_iff small, le_ofNat_iff small,
    toNat_ofNat_small small, Bool.and_eq_true, decide_eq_true_eq, UInt8.reduceToNat]
  omega

/-! ## The four sizes of a character -/

section Sizes

variable (rest : List UInt8)

theorem decodeUtf8_one {n : Nat} (small : n < 128) :
    decodeUtf8 (UInt8.ofNat n :: rest) =
      (Char.ofNat n :: (decodeUtf8 rest).1, (decodeUtf8 rest).2) := by
  have byte : n < 256 := by omega
  rw [decodeUtf8.eq_def]
  simp only [ofNat_lt_iff byte, toNat_ofNat_small byte, UInt8.reduceToNat]
  rw [if_pos small]

theorem decodeUtf8_two {high low : Nat} (first : 2 ≤ high ∧ high < 32) (second : low < 64) :
    decodeUtf8 (UInt8.ofNat (high + 192) :: UInt8.ofNat (low + 128) :: rest) =
      (Char.ofNat (high * 64 + low) :: (decodeUtf8 rest).1, (decodeUtf8 rest).2) := by
  have byte : high + 192 < 256 := by omega
  obtain ⟨follows, bits⟩ := isContinuation_ofNat second
  have number : (high + 192) % 32 = high := by omega
  rw [decodeUtf8.eq_def]
  simp only [ofNat_lt_iff byte, le_ofNat_iff byte, toNat_ofNat_small byte, follows, bits,
    number, UInt8.reduceToNat, Bool.or_eq_true, decide_eq_true_eq, Bool.not_true]
  rw [if_neg (by omega), if_neg (by omega), if_pos (by omega), if_neg (by simp; omega)]

theorem decodeUtf8_three {high middle low n : Nat} (first : high < 16) (second : middle < 64)
    (third : low < 64) (number : high * 4096 + middle * 64 + low = n) (large : 0x800 ≤ n)
    (whole : n < 0xD800 ∨ 0xE000 ≤ n) (used : n ≠ 0xFFFE ∧ n ≠ 0xFFFF) :
    decodeUtf8 (UInt8.ofNat (high + 224) :: UInt8.ofNat (middle + 128) ::
        UInt8.ofNat (low + 128) :: rest) =
      (Char.ofNat n :: (decodeUtf8 rest).1, (decodeUtf8 rest).2) := by
  have byte : high + 224 < 256 := by omega
  obtain ⟨follows, bits⟩ := isContinuation_ofNat second
  obtain ⟨followsToo, more⟩ := isContinuation_ofNat third
  have lead : (high + 224) % 16 = high := by omega
  rw [decodeUtf8.eq_def]
  simp only [ofNat_lt_iff byte, le_ofNat_iff byte, toNat_ofNat_small byte, follows, bits,
    followsToo, more, lead, number, UInt8.reduceToNat, Bool.or_eq_true, decide_eq_true_eq,
    Bool.not_true, Bool.and_eq_true]
  rw [if_neg (by omega), if_neg (by omega), if_neg (by omega), if_pos (by omega),
    if_neg (by simp; omega)]

theorem decodeUtf8_four {high second third low n : Nat} (first : high < 5) (six : second < 64)
    (sixToo : third < 64) (last : low < 64)
    (number : high * 262144 + second * 4096 + third * 64 + low = n) (large : 0x10000 ≤ n)
    (bound : n < 0x110000) :
    decodeUtf8 (UInt8.ofNat (high + 240) :: UInt8.ofNat (second + 128) ::
        UInt8.ofNat (third + 128) :: UInt8.ofNat (low + 128) :: rest) =
      (Char.ofNat n :: (decodeUtf8 rest).1, (decodeUtf8 rest).2) := by
  have byte : high + 240 < 256 := by omega
  obtain ⟨follows, bits⟩ := isContinuation_ofNat six
  obtain ⟨followsToo, more⟩ := isContinuation_ofNat sixToo
  obtain ⟨followsLast, least⟩ := isContinuation_ofNat last
  have lead : (high + 240) % 8 = high := by omega
  rw [decodeUtf8.eq_def]
  simp only [ofNat_lt_iff byte, le_ofNat_iff byte, toNat_ofNat_small byte, follows, bits,
    followsToo, more, followsLast, least, lead, number, UInt8.reduceToNat, Bool.or_eq_true,
    decide_eq_true_eq, Bool.not_true]
  rw [if_neg (by omega), if_neg (by omega), if_neg (by omega), if_neg (by omega),
    if_neg (by simp; omega)]

end Sizes

/-! ## Texts -/

/-- The two numbers that stand for no character of a text. -/
def IsUnused (c : Char) : Prop :=
  c.toNat = 0xFFFE ∨ c.toNat = 0xFFFF

theorem not_isUnused_of_isDocumentChar {c : Char} (legal : isDocumentChar c) : ¬ IsUnused c := by
  unfold isDocumentChar at legal
  unfold IsUnused
  split at legal
  next => omega
  next => simpa using legal

/-- The bytes of a character are read as the character, whatever follows. -/
theorem decodeUtf8_append {c : Char} (used : ¬ IsUnused c) (rest : List UInt8) :
    decodeUtf8 (String.utf8EncodeChar c ++ rest) =
      (c :: (decodeUtf8 rest).1, (decodeUtf8 rest).2) := by
  have sized := Text.sizedBytes_utf8EncodeChar c
  have back : Char.ofNat c.toNat = c := Char.ofNat_toNat c
  have differs : c.toNat ≠ 0xFFFE ∧ c.toNat ≠ 0xFFFF := not_or.mp used
  generalize c.toNat = n, String.utf8EncodeChar c = bytes at *
  subst back
  cases sized with
  | one small => exact decodeUtf8_one rest small
  | two first second number => exact number ▸ decodeUtf8_two rest first second
  | three first second third number large whole =>
    exact decodeUtf8_three rest first second third number large whole differs
  | four first six sixToo last number large bound =>
    exact decodeUtf8_four rest first six sixToo last number large bound

/-- The bytes of an unused number are no character. -/
theorem decodeUtf8_of_isUnused {c : Char} (unused : IsUnused c) (rest : List UInt8) :
    decodeUtf8 (String.utf8EncodeChar c ++ rest) = ([], .malformed true (rest.length + 3)) := by
  have back : Char.ofNat c.toNat = c := Char.ofNat_toNat c
  rcases unused with number | number
  · have bytes : String.utf8EncodeChar (Char.ofNat 0xFFFE) = [0xEF, 0xBF, 0xBE] := by decide
    rw [← back, number, bytes]
    simp only [List.cons_append, List.nil_append]
    rw [decodeUtf8.eq_def]
    rfl
  · have bytes : String.utf8EncodeChar (Char.ofNat 0xFFFF) = [0xEF, 0xBF, 0xBF] := by decide
    rw [← back, number, bytes]
    simp only [List.cons_append, List.nil_append]
    rw [decodeUtf8.eq_def]
    rfl

/-- The bytes of a text are read as its characters, up to the first unused number. -/
theorem decodeUtf8_flatMap (chars : List Char) :
    decodeUtf8 (chars.flatMap String.utf8EncodeChar) = (chars, .complete) ∨
      ∃ before c after units, chars = before ++ c :: after ∧ IsUnused c ∧
        decodeUtf8 (chars.flatMap String.utf8EncodeChar) = (before, .malformed true units) := by
  induction chars with
  | nil => exact Or.inl rfl
  | cons c rest ih =>
    rw [List.flatMap_cons]
    by_cases unused : IsUnused c
    · exact Or.inr ⟨[], c, rest, _, rfl, unused, decodeUtf8_of_isUnused unused _⟩
    · rw [decodeUtf8_append unused]
      rcases ih with whole | ⟨before, other, after, units, rfl, isOther, read⟩
      · exact Or.inl (by rw [whole])
      · exact Or.inr ⟨c :: before, other, after, units, rfl, isOther, by rw [read]⟩

/-- A text of which all bytes are read has no unused number. -/
theorem used_of_decodeUtf8 {chars : List Char}
    (whole : (decodeUtf8 (chars.flatMap String.utf8EncodeChar)).2 = .complete) :
    ∀ c ∈ chars, ¬ IsUnused c := by
  induction chars with
  | nil => exact fun _ member => (List.not_mem_nil member).elim
  | cons c rest ih =>
    rw [List.flatMap_cons] at whole
    have used : ¬ IsUnused c := by
      intro unused
      rw [decodeUtf8_of_isUnused unused] at whole
      cases whole
    rw [decodeUtf8_append used] at whole
    exact List.forall_mem_cons.mpr ⟨used, ih whole⟩

/-- The bytes of a text without unused numbers are read as its characters. -/
theorem decodeUtf8_of_used {chars : List Char} (used : ∀ c ∈ chars, ¬ IsUnused c) :
    decodeUtf8 (chars.flatMap String.utf8EncodeChar) = (chars, .complete) := by
  rcases decodeUtf8_flatMap chars with whole | ⟨before, c, after, units, parts, unused, -⟩
  · exact whole
  · exact absurd unused (used c (by simp [parts]))

/-- The bytes of a text are read as its characters. -/
theorem decodeUtf8_encodeUtf8 {s : String} (legal : ∀ c ∈ s.toList, isDocumentChar c) :
    decodeUtf8 (Text.encodeUtf8 s) = (s.toList, .complete) :=
  decodeUtf8_of_used fun c member => not_isUnused_of_isDocumentChar (legal c member)

/-! ## Which encoding a text is taken for -/

/-- A character has one byte, its number, or several of which the first two lie in other ranges;
three of them are the sign that marks the order of bytes only if the character is that sign. -/
theorem utf8EncodeChar_cases (c : Char) :
    (∃ b, String.utf8EncodeChar c = [b] ∧ b.toNat = c.toNat ∧ c.toNat < 128) ∨
      ∃ b0 b1 more, String.utf8EncodeChar c = b0 :: b1 :: more ∧ 0xC0 ≤ b0.toNat ∧
        b0.toNat ≤ 0xF4 ∧ b1.toNat ≠ 0 ∧
          (b0 = 0xEF → ∃ b2, more = [b2] ∧ (b1 = 0xBB → b2 = 0xBF → c = '\uFEFF')) := by
  have sized := Text.sizedBytes_utf8EncodeChar c
  have back : Char.ofNat c.toNat = c := Char.ofNat_toNat c
  generalize c.toNat = n, String.utf8EncodeChar c = bytes at *
  have byte {n : Nat} (small : n < 256) : (UInt8.ofNat n).toNat = n := toNat_ofNat_small small
  have same {n : Nat} (small : n < 256) (b : UInt8) : (UInt8.ofNat n = b) ↔ n = b.toNat := by
    rw [← UInt8.toNat_inj, byte small]
  cases sized with
  | one small => exact Or.inl ⟨_, rfl, byte (by omega), small⟩
  | @two high low _ first second number =>
    refine Or.inr ⟨_, _, [], rfl, ?_, ?_, ?_, ?_⟩
    · rw [byte (by omega)]; omega
    · rw [byte (by omega)]; omega
    · rw [byte (by omega)]; omega
    · rw [same (by omega)]
      intro mark
      have : high + 192 = 239 := mark
      omega
  | @three high middle low _ first second third number large whole =>
    refine Or.inr ⟨_, _, [_], rfl, ?_, ?_, ?_, ?_⟩
    · rw [byte (by omega)]; omega
    · rw [byte (by omega)]; omega
    · rw [byte (by omega)]; omega
    · intro b0
      refine ⟨_, rfl, fun b1 b2 => ?_⟩
      rw [same (by omega)] at b0 b1 b2
      have atHigh : high + 224 = 239 := b0
      have atMiddle : middle + 128 = 187 := b1
      have atLow : low + 128 = 191 := b2
      rw [← back, show n = 0xFEFF by omega]
  | @four high second third low _ first six sixToo last number large bound =>
    refine Or.inr ⟨_, _, [_, _], rfl, ?_, ?_, ?_, ?_⟩
    · rw [byte (by omega)]; omega
    · rw [byte (by omega)]; omega
    · rw [byte (by omega)]; omega
    · rw [same (by omega)]
      intro mark
      have : high + 240 = 239 := mark
      omega

/-- The first byte of a character is not zero, and starts no pair of units. -/
theorem exists_cons_utf8EncodeChar {c : Char} (filled : c.toNat ≠ 0) :
    ∃ b rest, String.utf8EncodeChar c = b :: rest ∧ b ≠ 0 ∧ b ≠ 0xFE ∧ b ≠ 0xFF := by
  have bounded {b : UInt8} (low : b.toNat ≠ 0) (high : b.toNat ≤ 0xF4) :
      b ≠ 0 ∧ b ≠ 0xFE ∧ b ≠ 0xFF := by
    refine ⟨?_, ?_, ?_⟩ <;> rintro rfl
    · exact low rfl
    · exact absurd high (by decide)
    · exact absurd high (by decide)
  rcases utf8EncodeChar_cases c with ⟨b, bytes, number, small⟩ | ⟨b, b1, more, bytes, low, high, -⟩
  · exact ⟨b, [], bytes, bounded (by omega) (by omega)⟩
  · exact ⟨b, b1 :: more, bytes, bounded (by omega) high⟩

/-- A text whose first two characters are not zero is taken for UTF-8, if it is long enough to tell;
only the sign that marks the order of bytes is passed over. -/
theorem detect_flatMap {chars : List Char} (filled : ∀ c ∈ chars.take 2, c.toNat ≠ 0) :
    (detect (chars.flatMap String.utf8EncodeChar) = .undecided ∧ chars.length = 1) ∨
      detect (chars.flatMap String.utf8EncodeChar) = .encoding .utf8 0 ∨
        (detect (chars.flatMap String.utf8EncodeChar) = .encoding .utf8 3 ∧
          chars.head? = some '\uFEFF') := by
  cases chars with
  | nil => exact Or.inr (Or.inl rfl)
  | cons c rest =>
    obtain ⟨front, others, start, nonzero, notHigh, notLow⟩ :=
      exists_cons_utf8EncodeChar (filled c (by simp))
    rw [List.flatMap_cons]
    rcases utf8EncodeChar_cases c with
      ⟨b, bytes, number, small⟩ | ⟨b0, b1, more, bytes, low, high, second, mark⟩
    · obtain rfl : b = front := (List.cons.inj (bytes.symm.trans start)).1
      have notMark : b ≠ 0xEF := by
        rintro rfl
        exact absurd (number ▸ small) (by decide)
      rw [bytes]
      cases rest with
      | nil =>
        by_cases open_ : b = 0x3C
        · exact Or.inl ⟨by simp [detect, open_], rfl⟩
        · exact Or.inr (Or.inl (by simp [detect, open_, nonzero, notHigh, notLow, notMark]))
      | cons next more =>
        obtain ⟨b1, others, nextBytes, nonzeroNext, -⟩ :=
          exists_cons_utf8EncodeChar (filled next (by simp))
        rw [List.flatMap_cons, nextBytes]
        exact Or.inr (Or.inl (by simp [detect, nonzero, notHigh, notLow, notMark, nonzeroNext]))
    · obtain rfl : b0 = front := (List.cons.inj (bytes.symm.trans start)).1
      have nonzeroSecond : b1 ≠ 0 := fun zero => second (by rw [zero]; rfl)
      rw [bytes]
      by_cases marked : b0 = 0xEF ∧ b1 = 0xBB
      · obtain ⟨rfl, rfl⟩ := marked
        obtain ⟨b2, rfl, isMark⟩ := mark rfl
        by_cases third : b2 = 0xBF
        · exact Or.inr (Or.inr ⟨by simp [detect, third], by rw [isMark rfl third]; rfl⟩)
        · exact Or.inr (Or.inl (by simp [detect, third]))
      · right
        left
        have unmarked : (decide (b0 = 0xEF) && decide (b1 = 0xBB)) = false := by simpa using marked
        simp [detect, nonzero, notHigh, notLow, nonzeroSecond, unmarked]

/-- A text that starts with an ASCII character is taken for UTF-8. -/
theorem detect_encodeUtf8 {s : String} {first second : Char} {rest : List Char}
    (starts : s.toList = first :: second :: rest) (ascii : first.toNat < 128)
    (legal : isDocumentChar first ∧ isDocumentChar second) :
    detect (Text.encodeUtf8 s) = .encoding .utf8 0 := by
  have filled {c : Char} (legal : isDocumentChar c) : c.toNat ≠ 0 := by
    intro zero
    rw [isDocumentChar, if_pos (by omega), ← Char.ofNat_toNat c, zero] at legal
    exact absurd legal (by decide)
  unfold Text.encodeUtf8
  rw [starts]
  rcases @detect_flatMap (first :: second :: rest)
    (by simpa using ⟨filled legal.1, filled legal.2⟩) with ⟨-, short⟩ | read | ⟨-, marked⟩
  · simp at short
  · exact read
  · obtain rfl : first = '\uFEFF' := by simpa using marked
    exact absurd ascii (by decide)

end MemberDocs.Xml.Encoding
