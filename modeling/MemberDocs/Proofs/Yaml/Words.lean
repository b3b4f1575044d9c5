import MemberDocs.FrontMatter.Options
import MemberDocs.Proofs.Result
import MemberDocs.Proofs.Text.Letters

/-! # Words as scalars

A plain scalar that is a word of letters is a truth value, nothing, or a string (`ofText_ofPlain`):
none of the notations of numbers and timestamps starts with a letter. What a word means as a flag or
as a choice of tags depends on it in lower case, but for three truth values that are written in three
ways only (`flag?_wordScalar`, `ofObject?_wordScalar`).
-/

namespace MemberDocs.Yaml

open Notation

/-- At least one character, all of them letters of ASCII. -/
def IsWord (s : String) : Prop :=
  s ≠ "" ∧ ∀ c ∈ s.toList, c.isAlpha

/-- What a word is as a plain scalar. -/
def wordScalar (word : String) : Scalar :=
  if word ∈ boolWords then .bool (word.toLower ∈ ["yes", "true", "on"])
  else if word ∈ nullWords then .null
  else .str word

variable {word : String}

theorem IsWord.exists_cons (isWord : IsWord word) :
    ∃ c rest, word.toList = c :: rest ∧ c.isAlpha ∧ ∀ d ∈ rest, d.isAlpha := by
  obtain ⟨filled, letters⟩ := isWord
  cases parts : word.toList with
  | nil => exact absurd (String.toList_eq_nil_iff.mp parts) filled
  | cons c rest =>
    rw [parts] at letters
    exact ⟨c, rest, rfl, List.forall_mem_cons.mp letters⟩

/-! ## The tag of a word -/

/-- The characters that the notations of numbers and timestamps are told apart by. -/
theorem notation_of_letter {c : Char} (letter : c.isAlpha) :
    c ∉ ['!', '&', '*'] ∧ c ≠ '-' ∧ c ≠ '+' ∧ c ≠ '.' ∧ c ≠ ':' ∧ c ≠ '\n' ∧ c ≠ '<' ∧ c ≠ '=' ∧ c ≠ '0' ∧
      c.isDigit = false ∧ isSpacedDigit c = false :=
  Text.of_letters (by decide) letter

theorem colonParts_of_letters {cs : List Char} (letters : ∀ c ∈ cs, c.isAlpha) :
    colonParts cs = [cs] := by
  induction cs with
  | nil => rfl
  | cons c rest ih =>
    obtain ⟨letter, others⟩ := List.forall_mem_cons.mp letters
    obtain ⟨-, -, -, -, notColon, -⟩ := notation_of_letter letter
    simp [colonParts, notColon, ih others]

section

variable {c : Char} {rest : List Char} (letter : c.isAlpha) (letters : ∀ d ∈ rest, d.isAlpha)
include letter

theorem dropSign_of_letter : dropSign (c :: rest) = c :: rest := by
  obtain ⟨-, notMinus, notPlus, -⟩ := notation_of_letter letter
  unfold dropSign
  split
  next same => exact absurd (List.cons.inj same).1 notMinus
  next same => exact absurd (List.cons.inj same).1 notPlus
  next => rfl

include letters

theorem not_isInt_of_letters : isInt (c :: rest) = false := by
  obtain ⟨-, -, -, -, -, -, -, -, notZero, notDigit, -⟩ := notation_of_letter letter
  have parts := colonParts_of_letters (List.forall_mem_cons.mpr ⟨letter, letters⟩)
  unfold isInt
  rw [dropSign_of_letter letter]
  split
  next same => exact absurd (List.cons.inj same).1 notZero
  next same => exact absurd (List.cons.inj same).1 notZero
  next same => exact absurd (List.cons.inj same).1 notZero
  next same => exact absurd (List.cons.inj same).1 notZero
  next => simp [isCounting, notDigit, parts]

theorem not_isFloat_of_letters : isFloat (c :: rest) = false := by
  obtain ⟨-, -, -, notPoint, -, -, -, -, -, notDigit, notSpaced⟩ := notation_of_letter letter
  have parts := colonParts_of_letters (List.forall_mem_cons.mpr ⟨letter, letters⟩)
  have noFraction : isFraction (c :: rest) = false := by
    unfold isFraction
    rw [List.dropWhile_cons_of_neg (by simp [notSpaced])]
    split
    next same => exact absurd (List.cons.inj same).1 notPoint
    next => rfl
  have noPointFraction : isPointFraction (c :: rest) = false := by
    unfold isPointFraction
    split
    next same => exact absurd (List.cons.inj same).1 notPoint
    next => rfl
  have noSixty : isSixtyFraction (c :: rest) = false := by
    simp [isSixtyFraction, parts]
  simp [isFloat, dropSign_of_letter letter, noFraction, noPointFraction, noSixty,
    Ne.symm notPoint]

end

theorem not_isTimestamp_of_letter {c : Char} {rest : List Char} (letter : c.isAlpha) :
    isTimestamp (c :: rest) = false := by
  obtain ⟨-, -, -, -, -, -, -, -, -, notDigit, -⟩ := notation_of_letter letter
  have none : twoDigits? (c :: rest) = none := by
    cases rest <;> simp [twoDigits?, oneOrTwoDigits?, notDigit]
  simp [isTimestamp, TimestampFields.ofChars?, none]

theorem dropFinalBreak_of_letters {cs : List Char} (letters : ∀ c ∈ cs, c.isAlpha) :
    dropFinalBreak cs = cs := by
  unfold dropFinalBreak
  split
  next last =>
    obtain ⟨-, -, -, -, -, notBreak, -⟩ := notation_of_letter (letters _ (List.mem_of_getLast? last))
    exact absurd rfl notBreak
  next => rfl

/-- A word has one of three tags. -/
theorem ofPlain_of_isWord (isWord : IsWord word) :
    Tag.ofPlain word =
      if word ∈ boolWords then .bool else if word ∈ nullWords then .null else .str := by
  obtain ⟨c, rest, parts, letter, letters⟩ := isWord.exists_cons
  obtain ⟨unmarked, -, -, -, -, -, notLess, notEquals, -⟩ := notation_of_letter letter
  have plain : word ≠ "<<" ∧ word ≠ "=" := by
    constructor <;> rintro rfl
    · exact notLess (List.cons.inj parts).1.symm
    · exact notEquals (List.cons.inj parts).1.symm
  have unreserved : isReserved word.toList = false := by
    have : c ≠ '!' ∧ c ≠ '&' ∧ c ≠ '*' := by simpa using unmarked
    simp [isReserved, this, parts]
  have noFloat : isFloat word.toList = false := parts ▸ not_isFloat_of_letters letter letters
  have noInt : isInt word.toList = false := parts ▸ not_isInt_of_letters letter letters
  have noTimestamp : isTimestamp word.toList = false := parts ▸ not_isTimestamp_of_letter letter
  unfold Tag.ofPlain
  rw [dropFinalBreak_of_letters isWord.2]
  simp [noFloat, noInt, noTimestamp, unreserved, isWord.1, plain]

/-! ## The value of a word -/

theorem ofText_ofPlain (isWord : IsWord word) :
    Scalar.ofText (.ofPlain word) word = .ok (wordScalar word) := by
  rw [ofPlain_of_isWord isWord, wordScalar]
  split
  next listed =>
    have all : ∀ word ∈ boolWords,
        (readBool word).toOption = some (.bool (word.toLower ∈ ["yes", "true", "on"])) := by
      decide +kernel
    exact toOption_eq_some_iff.mp (all word listed)
  next =>
    split
    next => rfl
    next => rfl

theorem wordScalar_eq_str_iff {name : String} (notBool : name ∉ boolWords)
    (notNull : name ∉ nullWords) : wordScalar word = .str name ↔ word = name := by
  unfold wordScalar
  split
  next listed =>
    have : word ≠ name := fun same => notBool (same ▸ listed)
    simp [this]
  next =>
    split
    next listed =>
      have : word ≠ name := fun same => notNull (same ▸ listed)
      simp [this]
    next => simp

/-- A key that is a word can be written. -/
theorem exists_text_wordScalar (word : String) : ∃ text, (wordScalar word).text = .ok text := by
  unfold wordScalar
  split
  next => exact ⟨_, rfl⟩
  next =>
    split
    next => exact ⟨_, rfl⟩
    next => exact ⟨_, rfl⟩

/-- Two words are the same key exactly if they are the same value. -/
theorem same_wordScalar (word other : String) :
    (wordScalar word).same (wordScalar other) ↔ wordScalar word = wordScalar other := by
  have kinds (word : String) :
      (∃ b, wordScalar word = .bool b) ∨ wordScalar word = .null ∨ wordScalar word = .str word := by
    unfold wordScalar
    split
    next => exact Or.inl ⟨_, rfl⟩
    next =>
      split
      next => exact Or.inr (Or.inl rfl)
      next => exact Or.inr (Or.inr rfl)
  rcases kinds word with ⟨b, first⟩ | first | first <;>
    rcases kinds other with ⟨d, second⟩ | second | second <;>
    rw [first, second] <;> simp [Scalar.same, Scalar.integer?]
  cases b <;> cases d <;> simp

theorem settingWord_of_isWord (isWord : IsWord word) : settingWord word = word.toLower := by
  rw [settingWord, Text.strip_of_letters isWord.2, Text.lower_of_letters isWord.2]

theorem toLower_ne_one (isWord : IsWord word) : word.toLower ≠ "1" := by
  obtain ⟨c, rest, parts, letter, -⟩ := isWord.exists_cons
  have other : c.toLower ≠ '1' := Text.of_letters (by decide) letter
  intro one
  have chars := Text.toList_toLower word
  rw [one, parts] at chars
  exact other (List.cons.inj chars).1.symm

/-- A word is a flag that is set if it is one of two words in any case, or one of the three ways to
write a third one. -/
theorem flag?_wordScalar (isWord : IsWord word) :
    (Object.scalar (wordScalar word)).flag? = some true ↔
      word.toLower ∈ ["true", "yes"] ∨ word ∈ ["on", "On", "ON"] := by
  unfold wordScalar
  split
  next listed =>
    have all : ∀ word ∈ boolWords, word.toLower ∈ ["yes", "true", "on"] ↔
        word.toLower ∈ ["true", "yes"] ∨ word ∈ ["on", "On", "ON"] := by decide +kernel
    simpa [Object.flag?] using all word listed
  next unlisted =>
    split
    next listed =>
      have all : ∀ word ∈ nullWords,
          ¬ (word.toLower ∈ ["true", "yes"] ∨ word ∈ ["on", "On", "ON"]) := by decide +kernel
      simpa [Object.flag?] using all word listed
    next =>
      have notOn : word ∉ ["on", "On", "ON"] := by
        intro on
        have all : ∀ word ∈ ["on", "On", "ON"], word ∈ boolWords := by decide
        exact unlisted (all word on)
      have notOne := toLower_ne_one isWord
      simp only [Object.flag?, settingWord_of_isWord isWord]
      split
      next truth =>
        have : word.toLower ∈ ["true", "yes"] := by simpa [notOne] using truth
        exact iff_of_true rfl (Or.inl this)
      next untrue =>
        have : word.toLower ∉ ["true", "yes"] := by
          intro member
          exact untrue (by simpa [notOne] using member)
        split <;> simp [this, notOn]

/-- A word is a choice of tags if it is one of two words in any case. -/
theorem ofObject?_wordScalar (isWord : IsWord word) :
    (FrontMatter.AllowedTags.ofObject? (.scalar (wordScalar word)) = some .everyTag ↔
      word.toLower = "all") ∧
    (FrontMatter.AllowedTags.ofObject? (.scalar (wordScalar word)) = some .knownTags ↔
      word.toLower = "none") := by
  unfold wordScalar
  split
  next listed =>
    have all : ∀ word ∈ boolWords, word.toLower ≠ "all" ∧ word.toLower ≠ "none" := by
      decide +kernel
    simp [FrontMatter.AllowedTags.ofObject?, Object.word?, all word listed]
  next =>
    split
    next listed =>
      have all : ∀ word ∈ nullWords, word.toLower ≠ "all" ∧ word.toLower ≠ "none" := by
        decide +kernel
      simp [FrontMatter.AllowedTags.ofObject?, Object.word?, all word listed]
    next =>
      simp only [FrontMatter.AllowedTags.ofObject?, Object.word?, settingWord_of_isWord isWord]
      split
      next all => simp [all]
      next notAll =>
        split
        next none => simp [none]
        next notNone => simp [notAll, notNone]

end MemberDocs.Yaml
