import MemberDocs.Proofs.Yaml.Words
import MemberDocs.Text.LineBreak
import MemberDocs.Yaml.Lexer

/-! # The tokens of lines

A document that is a mark and lines of a key, a colon and a value, where keys and values are words of
letters. The first key opens a block that the end of the text closes, and every line adds the four
tokens of a pair (`tokensOf_lines`). The lexer is followed from the start of one line to the start of
the next, between which it reads three tokens and hands out all that wait.
-/

namespace MemberDocs.Yaml

open Lexer (isIndicator)

/-! ## Words in a text -/

/-- The characters that have a meaning of their own. -/
def signs : List Char :=
  ['%', '[', ']', '\x7b', '\x7d', ',', '-', '?', ':', '*', '&', '!', '|', '>', '\'', '"', '#', '.',
    ' ', '\uFEFF']

theorem class_of_letter {c : Char} (letter : c.isAlpha) :
    isBreak c = false ∧ isGap c = false ∧ isIndicator c = false ∧ isAllowed c ∧ c ∉ signs :=
  Text.of_letters (by decide) letter

theorem ne_of_letter {c sign : Char} (letter : c.isAlpha) (listed : sign ∈ signs) : c ≠ sign := by
  obtain ⟨-, -, -, -, unlisted⟩ := class_of_letter letter
  exact fun same => unlisted (same ▸ listed)

theorem isDocumentMark_of_ne {c sign : Char} {rest : List Char} (other : c ≠ sign) :
    isDocumentMark sign (c :: rest) = false := by
  unfold isDocumentMark
  split
  next same => simp [← (List.cons.inj same).1, other]
  next => rfl

variable {word rest : List Char}

theorem Cursor.skip_letters (letters : ∀ c ∈ word, c.isAlpha) (index line column : Nat) :
    Cursor.skip word.length ⟨word ++ rest, index, line, column⟩ =
      ⟨rest, index + word.length, line, column + word.length⟩ := by
  induction word generalizing index column with
  | nil => rfl
  | cons c more ih =>
    obtain ⟨letter, others⟩ := List.forall_mem_cons.mp letters
    obtain ⟨noBreak, -⟩ := class_of_letter letter
    have noMark : c ≠ '\uFEFF' := ne_of_letter letter (by decide)
    simp only [List.length_cons, Cursor.skip, Cursor.next, List.cons_append, noBreak,
      Bool.false_and, Bool.false_eq_true, ↓reduceIte, noMark]
    rw [ih others]
    simp only [Cursor.mk.injEq, true_and]
    omega

theorem Cursor.lineBreak?_of_not_isBreak {c : Char} (other : isBreak c = false)
    (index line column : Nat) : Cursor.lineBreak? ⟨c :: rest, index, line, column⟩ = none := by
  unfold Cursor.lineBreak?
  split
  next same =>
    rw [(List.cons.inj same).1] at other
    cases other
  next same => simp [← (List.cons.inj same).1, other]
  next => rfl

theorem Cursor.skipComment_of_ne {c : Char} (other : c ≠ '#') (index line column : Nat) :
    Cursor.skipComment ⟨c :: rest, index, line, column⟩ = ⟨c :: rest, index, line, column⟩ := by
  unfold Cursor.skipComment
  split
  next same => exact absurd (List.cons.inj same).1 other
  next => rfl

theorem plainRun_letters (letters : ∀ c ∈ word, c.isAlpha) (stops : plainRun false rest = []) :
    plainRun false (word ++ rest) = word := by
  induction word with
  | nil => exact stops
  | cons c more ih =>
    obtain ⟨letter, others⟩ := List.forall_mem_cons.mp letters
    obtain ⟨-, noGap, -⟩ := class_of_letter letter
    have notColon : c ≠ ':' := ne_of_letter letter (by decide)
    simp [plainRun, noGap, notColon, ih others]

/-! ## Plain scalars -/

/-- A break before a letter is a gap that stands for a space. -/
theorem plainGap_before_line {c : Char} (letter : c.isAlpha) (index line column : Nat) :
    plainGap ⟨'\n' :: c :: rest, index, line, column⟩ =
      ⟨[' '], true, ⟨c :: rest, index + 1, line + 1, 0⟩⟩ := by
  obtain ⟨noBreak, -⟩ := class_of_letter letter
  have notSpace : c ≠ ' ' := ne_of_letter letter (by decide)
  have noBoundary : isDocumentBoundary (c :: rest) = false := by
    rw [isDocumentBoundary, isDocumentMark_of_ne (ne_of_letter letter (by decide)),
      isDocumentMark_of_ne (ne_of_letter letter (by decide)), Bool.or_false]
  have spaces : Cursor.skipSpaces ⟨'\n' :: c :: rest, index, line, column⟩ =
      ⟨'\n' :: c :: rest, index, line, column⟩ := rfl
  have first : Cursor.lineBreak? ⟨'\n' :: c :: rest, index, line, column⟩ =
      some ('\n', ⟨c :: rest, index + 1, line + 1, 0⟩) := rfl
  have more : followingBreaks (c :: rest).length ⟨c :: rest, index + 1, line + 1, 0⟩ =
      ([], false, ⟨c :: rest, index + 1, line + 1, 0⟩) := by
    simp [followingBreaks, Cursor.lineBreak?_of_not_isBreak noBreak, startsWith, notSpace]
  simp only [plainGap, spaces, first, noBoundary, more]
  rfl

section

variable (letters : ∀ c ∈ word, c.isAlpha) (index line column : Nat) (indent : Int)
include letters

theorem readPlain_letters {atLineStart : Bool} {after : Cursor}
    (stops : plainRun false rest = [])
    (ends : plainTail false indent (word ++ rest).length
      ⟨rest, index + word.length, line, column + word.length⟩ = ⟨[], atLineStart, after⟩) :
    readPlain false indent ⟨word ++ rest, index, line, column⟩ = ⟨word, atLineStart, after⟩ := by
  simp only [readPlain, plainRun_letters letters stops, Cursor.skip_letters letters, ends,
    List.append_nil]

/-- A word ends before a colon with a space after it. -/
theorem readPlain_before_colon :
    readPlain false indent ⟨word ++ ':' :: ' ' :: rest, index, line, column⟩ =
      ⟨word, false, ⟨':' :: ' ' :: rest, index + word.length, line, column + word.length⟩⟩ := by
  apply readPlain_letters letters
  · simp [plainRun, atEndOr, isGap]
  · simp [plainTail, plainGap, Cursor.run, Cursor.skipSpaces, Cursor.skipRun, Cursor.skip,
      Cursor.lineBreak?, isBreak]

/-- A word ends at the end of a text. -/
theorem readPlain_at_end (filled : word ≠ []) :
    readPlain false indent ⟨word, index, line, column⟩ =
      ⟨word, false, ⟨[], index + word.length, line, column + word.length⟩⟩ := by
  obtain ⟨c, more, rfl⟩ := List.exists_cons_of_ne_nil filled
  have read := @readPlain_letters _ [] letters index line column indent false
    ⟨[], index + (c :: more).length, line, column + (c :: more).length⟩ rfl (by
      simp [plainTail, plainGap, Cursor.run, Cursor.skipSpaces, Cursor.skipRun, Cursor.skip,
        Cursor.lineBreak?])
  rwa [List.append_nil] at read

/-- A word ends at a line that starts with a letter and is not indented. -/
theorem readPlain_before_line {c : Char} (letter : c.isAlpha) (indented : 0 < indent) :
    readPlain false indent ⟨word ++ '\n' :: c :: rest, index, line, column⟩ =
      ⟨word, true, ⟨c :: rest, index + word.length + 1, line + 1, 0⟩⟩ := by
  apply readPlain_letters letters
  · simp [plainRun, isGap, isBreak]
  · rw [List.length_append, List.length_cons, ← Nat.add_assoc]
    simp [plainTail, plainGap_before_line letter, indented]

end

/-! ## From token to token -/

namespace Lexer

variable {c : Char}

theorem pushToken_letter (lexer : Lexer) (letter : c.isAlpha) :
    lexer.pushToken c rest = lexer.pushPlain := by
  obtain ⟨-, noGap, noIndicator, -, unlisted⟩ := class_of_letter letter
  have noMark (sign : Char) (listed : sign ∈ signs) : isDocumentMark sign (c :: rest) = false :=
    isDocumentMark_of_ne (ne_of_letter letter listed)
  simp only [signs, List.mem_cons, not_or] at unlisted
  simp [pushToken, noMark '-' (by decide), noMark '.' (by decide), startsPlain, noGap,
    noIndicator, unlisted]

theorem pushToken_colon (lexer : Lexer) : lexer.pushToken ':' (' ' :: rest) = lexer.pushValue := by
  have noMark (sign : Char) (other : ':' ≠ sign) :
      isDocumentMark sign (':' :: ' ' :: rest) = false := isDocumentMark_of_ne other
  simp [pushToken, noMark '-' (by decide), noMark '.' (by decide), atEndOr, isGap]

/-- Nothing is passed over before the next token. -/
structure Settled (cursor : Cursor) : Prop where
  noMark : startsWith (· = '\uFEFF') cursor.rest = false
  noComment : cursor.skipSpaces.skipComment = cursor
  noBreak : cursor.lineBreak? = none

theorem settled_letter (letter : c.isAlpha) (index line column : Nat) :
    Settled ⟨c :: rest, index, line, column⟩ := by
  obtain ⟨noBreak, -⟩ := class_of_letter letter
  have notSpace : c ≠ ' ' := ne_of_letter letter (by decide)
  have notHash : c ≠ '#' := ne_of_letter letter (by decide)
  have noMark : c ≠ '\uFEFF' := ne_of_letter letter (by decide)
  refine ⟨by simp [startsWith, noMark], ?_, Cursor.lineBreak?_of_not_isBreak noBreak _ _ _⟩
  have stays : Cursor.skipSpaces ⟨c :: rest, index, line, column⟩ =
      ⟨c :: rest, index, line, column⟩ := by
    simp [Cursor.skipSpaces, Cursor.skipRun, Cursor.run, notSpace, Cursor.skip]
  rw [stays, Cursor.skipComment_of_ne notHash]

theorem settled_colon (index line column : Nat) : Settled ⟨':' :: rest, index, line, column⟩ :=
  ⟨rfl, rfl, rfl⟩

theorem settled_end (index line column : Nat) : Settled ⟨[], index, line, column⟩ :=
  ⟨rfl, rfl, rfl⟩

theorem skipGaps_settled (fuel : Nat) {lexer : Lexer} (settled : Settled lexer.cursor) :
    skipGaps (fuel + 1) lexer = lexer := by
  simp only [skipGaps, settled.noComment, settled.noBreak]

theorem toNextToken_settled {lexer : Lexer} (settled : Settled lexer.cursor) :
    lexer.toNextToken = lexer := by
  simp only [toNextToken, settled.noMark, Bool.and_false, Bool.false_eq_true, ↓reduceIte]
  exact skipGaps_settled _ settled

theorem unwind_of_le {lexer : Lexer} {column : Nat}
    (inside : ∀ block ∈ lexer.columns, block ≤ column) : lexer.unwind column = lexer := by
  have kept : lexer.columns.dropWhile (fun block => !decide (block ≤ column)) = lexer.columns := by
    cases columns : lexer.columns with
    | nil => rfl
    | cons block outer =>
      have : block ≤ column := inside block (by simp [columns])
      simp [this]
  have none : lexer.columns.takeWhile (fun block => !decide (block ≤ column)) = [] := by
    cases columns : lexer.columns with
    | nil => rfl
    | cons block outer =>
      have : block ≤ column := inside block (by simp [columns])
      simp [this]
  simp [unwind, kept, none]

theorem dropStaleKeys_of_fresh {lexer : Lexer}
    (fresh : ∀ key ∈ lexer.keys, lexer.isStale key = false) :
    lexer.dropStaleKeys = .ok lexer := by
  have kept : lexer.keys.filter (fun key => !lexer.isStale key) = lexer.keys := by
    apply List.filter_eq_self.mpr
    intro key waiting
    simp [fresh key waiting]
  have none : lexer.keys.any (fun key => lexer.isStale key && key.required) = false := by
    apply List.any_eq_false.mpr
    intro key waiting
    simp [fresh key waiting]
  simp [dropStaleKeys, kept, none]

/-- Where all keys are fresh and all blocks stay open, the next token is read at once. -/
theorem fetch_of_toNextToken {lexer reached : Lexer} (passes : lexer.toNextToken = reached)
    (fresh : ∀ key ∈ reached.keys, reached.isStale key = false)
    (inside : ∀ block ∈ reached.columns, block ≤ reached.cursor.column) :
    lexer.fetch =
      match reached.cursor.rest with
      | [] => reached.endStream
      | c :: rest => reached.pushToken c rest := by
  have kept := unwind_of_le inside
  unfold fetch
  rw [passes, dropStaleKeys_of_fresh fresh]
  cases rest : reached.cursor.rest <;> simp only [bind, Except.bind, kept, rest]

/-- The state in front of a line; blocks are open at the columns of `columns`. -/
def atLine (columns : List Nat) (taken : Nat) (cursor : Cursor) : Lexer :=
  ⟨cursor, 0, columns, true, [], taken, []⟩

/-- The state after a key, which waits for its colon. -/
def atColon (columns : List Nat) (taken : Nat) (key : List Char) (index line : Nat)
    (tail : List Char) : Lexer :=
  ⟨⟨':' :: ' ' :: tail, index + key.length, line, key.length⟩, 0, columns, false,
    [⟨taken, columns ≠ [], 0, index, line, 0⟩], taken, [.scalar (String.ofList key) true]⟩

/-- The state in front of a value, with some tokens that wait to be handed out. -/
def atValue (taken : Nat) (queue : List Token) (cursor : Cursor) : Lexer :=
  ⟨cursor, 0, [0], false, [], taken, queue⟩

/-- The tokens up to the value of a line: the first key opens a block. -/
def keyTokens (columns : List Nat) (key : List Char) : List Token :=
  (if columns = [] then [.blockMappingStart] else []) ++
    [.key, .scalar (String.ofList key) true, .value]

section

variable {key value tail : List Char} {columns : List Nat}

theorem pushPlain_key (letters : ∀ c ∈ key, c.isAlpha) (outer : columns = [] ∨ columns = [0])
    (taken index line : Nat) :
    (atLine columns taken ⟨key ++ ':' :: ' ' :: tail, index, line, 0⟩).pushPlain =
      .ok (atColon columns taken key index line tail) := by
  rcases outer with rfl | rfl
  · simp [pushPlain, saveKey, atLine, dropKey, inFlow, indent, readPlain_before_colon letters,
      atColon, pushAt, push, bind, Except.bind]
  · simp [pushPlain, saveKey, atLine, dropKey, inFlow, indent, readPlain_before_colon letters,
      atColon, pushAt, push, bind, Except.bind]

theorem fetch_key (letters : ∀ c ∈ key, c.isAlpha) (filled : key ≠ [])
    (outer : columns = [] ∨ columns = [0]) (taken index line : Nat) :
    (atLine columns taken ⟨key ++ ':' :: ' ' :: tail, index, line, 0⟩).fetch =
      .ok (atColon columns taken key index line tail) := by
  have pushes := @pushPlain_key key tail columns letters outer taken index line
  obtain ⟨c, more, rfl⟩ := List.exists_cons_of_ne_nil filled
  have letter : c.isAlpha := letters c List.mem_cons_self
  have settled : Settled (atLine columns taken
      ⟨c :: more ++ ':' :: ' ' :: tail, index, line, 0⟩).cursor := settled_letter letter _ _ _
  rw [fetch_of_toNextToken (toNextToken_settled settled) (by simp [atLine])
    (by rcases outer with rfl | rfl <;> simp [atLine])]
  exact (pushToken_letter _ letter).trans pushes

theorem fetch_colon (short : key.length ≤ keyLimit) (outer : columns = [] ∨ columns = [0])
    (taken index line : Nat) :
    (atColon columns taken key index line tail).fetch =
      .ok (atValue taken (keyTokens columns key)
        ⟨' ' :: tail, index + key.length + 1, line, key.length + 1⟩) := by
  have settled : Settled (atColon columns taken key index line tail).cursor :=
    settled_colon _ _ _
  rw [fetch_of_toNextToken (toNextToken_settled settled)
    (by
      simp [atColon, isStale]
      omega)
    (by rcases outer with rfl | rfl <;> simp [atColon])]
  refine (pushToken_colon _).trans ?_
  have passed : Cursor.next ⟨':' :: ' ' :: tail, index + key.length, line, key.length⟩ =
      ⟨' ' :: tail, index + key.length + 1, line, key.length + 1⟩ := rfl
  rcases outer with rfl | rfl
  · simp [atColon, pushValue, settleKey, insertBefore, inFlow, indent, pushAt, push, passed,
      atValue, keyTokens]
  · simp [atColon, pushValue, settleKey, insertBefore, inFlow, indent, pushAt, push, passed,
      atValue, keyTokens]

theorem pushPlain_value {atLineStart : Bool} {cursor after : Cursor} {taken : Nat}
    (reads : readPlain false 1 cursor = ⟨value, atLineStart, after⟩) :
    (atValue taken [] cursor).pushPlain =
      .ok ⟨after, 0, [0], atLineStart, [], taken, [.scalar (String.ofList value) true]⟩ := by
  simp [pushPlain, saveKey, atValue, inFlow, indent, reads, pushAt, push, bind, Except.bind]

/-- A value is read after one space. -/
theorem fetch_value (letters : ∀ c ∈ value, c.isAlpha) (filled : value ≠ []) {atLineStart : Bool}
    {after : Cursor} {taken index line column : Nat}
    (reads : readPlain false 1 ⟨value ++ tail, index + 1, line, column + 1⟩ =
      ⟨value, atLineStart, after⟩) :
    (atValue taken [] ⟨' ' :: (value ++ tail), index, line, column⟩).fetch =
      .ok ⟨after, 0, [0], atLineStart, [], taken, [.scalar (String.ofList value) true]⟩ := by
  obtain ⟨c, more, rfl⟩ := List.exists_cons_of_ne_nil filled
  have letter : c.isAlpha := letters c List.mem_cons_self
  have passes : (atValue taken [] ⟨' ' :: (c :: more ++ tail), index, line, column⟩).toNextToken =
      atValue taken [] ⟨c :: more ++ tail, index + 1, line, column + 1⟩ := by
    have notSpace : c ≠ ' ' := ne_of_letter letter (by decide)
    have spaces : Cursor.skipSpaces ⟨' ' :: (c :: more ++ tail), index, line, column⟩ =
        ⟨c :: more ++ tail, index + 1, line, column + 1⟩ := by
      simp [Cursor.skipSpaces, Cursor.skipRun, Cursor.run, notSpace, Cursor.skip, Cursor.next,
        isBreak]
    obtain ⟨noBreak, -⟩ := class_of_letter letter
    simp only [atValue, toNextToken, startsWith, skipGaps, List.cons_append] at spaces ⊢
    simp [spaces, Cursor.skipComment_of_ne (ne_of_letter letter (by decide)),
      Cursor.lineBreak?_of_not_isBreak noBreak]
  rw [fetch_of_toNextToken passes (by simp [atValue]) (by simp [atValue])]
  exact (pushToken_letter _ letter).trans (pushPlain_value reads)

/-- The end of the text closes the block of the lines. -/
theorem fetch_end (taken index line column : Nat) (allowsKey : Bool) :
    (⟨⟨[], index, line, column⟩, 0, [0], allowsKey, [], taken, []⟩ : Lexer).fetch =
      .ok ⟨⟨[], index, line, column⟩, 0, [], false, [], taken, [.blockEnd, .streamEnd]⟩ := by
  rw [fetch_of_toNextToken (toNextToken_settled (settled_end _ _ _)) (by simp) (by simp)]
  simp [endStream, unwind, inFlow, dropKey, push, bind, Except.bind]

end

/-! ## Runs -/

/-- Tokens that wait are handed out one by one when no key is looked for. -/
theorem tokensFrom_queue (fuel : Nat) {queue : List Token} (unended : .streamEnd ∉ queue)
    (cursor : Cursor) (columns : List Nat) (allowsKey : Bool) (taken : Nat) :
    tokensFrom (fuel + queue.length) ⟨cursor, 0, columns, allowsKey, [], taken, queue⟩ =
      queue ++ tokensFrom fuel ⟨cursor, 0, columns, allowsKey, [], taken + queue.length, []⟩ := by
  induction queue generalizing taken with
  | nil => rfl
  | cons token rest ih =>
    obtain ⟨notEnd, others⟩ : token ≠ .streamEnd ∧ .streamEnd ∉ rest := by
      simpa [eq_comm] using unended
    have fresh : dropStaleKeys ⟨cursor, 0, columns, allowsKey, [], taken, token :: rest⟩ =
        .ok ⟨cursor, 0, columns, allowsKey, [], taken, token :: rest⟩ :=
      dropStaleKeys_of_fresh (by simp)
    rw [List.length_cons, ← Nat.add_assoc, tokensFrom, fresh]
    simp only [notEnd, ↓reduceIte, isWaiting, List.any_nil, Bool.false_eq_true]
    rw [ih others, List.cons_append, Nat.add_assoc, Nat.add_comm 1]

theorem tokensFrom_fetch (fuel : Nat) {lexer next : Lexer} (none : lexer.queue = [])
    (fetched : lexer.fetch = .ok next) : tokensFrom (fuel + 1) lexer = tokensFrom fuel next := by
  rw [tokensFrom, none, fetched]

/-- The token in front of a colon waits until the colon has been read. -/
theorem tokensFrom_atColon (fuel : Nat) {columns : List Nat} {taken index line : Nat}
    {key tail : List Char} (short : key.length ≤ keyLimit) {next : Lexer}
    (fetched : (atColon columns taken key index line tail).fetch = .ok next) :
    tokensFrom (fuel + 1) (atColon columns taken key index line tail) = tokensFrom fuel next := by
  have fresh : (atColon columns taken key index line tail).dropStaleKeys =
      .ok (atColon columns taken key index line tail) := by
    apply dropStaleKeys_of_fresh
    simp [atColon, isStale]
    omega
  have waiting : (atColon columns taken key index line tail).isWaiting := by
    simp [isWaiting, atColon]
  rw [tokensFrom]
  simp only [fresh, waiting, fetched, ↓reduceIte]
  rfl

section

variable {key value tail : List Char} {columns : List Nat}

/-- One line: its key may open the block, and its value is read up to where the line ends. -/
theorem tokensFrom_line (fuel : Nat) (keyLetters : ∀ c ∈ key, c.isAlpha) (keyFilled : key ≠ [])
    (short : key.length ≤ keyLimit) (letters : ∀ c ∈ value, c.isAlpha) (filled : value ≠ [])
    (outer : columns = [] ∨ columns = [0]) {atLineStart : Bool} {after : Cursor}
    {taken index line : Nat}
    (reads : readPlain false 1
      ⟨value ++ tail, index + key.length + 1 + 1, line, key.length + 1 + 1⟩ =
        ⟨value, atLineStart, after⟩) :
    tokensFrom (fuel + 2 + (keyTokens columns key).length + 2)
      (atLine columns taken ⟨key ++ ':' :: ' ' :: (value ++ tail), index, line, 0⟩) =
      keyTokens columns key ++ .scalar (String.ofList value) true ::
        tokensFrom fuel ⟨after, 0, [0], atLineStart, [],
          taken + (keyTokens columns key).length + 1, []⟩ := by
  have unended : Token.streamEnd ∉ keyTokens columns key := by
    unfold keyTokens
    split <;> simp
  rw [tokensFrom_fetch _ rfl (fetch_key keyLetters keyFilled outer taken index line),
    tokensFrom_atColon _ short (fetch_colon short outer taken index line), atValue,
    tokensFrom_queue _ unended]
  have fetched := @fetch_value value tail letters filled atLineStart after
    (taken + (keyTokens columns key).length) _ _ _ reads
  refine congrArg _ ((tokensFrom_fetch _ rfl fetched).trans ?_)
  have single : Token.streamEnd ∉ [Token.scalar (String.ofList value) true] := by simp
  exact tokensFrom_queue fuel single after [0] atLineStart _

/-- At the end of the text, the block and the text are closed. -/
theorem tokensFrom_end (fuel taken index line column : Nat) (allowsKey : Bool) :
    tokensFrom (fuel + 3) ⟨⟨[], index, line, column⟩, 0, [0], allowsKey, [], taken, []⟩ =
      [.blockEnd, .streamEnd] := by
  rw [tokensFrom_fetch _ rfl (fetch_end taken index line column allowsKey)]
  simp [tokensFrom, dropStaleKeys, isWaiting]

end

end Lexer

/-! ## Lines -/

/-- A line of a key and a value. -/
structure Line where
  key : String
  value : String
deriving DecidableEq, Repr

namespace Line

/-- The characters of a line, without its break. -/
def chars (line : Line) : List Char :=
  line.key.toList ++ ':' :: ' ' :: line.value.toList

/-- The tokens of the pair that a line holds. -/
def tokens (line : Line) : List Token :=
  [.key, .scalar line.key true, .value, .scalar line.value true]

/-- The key and the value are words, and the key is not too long for one. -/
structure IsPlain (line : Line) : Prop where
  key : IsWord line.key
  value : IsWord line.value
  short : line.key.length ≤ keyLimit

end Line

theorem IsWord.ne_nil {word : String} (isWord : IsWord word) : word.toList ≠ [] := by
  obtain ⟨c, rest, parts, -⟩ := isWord.exists_cons
  simp [parts]

theorem keyTokens_line (columns : List Nat) (line : Line) (rest : List Token) :
    Lexer.keyTokens columns line.key.toList ++
        .scalar (String.ofList line.value.toList) true :: rest =
      (if columns = [] then [.blockMappingStart] else []) ++ line.tokens ++ rest := by
  simp [Lexer.keyTokens, Line.tokens]

/-- The lines of a block, from the start of the first one to the end of the text. -/
theorem tokensFrom_lines {lines : List Line} (some : lines ≠ [])
    (plain : ∀ line ∈ lines, line.IsPlain) {columns : List Nat}
    (outer : columns = [] ∨ columns = [0]) {fuel : Nat} (enough : 8 * lines.length + 3 ≤ fuel)
    (taken index number : Nat) :
    Lexer.tokensFrom fuel (Lexer.atLine columns taken
        ⟨Text.joinLineChars (lines.map Line.chars), index, number, 0⟩) =
      (if columns = [] then [.blockMappingStart] else []) ++ lines.flatMap Line.tokens ++
        [.blockEnd, .streamEnd] := by
  induction lines generalizing columns fuel taken index number with
  | nil => exact absurd rfl some
  | cons line others ih =>
    obtain ⟨isPlain, plainOthers⟩ := List.forall_mem_cons.mp plain
    have count : (Lexer.keyTokens columns line.key.toList).length ≤ 4 := by
      unfold Lexer.keyTokens
      split <;> simp
    obtain ⟨rest, rfl⟩ : ∃ rest,
        fuel = rest + 2 + (Lexer.keyTokens columns line.key.toList).length + 2 :=
      ⟨fuel - 4 - (Lexer.keyTokens columns line.key.toList).length, by
        rw [List.length_cons] at enough
        omega⟩
    rw [List.length_cons] at enough
    cases others with
    | nil =>
      have reads := readPlain_at_end isPlain.value.2
        (index + line.key.toList.length + 1 + 1) number (line.key.toList.length + 1 + 1) 1
        isPlain.value.ne_nil
      have first := @Lexer.tokensFrom_line line.key.toList line.value.toList [] columns rest
        isPlain.key.2 isPlain.key.ne_nil isPlain.short isPlain.value.2 isPlain.value.ne_nil outer
        false _ taken index number (by rw [List.append_nil]; exact reads)
      obtain ⟨left, rfl⟩ : ∃ left, rest = left + 3 := ⟨rest - 3, by omega⟩
      rw [List.append_nil, Lexer.tokensFrom_end, keyTokens_line] at first
      simpa [Text.joinLineChars, Line.chars] using first
    | cons next more =>
      obtain ⟨isPlainNext, -⟩ := List.forall_mem_cons.mp plainOthers
      obtain ⟨c, tail, parts, letter, -⟩ := isPlainNext.key.exists_cons
      obtain ⟨further, front⟩ : ∃ further,
          Text.joinLineChars ((next :: more).map Line.chars) = c :: further := by
        cases more <;> simp [Text.joinLineChars, Line.chars, parts]
      have reads := @readPlain_before_line line.value.toList further isPlain.value.2
        (index + line.key.toList.length + 1 + 1) number (line.key.toList.length + 1 + 1) 1 c letter
        (by decide)
      have first := @Lexer.tokensFrom_line line.key.toList line.value.toList ('\n' :: c :: further)
        columns rest isPlain.key.2 isPlain.key.ne_nil isPlain.short isPlain.value.2
        isPlain.value.ne_nil outer true _ taken index number reads
      have enoughRest : 8 * (next :: more).length + 3 ≤ rest := by omega
      have others := ih (by simp) plainOthers (Or.inr rfl) enoughRest
        (taken + (Lexer.keyTokens columns line.key.toList).length + 1)
        (index + line.key.toList.length + 1 + 1 + line.value.toList.length + 1) (number + 1)
      rw [front] at others
      rw [Lexer.atLine] at others
      rw [others, keyTokens_line] at first
      have joined : Text.joinLineChars ((line :: next :: more).map Line.chars) =
          line.key.toList ++ ':' :: ' ' :: (line.value.toList ++ '\n' :: c :: further) := by
        rw [← front]
        simp [Text.joinLineChars, Line.chars]
      rw [joined, first]
      simp

/-! ## Documents -/

namespace Lexer

/-- The mark of a document is read first, and the line after it is read as if it were the first. -/
theorem tokensFrom_mark {fuel : Nat} {c : Char} {rest : List Char} (letter : c.isAlpha) :
    tokensFrom (fuel + 3) (start ("---".toList ++ '\n' :: c :: rest)) =
      .documentStart :: tokensFrom (fuel + 1) (atLine [] 1 ⟨c :: rest, 4, 1, 0⟩) := by
  have settled : Settled (start ("---".toList ++ '\n' :: c :: rest)).cursor := ⟨rfl, rfl, rfl⟩
  have marked : (start ("---".toList ++ '\n' :: c :: rest)).fetch =
      .ok ⟨⟨'\n' :: c :: rest, 3, 0, 3⟩, 0, [], false, [], 0, [.documentStart]⟩ := by
    rw [fetch_of_toNextToken (toNextToken_settled settled) (by simp [start]) (by simp [start])]
    simp [start, Cursor.start, pushToken, isDocumentMark, atEndOr, isGap, isBreak,
      pushDocumentMark, unwind, inFlow, dropKey, pushAt, push, Cursor.skip, Cursor.next, bind,
      Except.bind]
  have single : Token.streamEnd ∉ [Token.documentStart] := by simp
  rw [tokensFrom_fetch _ rfl marked]
  refine (tokensFrom_queue (fuel + 1) single _ [] false 0).trans (congrArg _ ?_)
  -- Both states reach the first key with nothing in the queue.
  have passes : toNextToken ⟨⟨'\n' :: c :: rest, 3, 0, 3⟩, 0, [], false, [], 1, []⟩ =
      atLine [] 1 ⟨c :: rest, 4, 1, 0⟩ := by
    have settled : Settled (atLine [] 1 ⟨c :: rest, 4, 1, 0⟩).cursor := settled_letter letter _ _ _
    exact skipGaps_settled _ settled
  have fetched : fetch ⟨⟨'\n' :: c :: rest, 3, 0, 3⟩, 0, [], false, [], 1, []⟩ =
      (atLine [] 1 ⟨c :: rest, 4, 1, 0⟩).fetch := by
    have settled : Settled (atLine [] 1 ⟨c :: rest, 4, 1, 0⟩).cursor := settled_letter letter _ _ _
    rw [fetch_of_toNextToken passes (by simp [atLine]) (by simp [atLine]),
      fetch_of_toNextToken (toNextToken_settled settled) (by simp [atLine]) (by simp [atLine])]
  simp only [tokensFrom, atLine] at fetched ⊢
  simp [fetched]

end Lexer

/-- The text of a document: its mark and its lines, without a break at the end. -/
def documentChars (lines : List Line) : List Char :=
  Text.joinLineChars ("---".toList :: lines.map Line.chars)

theorem length_le_joinLineChars (lines : List Line) :
    lines.length ≤ (Text.joinLineChars (lines.map Line.chars)).length := by
  induction lines with
  | nil => exact Nat.zero_le _
  | cons line others ih =>
    cases others with
    | nil =>
      simp [Text.joinLineChars, Line.chars]
      omega
    | cons next more =>
      simp only [List.map_cons, Text.joinLineChars, List.length_append, List.length_cons] at ih ⊢
      omega

theorem forall_mem_joinLineChars {p : Char → Prop} {lines : List (List Char)}
    (within : ∀ line ∈ lines, ∀ c ∈ line, p c) (between : p '\n') :
    ∀ c ∈ Text.joinLineChars lines, p c := by
  induction lines with
  | nil => simp [Text.joinLineChars]
  | cons line others ih =>
    obtain ⟨first, rest⟩ := List.forall_mem_cons.mp within
    cases others with
    | nil => exact first
    | cons next more =>
      simp only [Text.joinLineChars, List.forall_mem_append, List.forall_mem_cons]
      exact ⟨first, between, ih rest⟩

/-- The characters of a line are letters, a colon and a space. -/
theorem Line.IsPlain.forall_mem_chars {line : Line} (plain : line.IsPlain) {p : Char → Prop}
    (letters : ∀ c, c.isAlpha → p c) (colon : p ':') (space : p ' ') : ∀ c ∈ line.chars, p c := by
  simp only [Line.chars, List.forall_mem_append, List.forall_mem_cons]
  exact ⟨fun c member => letters c (plain.key.2 c member), colon, space,
    fun c member => letters c (plain.value.2 c member)⟩

theorem isAllowed_documentChars {lines : List Line} (plain : ∀ line ∈ lines, line.IsPlain) :
    (documentChars lines).all isAllowed := by
  apply List.all_eq_true.mpr
  apply forall_mem_joinLineChars
  · intro chars listed
    rcases List.mem_cons.mp listed with rfl | listed
    · exact List.all_eq_true.mp (by decide)
    obtain ⟨line, member, rfl⟩ := List.mem_map.mp listed
    have allowed (c : Char) (letter : c.isAlpha) : isAllowed c := by
      obtain ⟨-, -, -, allowed, -⟩ := class_of_letter letter
      exact allowed
    exact (plain line member).forall_mem_chars allowed (by decide) (by decide)
  · decide

/-- The tokens of a document of lines: each line is a pair of one mapping. -/
theorem tokensOf_lines {lines : List Line} (some : lines ≠ [])
    (plain : ∀ line ∈ lines, line.IsPlain) :
    tokensOf (documentChars lines) =
      .documentStart :: .blockMappingStart :: lines.flatMap Line.tokens ++
        [.blockEnd, .streamEnd] := by
  obtain ⟨line, others, rfl⟩ := List.exists_cons_of_ne_nil some
  obtain ⟨c, tail, parts, letter, -⟩ := (plain line List.mem_cons_self).key.exists_cons
  obtain ⟨rest, front⟩ : ∃ rest,
      Text.joinLineChars ((line :: others).map Line.chars) = c :: rest := by
    cases others <;> simp [Text.joinLineChars, Line.chars, parts]
  have whole : documentChars (line :: others) = "---".toList ++ '\n' :: c :: rest := by
    rw [← front]
    rfl
  have counted := length_le_joinLineChars (line :: others)
  rw [front] at counted
  rw [tokensOf, if_pos (isAllowed_documentChars plain), whole]
  have fuel : 8 * (("---".toList ++ '\n' :: c :: rest).length + 2) =
      (8 * (c :: rest).length + 45) + 3 := by
    simp
    omega
  have enough : 8 * (line :: others).length + 3 ≤ 8 * (c :: rest).length + 45 + 1 := by omega
  have run := tokensFrom_lines some plain (Or.inl rfl) enough 1 4 1
  rw [front] at run
  rw [fuel, Lexer.tokensFrom_mark letter, run]
  simp

end MemberDocs.Yaml
