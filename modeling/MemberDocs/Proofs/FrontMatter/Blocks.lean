import MemberDocs.FrontMatter.Search
import MemberDocs.Proofs.Text.Lines
import MemberDocs.Proofs.Text.Utf8

/-! # Blocks as they are written

A file that holds a block is read as the block (`ofBytes?_bytes`), whichever line ending its lines have,
with or without a byte order mark, and whatever bytes come after the hyphens of its closing line. Where
the first line of a file does not start with hyphens, nothing is read (`ofBytes?_eq_none_iff`).
`blocks_are_read_as_written` puts both together for the file that a path leads to.
-/

namespace MemberDocs

/-! ## Lines with their endings -/

namespace Text

/-- How the lines of a file end. -/
inductive LineEnding where
  | lineFeed
  | returnAndFeed
  | carriageReturn
deriving DecidableEq, Repr

def LineEnding.text : LineEnding → String
  | lineFeed => "\n"
  | returnAndFeed => "\r\n"
  | carriageReturn => "\r"

/-- Lines one after the other, each with the ending. -/
def LineEnding.close (ending : LineEnding) (lines : List String) : String :=
  String.join (lines.map (· ++ ending.text))

/-- A line in which nothing reads as a line ending. -/
def IsUnbroken (line : String) : Prop :=
  '\n' ∉ line.toList ∧ '\r' ∉ line.toList

variable {ending : LineEnding} {line : String} {lines : List String} {rest : List Char}

theorem LineEnding.toList_close_cons :
    (ending.close (line :: lines)).toList =
      line.toList ++ (ending.text.toList ++ (ending.close lines).toList) := by
  simp [close, String.join_cons, String.toList_append]

/-- Lines that end in a return do not start with a line feed. -/
theorem LineEnding.head?_close_ne (unbroken : ∀ line ∈ lines, IsUnbroken line)
    (starts : rest.head? ≠ some '\n') :
    ((carriageReturn.close lines).toList ++ rest).head? ≠ some '\n' := by
  cases lines with
  | nil => exact starts
  | cons line others =>
    obtain ⟨⟨noFeed, -⟩, -⟩ := List.forall_mem_cons.mp unbroken
    rw [toList_close_cons]
    cases chars : line.toList with
    | nil => simp [LineEnding.text]
    | cons c more =>
      rw [chars] at noFeed
      rintro ⟨⟩
      exact noFeed List.mem_cons_self

theorem LineEnding.unifyChars_text (single : ending = carriageReturn → rest.head? ≠ some '\n') :
    unifyChars (ending.text.toList ++ rest) = '\n' :: unifyChars rest := by
  cases ending with
  | lineFeed => exact unifyChars_cons (by decide) rest
  | returnAndFeed => exact unifyChars_break rest
  | carriageReturn => exact unifyChars_return (single rfl)

/-- Unifying the breaks of a text leaves its lines as they are, with line feeds after them. -/
theorem LineEnding.unifyChars_close (unbroken : ∀ line ∈ lines, IsUnbroken line)
    (starts : rest.head? ≠ some '\n') :
    unifyChars ((ending.close lines).toList ++ rest) =
      (lineFeed.close lines).toList ++ unifyChars rest := by
  induction lines with
  | nil => rfl
  | cons line others ih =>
    obtain ⟨⟨-, noReturn⟩, later⟩ := List.forall_mem_cons.mp unbroken
    have single : ending = carriageReturn →
        ((ending.close others).toList ++ rest).head? ≠ some '\n' := by
      rintro rfl
      exact head?_close_ne later starts
    simp only [toList_close_cons, List.append_assoc]
    rw [unifyChars_append noReturn, unifyChars_text single, ih later]
    rfl

theorem linesOfChars_close (unbroken : ∀ line ∈ lines, IsUnbroken line) :
    linesOfChars ((LineEnding.lineFeed.close lines).toList ++ rest) =
      lines.map String.toList ++ linesOfChars rest := by
  induction lines with
  | nil => rfl
  | cons line others ih =>
    obtain ⟨⟨noFeed, -⟩, later⟩ := List.forall_mem_cons.mp unbroken
    rw [LineEnding.toList_close_cons, List.append_assoc]
    exact (linesOfChars_append noFeed _).trans (congrArg (line.toList :: ·) (ih later))

theorem joinLines_eq (lines : List String) :
    joinLines lines = String.ofList (joinLineChars (lines.map String.toList)) := by
  apply String.toList_inj.mp
  rw [joinLines, String.toList_ofList, String.toList_intercalate]
  induction lines with
  | nil => rfl
  | cons line others ih =>
    cases others with
    | nil => simp [joinLineChars]
    | cons next more =>
      rw [List.map_cons, List.map_cons, List.intercalate_cons_cons, ← List.map_cons, ih]
      simp [joinLineChars]

/-- The characters up to the first line ending. -/
def firstLine (text : List Char) : List Char :=
  text.takeWhile fun c => c ≠ '\n' ∧ c ≠ '\r'

theorem exists_linesOfChars_unifyChars (text : List Char) :
    ∃ others, linesOfChars (unifyChars text) = firstLine text :: others := by
  fun_induction unifyChars text with
  | case1 => exact ⟨[], rfl⟩
  | case2 rest => exact ⟨linesOfChars (unifyChars rest), rfl⟩
  | case3 c rest _ ih =>
    obtain ⟨others, split⟩ := ih
    by_cases isReturn : c = '\r'
    · exact ⟨linesOfChars (unifyChars rest), by simp [isReturn, linesOfChars, firstLine]⟩
    · by_cases isFeed : c = '\n'
      · exact ⟨linesOfChars (unifyChars rest), by simp [isFeed, linesOfChars, firstLine]⟩
      · exact ⟨others, by simp [isReturn, isFeed, linesOfChars, split, firstLine]⟩

end Text

/-! ## What is read from lines -/

namespace FrontMatter

/-- A break at the end of a file ends its last line and starts no other. -/
theorem exists_fileLines {text line : List Char} {front others : List (List Char)}
    (pieces : Text.linesOfChars text = front ++ line :: others) (filled : line ≠ []) :
    ∃ later, fileLines text = front ++ line :: later := by
  unfold fileLines
  rw [pieces]
  dsimp only
  split
  next last =>
    cases others with
    | nil => exact absurd (by simpa using last) filled
    | cons next more => exact ⟨(next :: more).dropLast, by simp⟩
  next => exact ⟨others, rfl⟩

theorem ne_nil_of_isDelimiter {line : List Char} (delimiter : isDelimiter line) : line ≠ [] := by
  rintro rfl
  cases delimiter

/-- The block of lines is the opening one and those before the first other delimiter. -/
theorem ofLines?_append {opening : List Char} {lines closing : List (List Char)}
    (opens : isDelimiter opening) (inside : ∀ line ∈ lines, isDelimiter line = false)
    (closes : ∀ line ∈ closing.head?, isDelimiter line) :
    Block.ofLines? (opening :: (lines ++ closing)) =
      some ⟨String.ofList (Text.joinLineChars (opening :: lines)), lines.isEmpty⟩ := by
  have taken : (lines ++ closing).takeWhile (!isDelimiter ·) = lines := by
    have others : ∀ line ∈ lines, (!isDelimiter line) = true := by
      intro line listed
      rw [inside line listed, Bool.not_false]
    rw [List.takeWhile_append_of_pos others]
    cases closing with
    | nil => exact List.append_nil lines
    | cons line more =>
      have closed : isDelimiter line := closes line rfl
      rw [List.takeWhile_cons_of_neg (by simp [closed]), List.append_nil]
  rw [Block.ofLines?, if_pos opens, taken]

/-- Nothing is read where the first line is no delimiter. -/
theorem ofLines?_fileLines_eq_none_iff {text line : List Char} {others : List (List Char)}
    (pieces : Text.linesOfChars text = line :: others) :
    Block.ofLines? (fileLines text) = none ↔ isDelimiter line = false := by
  cases delimiter : isDelimiter line with
  | true =>
    obtain ⟨later, whole⟩ :=
      @exists_fileLines text line [] others pieces (ne_nil_of_isDelimiter delimiter)
    rw [whole, List.nil_append, Block.ofLines?, if_pos delimiter]
    simp
  | false =>
    have kept : Block.ofLines? (line :: others) = none := by
      rw [Block.ofLines?, if_neg (by simp [delimiter])]
    have shortened : Block.ofLines? (line :: others).dropLast = none := by
      cases others with
      | nil => rfl
      | cons next more =>
        rw [List.dropLast_cons_cons, Block.ofLines?, if_neg (by simp [delimiter])]
    unfold fileLines
    rw [pieces]
    dsimp only
    split
    · simp [shortened]
    · simp [kept]

/-! ## Blocks in files -/

/-- A block in a file: an opening line, lines that do not close it, and a closing line or the end of
the file. -/
structure WrittenBlock where
  /-- The file starts with a byte order mark. -/
  marked : Bool
  ending : Text.LineEnding
  opening : String
  lines : List String
  /-- All that the file holds after the hyphens of the closing line, if there is one. -/
  afterHyphens : Option (List UInt8)
  opens : isDelimiter opening.toList
  inside : ∀ line ∈ lines, isDelimiter line.toList = false
  unbroken : ∀ line ∈ opening :: lines, Text.IsUnbroken line

namespace WrittenBlock

variable (written : WrittenBlock)

/-- The closing line with what follows it. -/
def tail : List UInt8 :=
  match written.afterHyphens with
  | none => []
  | some rest => Text.encodeUtf8 "---" ++ rest

/-- The bytes of the file. -/
def bytes : List UInt8 :=
  (if written.marked then [0xEF, 0xBB, 0xBF] else []) ++
    (Text.encodeUtf8 (written.ending.close (written.opening :: written.lines)) ++ written.tail)

def block : Block :=
  ⟨Text.joinLines (written.opening :: written.lines), written.lines.isEmpty⟩

theorem dropByteOrderMark_bytes :
    Text.dropByteOrderMark written.bytes =
      Text.encodeUtf8 (written.ending.close (written.opening :: written.lines)) ++
        written.tail := by
  obtain ⟨more, starts⟩ := List.isPrefixOf_iff_prefix.mp written.opens
  unfold bytes
  cases written.marked with
  | true => rfl
  | false =>
    rw [Text.encodeUtf8, Text.LineEnding.toList_close_cons, ← starts]
    rfl

/-- The closing line starts with hyphens, and its bytes up to there are read as they are. -/
theorem decodeUtf8Lenient_tail :
    Text.decodeUtf8Lenient written.tail = [] ∨
      ∃ rest, Text.decodeUtf8Lenient written.tail = "---".toList ++ rest := by
  unfold tail
  cases written.afterHyphens with
  | none => exact Or.inl rfl
  | some rest => exact Or.inr ⟨_, Text.decodeUtf8Lenient_append "---" rest⟩

/-- The lines of the file are those of the block and, if it is closed, others. -/
theorem exists_fileLines_bytes :
    ∃ closing : List (List Char), (∀ line ∈ closing.head?, isDelimiter line) ∧
      fileLines (Text.unifyChars
          (Text.decodeUtf8Lenient (Text.dropByteOrderMark written.bytes))) =
        written.opening.toList :: (written.lines.map String.toList ++ closing) := by
  rw [dropByteOrderMark_bytes, Text.decodeUtf8Lenient_append]
  rcases written.decodeUtf8Lenient_tail with ended | ⟨rest, closed⟩
  · refine ⟨[], by simp, ?_⟩
    rw [ended, Text.LineEnding.unifyChars_close written.unbroken (by simp), fileLines,
      Text.linesOfChars_close written.unbroken, Text.unifyChars_nil, Text.linesOfChars,
      List.getLast?_concat, if_pos rfl, List.dropLast_concat, List.map_cons, List.append_nil]
  · rw [closed, Text.LineEnding.unifyChars_close written.unbroken (by simp),
      Text.unifyChars_append (by decide)]
    obtain ⟨piece, others, split⟩ :=
      List.exists_cons_of_ne_nil (Text.linesOfChars_ne_nil (Text.unifyChars rest))
    have pieces : Text.linesOfChars
        ((Text.LineEnding.lineFeed.close (written.opening :: written.lines)).toList ++
          ("---".toList ++ Text.unifyChars rest)) =
        (written.opening :: written.lines).map String.toList ++
          ("---".toList ++ piece) :: others := by
      rw [Text.linesOfChars_close written.unbroken]
      simp [Text.linesOfChars, split]
    obtain ⟨later, whole⟩ := exists_fileLines pieces (by simp)
    refine ⟨("---".toList ++ piece) :: later, ?_, whole⟩
    intro line first
    obtain rfl : "---".toList ++ piece = line := by simpa using first
    simp [isDelimiter]

/-- The bytes of a written block are read as the block. -/
theorem ofBytes?_bytes : Block.ofBytes? written.bytes = some written.block := by
  obtain ⟨closing, closes, whole⟩ := written.exists_fileLines_bytes
  have inside : ∀ line ∈ written.lines.map String.toList, isDelimiter line = false := by
    intro line listed
    obtain ⟨text, member, rfl⟩ := List.mem_map.mp listed
    exact written.inside text member
  rw [Block.ofBytes?, whole, ofLines?_append written.opens inside closes, block,
    Text.joinLines_eq]
  simp

end WrittenBlock

/-- Nothing is read exactly where the first line does not start with hyphens. -/
theorem ofBytes?_eq_none_iff {bytes : List UInt8} :
    Block.ofBytes? bytes = none ↔ isDelimiter
      (Text.firstLine (Text.decodeUtf8Lenient (Text.dropByteOrderMark bytes))) = false := by
  obtain ⟨others, pieces⟩ := Text.exists_linesOfChars_unifyChars
    (Text.decodeUtf8Lenient (Text.dropByteOrderMark bytes))
  exact ofLines?_fileLines_eq_none_iff pieces

/-- **Blocks are read as they are written.** A file that holds a block is read as the block. A file
of which the first line does not start with hyphens has none, and only such a file. Whatever its bytes
are, a file is read. -/
theorem blocks_are_read_as_written {volume : Volume} {directory : Location} {path : Path}
    {bytes : List UInt8} (read : volume.read directory path = .ok bytes) :
    (∀ written : WrittenBlock, written.bytes = bytes →
      readBlock volume directory path = .ok (some written.block)) ∧
    (readBlock volume directory path = .ok none ↔ isDelimiter
      (Text.firstLine (Text.decodeUtf8Lenient (Text.dropByteOrderMark bytes))) = false) ∧
    ∃ found, readBlock volume directory path = .ok found := by
  have result : readBlock volume directory path = .ok (Block.ofBytes? bytes) := by
    rw [readBlock, read]
    rfl
  refine ⟨?_, ?_, _, result⟩
  · rintro written rfl
    rw [result, written.ofBytes?_bytes]
  · rw [result, Except.ok.injEq, ofBytes?_eq_none_iff]

/-- A block with an empty line, a letter of two bytes and hyphens that are indented; a byte that means
no character comes after its closing hyphens. -/
def noticeBlock : WrittenBlock where
  marked := true
  ending := .carriageReturn
  opening := "--- notice"
  lines := ["", "title: é", " ---"]
  afterHyphens := some [0xFF, 0x0D, 0x41]
  opens := by decide
  inside := by decide
  unbroken := by simp [Text.IsUnbroken]

/-- The block is all that is read of a file. -/
theorem notice_is_read :
    readBlock ⟨[(["a.md"], .file noticeBlock.bytes)]⟩ [] ⟨.relative, ["a.md"]⟩ =
      .ok (some ⟨"--- notice\n\ntitle: é\n ---", false⟩) := by
  have read : Volume.read ⟨[(["a.md"], .file noticeBlock.bytes)]⟩ [] ⟨.relative, ["a.md"]⟩ =
      .ok noticeBlock.bytes := rfl
  obtain ⟨whole, -⟩ := blocks_are_read_as_written read
  exact whole noticeBlock rfl

end FrontMatter

end MemberDocs
