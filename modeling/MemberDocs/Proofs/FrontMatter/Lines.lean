import MemberDocs.Proofs.FrontMatter.Blocks
import MemberDocs.Proofs.Yaml.Mapping

/-! # Front matter of lines

Front matter whose lines are a word, a colon and a word means what its last lines with the two known
keys say (`lines_say_options`), whatever the other lines are, and whatever bytes come after the
closing mark. The block is the opening mark with the lines (`ofBytes?_lines`), and that is a YAML
document which is read as a mapping (`Yaml.ofText_lines`).
-/

namespace MemberDocs.FrontMatter

open Yaml (Line IsWord documentChars lastLine? wordScalar)

/-- The front of a file: the opening mark, lines and the closing mark. -/
def frontText (lines : List Line) : String :=
  "---\n" ++ String.join (lines.map fun line => line.key ++ ": " ++ line.value ++ "\n") ++ "---"

variable {lines : List Line}

/-! ## The block -/

theorem not_mem_chars {line : Line} (plain : line.IsPlain) {c : Char} (other : ¬ c.isAlpha)
    (signs : c ≠ ':' ∧ c ≠ ' ') : c ∉ line.chars := by
  intro member
  refine plain.forall_mem_chars (p := fun d => d ≠ c) ?_ (Ne.symm signs.1) (Ne.symm signs.2) c
    member rfl
  rintro d letter rfl
  exact other letter

theorem not_isDelimiter_chars {line : Line} (plain : line.IsPlain) :
    isDelimiter line.chars = false := by
  obtain ⟨c, rest, parts, letter, -⟩ := plain.key.exists_cons
  have other : c ≠ '-' := Yaml.ne_of_letter letter (by decide)
  have unlike : ('-' == c) = false := by simpa using Ne.symm other
  simp [isDelimiter, Line.chars, parts, List.isPrefixOf, unlike]

/-- The front of a file as a written block. -/
def writtenLines (plain : ∀ line ∈ lines, line.IsPlain) (tail : List UInt8) : WrittenBlock where
  marked := false
  ending := .lineFeed
  opening := "---"
  lines := lines.map fun line => String.ofList line.chars
  afterHyphens := some tail
  opens := by decide
  inside := by
    intro text listed
    obtain ⟨line, member, rfl⟩ := List.mem_map.mp listed
    rw [String.toList_ofList]
    exact not_isDelimiter_chars (plain line member)
  unbroken := by
    rw [List.forall_mem_cons]
    refine ⟨⟨by decide, by decide⟩, ?_⟩
    intro text listed
    obtain ⟨line, member, rfl⟩ := List.mem_map.mp listed
    rw [Text.IsUnbroken, String.toList_ofList]
    exact ⟨not_mem_chars (plain line member) (by decide) (by decide),
      not_mem_chars (plain line member) (by decide) (by decide)⟩

theorem bytes_writtenLines (plain : ∀ line ∈ lines, line.IsPlain) (tail : List UInt8) :
    (writtenLines plain tail).bytes = Text.encodeUtf8 (frontText lines) ++ tail := by
  have each : (lines.map fun line => String.ofList line.chars).map (· ++ "\n") =
      lines.map fun line => line.key ++ ": " ++ line.value ++ "\n" := by
    rw [List.map_map]
    refine List.map_congr_left fun line _ => String.toList_inj.mp ?_
    simp [Line.chars]
  have whole : (Text.LineEnding.lineFeed.close
      ("---" :: lines.map fun line => String.ofList line.chars)) ++ "---" = frontText lines := by
    rw [Text.LineEnding.close, List.map_cons, String.join_cons, Text.LineEnding.text, each]
    rfl
  rw [← whole]
  simp [WrittenBlock.bytes, WrittenBlock.tail, writtenLines, Text.encodeUtf8]

/-- The block of a file is its opening mark with the lines before the closing one. -/
theorem ofBytes?_lines (filled : lines ≠ []) (plain : ∀ line ∈ lines, line.IsPlain)
    (tail : List UInt8) :
    Block.ofBytes? (Text.encodeUtf8 (frontText lines) ++ tail) =
      some ⟨String.ofList (documentChars lines), false⟩ := by
  rw [← bytes_writtenLines plain tail, WrittenBlock.ofBytes?_bytes, WrittenBlock.block,
    Text.joinLines_eq]
  simp [writtenLines, documentChars, filled, Function.comp_def]

/-! ## The options -/

/-- The options that lines say: only the last line with each of the two keys counts. -/
structure Options.SaidBy (options : Options) (lines : List Line) : Prop where
  merges : options.mergeXmlComments ↔ ∃ line, lastLine? lines mergeKey = some line ∧
    (line.value.toLower ∈ ["true", "yes"] ∨ line.value ∈ ["on", "On", "ON"])
  everyTag : options.allowedTags = some .everyTag ↔ ∃ line,
    lastLine? lines allowedTagsKey = some line ∧ line.value.toLower = "all"
  knownTags : options.allowedTags = some .knownTags ↔ ∃ line,
    lastLine? lines allowedTagsKey = some line ∧ line.value.toLower = "none"

theorem lastLine?_mem {key : String} {line : Line} (last : lastLine? lines key = some line) :
    line ∈ lines := by
  simpa using List.mem_of_find?_eq_some last

theorem exists_unknownKeys {entries : List Yaml.Entry}
    (words : ∀ entry ∈ entries, ∃ word, entry.key = wordScalar word) :
    ∃ unknown, unknownKeys entries = .ok unknown := by
  have texts : ∃ texts, (entries.filter fun entry =>
      entry.key ≠ .str mergeKey && entry.key ≠ .str allowedTagsKey).mapM
        (fun entry => entry.key.text) = .ok texts := by
    generalize kept : entries.filter _ = others
    have among : ∀ entry ∈ others, ∃ word, entry.key = wordScalar word := by
      intro entry listed
      rw [← kept] at listed
      exact words entry (List.mem_of_mem_filter listed)
    clear kept words
    induction others with
    | nil => exact ⟨[], rfl⟩
    | cons entry rest ih =>
      obtain ⟨⟨word, key⟩, later⟩ := List.forall_mem_cons.mp among
      obtain ⟨text, written⟩ := Yaml.exists_text_wordScalar word
      obtain ⟨texts, all⟩ := ih later
      refine ⟨text :: texts, ?_⟩
      rw [mapM_cons_eq, key, written, all]
      rfl
  obtain ⟨texts, all⟩ := texts
  exact ⟨_, by rw [unknownKeys, all]⟩

/-- The options in a document of lines are those that its lines say. -/
theorem exists_options_of_lines (filled : lines ≠ []) (plain : ∀ line ∈ lines, line.IsPlain) :
    ∃ options unknown, Options.ofText (String.ofList (documentChars lines)) =
      .ok (options, unknown) ∧ options.SaidBy lines := by
  obtain ⟨data, entries, built, root, words, under⟩ := Yaml.ofText_lines filled plain
  obtain ⟨unknown, keys⟩ := exists_unknownKeys words
  have merge := under mergeKey (by decide) (by decide)
  have allowed := under allowedTagsKey (by decide) (by decide)
  have parsed : Options.ofText (String.ofList (documentChars lines)) =
      .ok (⟨((data.valueOf entries mergeKey).flag?).getD false,
        AllowedTags.ofObject? (data.valueOf entries allowedTagsKey)⟩, unknown) := by
    simp only [Options.ofText, String.toList_ofList, built, Except.mapError, bind, Except.bind,
      root, keys]
  refine ⟨_, unknown, parsed, ?_, ?_, ?_⟩
  · rw [merge]
    cases last : lastLine? lines mergeKey with
    | none => simp [Yaml.Object.flag?]
    | some line =>
      have meaning := Yaml.flag?_wordScalar (plain line (lastLine?_mem last)).value
      simp only [Option.map_some, Option.getD_some, Option.some.injEq, exists_eq_left', ← meaning]
      cases (Yaml.Object.scalar (wordScalar line.value)).flag? <;> simp
  · rw [allowed]
    cases last : lastLine? lines allowedTagsKey with
    | none => simp [AllowedTags.ofObject?, Yaml.Object.word?]
    | some line =>
      obtain ⟨everyTag, -⟩ := Yaml.ofObject?_wordScalar (plain line (lastLine?_mem last)).value
      simpa using everyTag
  · rw [allowed]
    cases last : lastLine? lines allowedTagsKey with
    | none => simp [AllowedTags.ofObject?, Yaml.Object.word?]
    | some line =>
      obtain ⟨-, knownTags⟩ := Yaml.ofObject?_wordScalar (plain line (lastLine?_mem last)).value
      simpa using knownTags

/-- **Front matter of lines.** A file with an opening mark, lines of a word, a colon and a word, and a
closing mark has a block that is not empty, whatever its other bytes are, and the options in it are
those that the last lines with the two known keys say. -/
theorem lines_say_options {volume : Volume} {directory : Location} {path : Path}
    {tail : List UInt8} (filled : lines ≠ [])
    (words : ∀ line ∈ lines, IsWord line.key ∧ IsWord line.value ∧ line.key.length < 1000)
    (read : volume.read directory path = .ok (Text.encodeUtf8 (frontText lines) ++ tail)) :
    ∃ block options unknown, readBlock volume directory path = .ok (some block) ∧
      block.isEmpty = false ∧ Options.ofText block.content = .ok (options, unknown) ∧
        options.SaidBy lines := by
  have plain : ∀ line ∈ lines, line.IsPlain := by
    intro line listed
    obtain ⟨key, value, short⟩ := words line listed
    have limit : 1000 ≤ Yaml.keyLimit := by decide
    exact ⟨key, value, Nat.le_trans (Nat.le_of_lt short) limit⟩
  obtain ⟨options, unknown, parsed, said⟩ := exists_options_of_lines filled plain
  have found : readBlock volume directory path =
      .ok (some ⟨String.ofList (documentChars lines), false⟩) := by
    rw [readBlock, read]
    exact congrArg Except.ok (ofBytes?_lines filled plain tail)
  exact ⟨⟨String.ofList (documentChars lines), false⟩, options, unknown, found, rfl, parsed, said⟩

/-! ### A file in which later lines count -/

/-- Two keys come twice, and a key and a value are no strings. -/
def repeatedLines : List Line :=
  [⟨"MergeXmlComments", "no"⟩, ⟨"AllowedCustomTags", "All"⟩, ⟨"on", "null"⟩,
    ⟨"MergeXmlComments", "YeS"⟩, ⟨"AllowedCustomTags", "nOnE"⟩]

/-- The closing mark is followed by bytes that are no text. -/
def repeatedVolume : Volume :=
  ⟨[(["a.md"], .file (Text.encodeUtf8 (frontText repeatedLines) ++ [0x20, 0xFF, 0x0A, 0x3A]))]⟩

theorem repeated_lines_say_the_last :
    ∃ block options unknown,
      readBlock repeatedVolume [] ⟨.relative, ["a.md"]⟩ = .ok (some block) ∧
        Options.ofText block.content = .ok (options, unknown) ∧ options.mergeXmlComments ∧
          options.allowedTags = some .knownTags := by
  have words : ∀ line ∈ repeatedLines,
      IsWord line.key ∧ IsWord line.value ∧ line.key.length < 1000 := by
    unfold IsWord
    simp only [← List.all_eq_true]
    decide +kernel
  have read : repeatedVolume.read [] ⟨.relative, ["a.md"]⟩ =
      .ok (Text.encodeUtf8 (frontText repeatedLines) ++ [0x20, 0xFF, 0x0A, 0x3A]) :=
    toOption_eq_some_iff.mp (by decide +kernel)
  obtain ⟨block, options, unknown, found, -, parsed, said⟩ :=
    lines_say_options (by decide) words read
  have merges := said.merges.mpr
    ⟨⟨"MergeXmlComments", "YeS"⟩, by decide +kernel, Or.inl (by decide +kernel)⟩
  have known := said.knownTags.mpr
    ⟨⟨"AllowedCustomTags", "nOnE"⟩, by decide +kernel, by decide +kernel⟩
  exact ⟨block, options, unknown, found, parsed, merges, known⟩

end MemberDocs.FrontMatter
