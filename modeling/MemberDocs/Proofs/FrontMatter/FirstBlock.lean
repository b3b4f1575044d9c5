import MemberDocs.Proofs.Collection.Listing
import MemberDocs.Proofs.FrontMatter.Search
import MemberDocs.Proofs.Result
import MemberDocs.Proofs.Volume.Spelling

/-! # The first block of a documentation path

What is discovered at a documentation path, and what the search for front matter finds among it. A
directory has the Markdown files below it, in the order of their names; a file has itself alone. The
search gives the first of them that is not bare (`first_filled_block_is_found`), and it comes to an end
wherever no name holds the null character (`exists_findBlock`).
-/

namespace MemberDocs.FrontMatter

open Collection (discover documentationFiles)

variable {volume : Volume} {directory : Location} {documentation : Path}

/-! ## The search comes to an end -/

/-- The paths of files that are discovered are free of the null character. -/
theorem noNull_of_mem_documentationFiles (wellFormed : volume.WellFormed)
    (free : volume.FreeOfNull) {entry : FileEntry}
    (there : volume.status directory documentation = some entry) {file : Path}
    (listed : file ∈ documentationFiles volume directory documentation) :
    file.hasNull = false := by
  obtain ⟨noNull, -, held⟩ := Volume.status_eq_some_iff.mp there
  cases entry with
  | file content =>
    rw [Collection.documentationFiles_of_file held, List.mem_singleton] at listed
    rw [listed, noNull]
  | directory =>
    rw [Collection.documentationFiles_of_not_file (by simp [held]), List.mem_map] at listed
    obtain ⟨names, member, rfl⟩ := listed
    obtain ⟨-, content, found⟩ := (Collection.mem_markdownNames_iff wellFormed).mp member
    refine Bool.eq_false_iff.mpr fun null => ?_
    obtain ⟨name, among, holds⟩ := Volume.hasNull_iff.mp null
    rcases List.mem_append.mp among with before | below
    · have own : documentation.hasNull := Volume.hasNull_iff.mpr ⟨name, before, holds⟩
      rw [noNull] at own
      cases own
    · exact free.not_mem_of_get? found (List.mem_append_right _ below) holds

theorem read_ne_nullInPath {path : Path} (noNull : path.hasNull = false) :
    volume.read directory path ≠ .error .nullInPath := by
  intro refused
  rw [Volume.read, noNull] at refused
  simp only [Bool.false_eq_true, ↓reduceIte] at refused
  split at refused
  next => cases refused
  next => split at refused <;> cases refused

/-- A file that is discovered can be read for its block. -/
theorem exists_readBlock_of_discover (wellFormed : volume.WellFormed) (free : volume.FreeOfNull)
    {files : List Path} (found : discover volume directory documentation = .ok files) {file : Path}
    (listed : file ∈ files) : ∃ block, readBlock volume directory file = .ok block := by
  obtain ⟨⟨entry, there⟩, rfl⟩ := Collection.discover_eq_ok_iff.mp found
  rcases Collection.read_of_mem_documentationFiles wellFormed there listed with
    ⟨content, read⟩ | refused
  · refine ⟨Block.ofBytes? content, ?_⟩
    rw [readBlock, read]
    rfl
  · exact absurd refused
      (read_ne_nullInPath (noNull_of_mem_documentationFiles wellFormed free there listed))

theorem exists_findBlock (wellFormed : volume.WellFormed) (free : volume.FreeOfNull)
    (directory : Location) (documentation : Path) :
    ∃ found, findBlock volume directory documentation = .ok found := by
  cases there : volume.hasPath directory documentation with
  | false => exact ⟨none, findBlock_of_not_hasPath there⟩
  | true =>
    obtain ⟨files, found⟩ := exists_discover_of_hasPath there
    rw [findBlock_of_discover found]
    exact exists_findBlockAmong fun file listed =>
      exists_readBlock_of_discover wellFormed free found listed

/-! ## What the search finds -/

theorem discover_of_isFile (isFile : volume.isFile directory documentation) :
    discover volume directory documentation = .ok [documentation] := by
  obtain ⟨content, there⟩ := Volume.isFile_eq_true_iff.mp isFile
  refine Collection.discover_eq_ok_iff.mpr ⟨⟨_, there⟩, ?_⟩
  rw [Collection.documentationFiles_of_file (Volume.get?_of_status there)]

/-- **Discovery and search.** Below a directory, the files whose last name ends in `.md` are
discovered, each once, in strictly increasing order of their names and whatever the order of the
entries is; at a file, the file alone. The search for front matter comes to an end; it finds the first
file that is discovered and not bare, with its block, and nothing exactly where the path leads nowhere
or all files are bare. -/
theorem first_filled_block_is_found (wellFormed : volume.WellFormed) :
    (volume.isDirectory directory documentation →
      ∃ files, discover volume directory documentation = .ok files ∧
        (∀ file, file ∈ files ↔ ∃ above stem content,
          file = ⟨documentation.anchor, documentation.parts ++ (above ++ [stem ++ ".md"])⟩ ∧
          volume.get? (documentation.resolve directory ++ (above ++ [stem ++ ".md"])) =
            some (.file content)) ∧
        files.Pairwise (fun first second => List.Lex (· < ·) first.parts second.parts) ∧
        ∀ other : Volume, other.entries.Perm volume.entries →
          discover other directory documentation = .ok files) ∧
    (volume.isFile directory documentation →
      discover volume directory documentation = .ok [documentation]) ∧
    (volume.FreeOfNull → ∃ found, findBlock volume directory documentation = .ok found) ∧
    (∀ file block, findBlock volume directory documentation = .ok (some (file, block)) ↔
      ∃ before after, discover volume directory documentation = .ok (before ++ file :: after) ∧
        (∀ earlier ∈ before, IsBare volume directory earlier) ∧
        readBlock volume directory file = .ok (some block) ∧ block.isEmpty = false) ∧
    (findBlock volume directory documentation = .ok none ↔
      volume.hasPath directory documentation = false ∨
        ∃ files, discover volume directory documentation = .ok files ∧
          ∀ file ∈ files, IsBare volume directory file) := by
  refine ⟨?_, discover_of_isFile, fun free => exists_findBlock wellFormed free _ _,
    fun _ _ => findBlock_eq_some_iff, findBlock_eq_none_iff⟩
  intro isDirectory
  have there : volume.status directory documentation = some .directory :=
    of_decide_eq_true isDirectory
  have found : discover volume directory documentation =
      .ok (Collection.markdownBelow volume (documentation.resolve directory) documentation) := by
    refine Collection.discover_eq_ok_iff.mpr ⟨⟨_, there⟩, ?_⟩
    rw [documentationFiles, Volume.get?_of_status there]
  refine ⟨_, found, fun file => Collection.mem_markdownBelow_iff wellFormed,
    Collection.pairwise_lex_markdownBelow wellFormed _ _, ?_⟩
  intro other permuted
  exact Collection.discover_of_perm wellFormed permuted found

/-- A documentation directory with a hidden directory, a directory that is called like a file, and
names that are put in another order if they are compared as texts. -/
def layeredGuides : Volume :=
  ⟨[(["docs"], .directory), (["docs", "a.md"], .file (Text.encodeUtf8 "---\nOrder: 3\n")),
    (["docs", "a-b"], .directory),
    (["docs", "a-b", "y.md"], .file (Text.encodeUtf8 "---\nOrder: 2\n---\n")),
    (["docs", "a"], .directory), (["docs", "a", "z.md"], .file (Text.encodeUtf8 "Z")),
    (["docs", ".kept"], .directory),
    (["docs", ".kept", "x.md"], .file (Text.encodeUtf8 "---\n---\nX")),
    (["docs", "b.md"], .directory), (["docs", "c.txt"], .file (Text.encodeUtf8 "---\nOrder: 0"))]⟩

/-- A file with an empty block and one without a block are passed over. -/
theorem block_in_layers_is_found :
    let hidden : Path := ⟨.relative, ["docs", ".kept", "x.md"]⟩
    let first : Path := ⟨.relative, ["docs", "a", "z.md"]⟩
    let second : Path := ⟨.relative, ["docs", "a-b", "y.md"]⟩
    let last : Path := ⟨.relative, ["docs", "a.md"]⟩
    (∃ files, discover layeredGuides [] ⟨.relative, ["docs"]⟩ = .ok files ∧
      files = [hidden, first, second, last] ∧
      files.Pairwise fun earlier later => List.Lex (· < ·) earlier.parts later.parts) ∧
    findBlock layeredGuides [] ⟨.relative, ["docs"]⟩ =
      .ok (some (second, ⟨"---\nOrder: 2", false⟩)) := by
  intro hidden first second last
  have wellFormed : layeredGuides.WellFormed := ⟨by decide, by decide, by decide⟩
  have found : discover layeredGuides [] ⟨.relative, ["docs"]⟩ =
      .ok [hidden, first, second, last] := by
    refine toOption_eq_some_iff.mp ?_
    simp only [discover, Collection.markdownBelow, Collection.mergeSort_eq_insertionSort]
    decide +kernel
  have hiddenBare : IsBare layeredGuides [] hidden :=
    ⟨some ⟨"---", true⟩, toOption_eq_some_iff.mp (by decide +kernel), by simp⟩
  have firstBare : IsBare layeredGuides [] first :=
    ⟨none, toOption_eq_some_iff.mp (by decide +kernel), by simp⟩
  have read : readBlock layeredGuides [] second = .ok (some ⟨"---\nOrder: 2", false⟩) :=
    toOption_eq_some_iff.mp (by decide +kernel)
  obtain ⟨listing, -, -, search, -⟩ :=
    @first_filled_block_is_found layeredGuides [] ⟨.relative, ["docs"]⟩ wellFormed
  obtain ⟨files, discovered, -, ordered, -⟩ := listing (by decide)
  obtain rfl := Except.ok.inj (found.symm.trans discovered)
  refine ⟨⟨_, found, rfl, ordered⟩, (search _ _).mpr ⟨[hidden, first], [last], found, ?_, read, rfl⟩⟩
  rw [List.forall_mem_cons, List.forall_mem_singleton]
  exact ⟨hiddenBare, firstBare⟩

end MemberDocs.FrontMatter
