import MemberDocs.FrontMatter.Options
import MemberDocs.FrontMatter.Search
import MemberDocs.Proofs.Collection.Discovery

/-! # The front matter that counts

The search for front matter passes over bare files and stops at the first one that is not
(`findBlockAmong_eq_none_iff`, `findBlockAmong_eq_some_iff`). So of the Markdown files of a documentation
path, the first one with a block that is not empty gives the options (`Governs`,
`governs_of_found`), and what the block does not name is not chosen
(`mergeXmlComments_of_not_names`).
-/

namespace MemberDocs.FrontMatter

variable {volume : Volume} {directory : Location} {documentation : Path}

/-! ## The search -/

/-- The file has no front matter, or its block is empty. -/
def IsBare (volume : Volume) (directory : Location) (path : Path) : Prop :=
  ∃ found, readBlock volume directory path = .ok found ∧
    ∀ block, found = some block → block.isEmpty

/-- The options in effect at a documentation path, with their block: none if nothing is there or if
all its Markdown files are bare, and those of the first file that is not bare otherwise. -/
inductive Governs (volume : Volume) (directory : Location) (documentation : Path) :
    Option (Block × Options) → Prop where
  | missing (absent : volume.hasPath directory documentation = false) :
      Governs volume directory documentation none
  | bare {files : List Path} (there : volume.hasPath directory documentation)
      (found : Collection.discover volume directory documentation = .ok files)
      (bare : ∀ file ∈ files, IsBare volume directory file) :
      Governs volume directory documentation none
  | present {before after : List Path} {path : Path} {block : Block} {options : Options}
      {unknown : List String} (there : volume.hasPath directory documentation)
      (found : Collection.discover volume directory documentation =
        .ok (before ++ path :: after))
      (bare : ∀ file ∈ before, IsBare volume directory file)
      (read : readBlock volume directory path = .ok (some block))
      (filled : block.isEmpty = false)
      (parsed : Options.ofText block.content = .ok (options, unknown)) :
      Governs volume directory documentation (some (block, options))

/-- A file is bare, or it has a block that is not empty, or it cannot be read. -/
theorem isBare_or (volume : Volume) (directory : Location) (path : Path) :
    IsBare volume directory path ∨
      (∃ block, readBlock volume directory path = .ok (some block) ∧ block.isEmpty = false) ∨
      ∃ fault, readBlock volume directory path = .error fault := by
  cases read : readBlock volume directory path with
  | error fault => exact Or.inr (Or.inr ⟨fault, rfl⟩)
  | ok found =>
    cases found with
    | none => exact Or.inl ⟨none, read, by simp⟩
    | some block =>
      cases state : block.isEmpty with
      | true => exact Or.inl ⟨some block, read, by simp [state]⟩
      | false => exact Or.inr (Or.inl ⟨block, rfl, state⟩)

theorem not_isBare_of_filled {path : Path} {block : Block}
    (read : readBlock volume directory path = .ok (some block)) (filled : block.isEmpty = false) :
    ¬ IsBare volume directory path := by
  rintro ⟨found, again, bare⟩
  obtain rfl := Except.ok.inj (read.symm.trans again)
  simp [bare block rfl] at filled

theorem not_isBare_of_fault {path : Path} {fault : FileFault}
    (stopped : readBlock volume directory path = .error fault) :
    ¬ IsBare volume directory path := by
  rintro ⟨found, read, -⟩
  rw [stopped] at read
  cases read

section Step

variable {first : Path} (rest : List Path)

/-- A bare file in front is passed over. -/
theorem findBlockAmong_cons_of_bare (bare : IsBare volume directory first) :
    findBlockAmong volume directory (first :: rest) = findBlockAmong volume directory rest := by
  obtain ⟨found, read, empty⟩ := bare
  rw [findBlockAmong, read]
  cases found with
  | none => rfl
  | some block => simp [bind, Except.bind, empty block rfl]

/-- A file in front with a block that is not empty is found. -/
theorem findBlockAmong_cons_of_filled {block : Block}
    (read : readBlock volume directory first = .ok (some block)) (filled : block.isEmpty = false) :
    findBlockAmong volume directory (first :: rest) = .ok (some (first, block)) := by
  rw [findBlockAmong, read]
  simp [bind, Except.bind, filled]

/-- A file in front that cannot be read stops the search. -/
theorem findBlockAmong_cons_of_fault {fault : FileFault}
    (stopped : readBlock volume directory first = .error fault) :
    findBlockAmong volume directory (first :: rest) = .error fault := by
  rw [findBlockAmong, stopped]
  rfl

end Step

/-- Nothing is found exactly among bare files. -/
theorem findBlockAmong_eq_none_iff {files : List Path} :
    findBlockAmong volume directory files = .ok none ↔
      ∀ file ∈ files, IsBare volume directory file := by
  induction files with
  | nil => simp [findBlockAmong]
  | cons first rest ih =>
    rw [List.forall_mem_cons]
    rcases isBare_or volume directory first with bare | ⟨block, read, filled⟩ | ⟨fault, stopped⟩
    · rw [findBlockAmong_cons_of_bare rest bare, ih]
      exact ⟨fun others => ⟨bare, others⟩, And.right⟩
    · rw [findBlockAmong_cons_of_filled rest read filled]
      refine ⟨fun found => ?_, fun bare => absurd bare.1 (not_isBare_of_filled read filled)⟩
      cases found
    · rw [findBlockAmong_cons_of_fault rest stopped]
      refine ⟨fun found => ?_, fun bare => absurd bare.1 (not_isBare_of_fault stopped)⟩
      cases found

/-- What is found is the first file that is not bare, with its block. -/
theorem findBlockAmong_eq_some_iff {files : List Path} {path : Path} {block : Block} :
    findBlockAmong volume directory files = .ok (some (path, block)) ↔
      ∃ before after, files = before ++ path :: after ∧
        (∀ file ∈ before, IsBare volume directory file) ∧
        readBlock volume directory path = .ok (some block) ∧ block.isEmpty = false := by
  constructor
  · intro chosen
    induction files with
    | nil => cases chosen
    | cons first rest ih =>
      rcases isBare_or volume directory first with bare | ⟨own, read, filled⟩ | ⟨fault, stopped⟩
      · rw [findBlockAmong_cons_of_bare rest bare] at chosen
        obtain ⟨before, after, rfl, others, found⟩ := ih chosen
        exact ⟨first :: before, after, rfl, List.forall_mem_cons.mpr ⟨bare, others⟩, found⟩
      · rw [findBlockAmong_cons_of_filled rest read filled] at chosen
        obtain ⟨rfl, rfl⟩ : first = path ∧ own = block := by simpa using chosen
        exact ⟨[], rest, rfl, by simp, read, filled⟩
      · rw [findBlockAmong_cons_of_fault rest stopped] at chosen
        cases chosen
  · rintro ⟨before, after, rfl, bare, read, filled⟩
    induction before with
    | nil => exact findBlockAmong_cons_of_filled after read filled
    | cons first rest ih =>
      obtain ⟨here, others⟩ := List.forall_mem_cons.mp bare
      rw [List.cons_append, findBlockAmong_cons_of_bare _ here]
      exact ih others

/-- Files that can be read are searched to an end. -/
theorem exists_findBlockAmong {files : List Path}
    (readable : ∀ file ∈ files, ∃ found, readBlock volume directory file = .ok found) :
    ∃ found, findBlockAmong volume directory files = .ok found := by
  induction files with
  | nil => exact ⟨none, rfl⟩
  | cons first rest ih =>
    obtain ⟨⟨own, here⟩, others⟩ := List.forall_mem_cons.mp readable
    rcases isBare_or volume directory first with bare | ⟨block, read, filled⟩ | ⟨fault, stopped⟩
    · rw [findBlockAmong_cons_of_bare rest bare]
      exact ih others
    · exact ⟨_, findBlockAmong_cons_of_filled rest read filled⟩
    · rw [stopped] at here
      cases here

theorem hasPath_of_discover {files : List Path}
    (found : Collection.discover volume directory documentation = .ok files) :
    volume.hasPath directory documentation := by
  obtain ⟨⟨entry, there⟩, -⟩ := Collection.discover_eq_ok_iff.mp found
  simp [Volume.hasPath, there]

/-- The search goes through the files of a path that leads somewhere. -/
theorem findBlock_of_discover {files : List Path}
    (found : Collection.discover volume directory documentation = .ok files) :
    findBlock volume directory documentation = findBlockAmong volume directory files := by
  rw [findBlock, if_pos (hasPath_of_discover found), found]
  rfl

/-- A path that leads somewhere has its Markdown files. -/
theorem exists_discover_of_hasPath (there : volume.hasPath directory documentation) :
    ∃ files, Collection.discover volume directory documentation = .ok files := by
  obtain ⟨entry, found⟩ := Option.isSome_iff_exists.mp there
  exact ⟨_, Collection.discover_eq_ok_iff.mpr ⟨⟨entry, found⟩, rfl⟩⟩

theorem findBlock_of_not_hasPath (absent : volume.hasPath directory documentation = false) :
    findBlock volume directory documentation = .ok none := by
  simp [findBlock, absent]

/-- Nothing is found where the path leads nowhere, or to bare files alone. -/
theorem findBlock_eq_none_iff :
    findBlock volume directory documentation = .ok none ↔
      volume.hasPath directory documentation = false ∨
        ∃ files, Collection.discover volume directory documentation = .ok files ∧
          ∀ file ∈ files, IsBare volume directory file := by
  constructor
  · intro notFound
    cases there : volume.hasPath directory documentation with
    | false => exact Or.inl rfl
    | true =>
      obtain ⟨files, found⟩ := exists_discover_of_hasPath there
      rw [findBlock_of_discover found] at notFound
      exact Or.inr ⟨files, found, findBlockAmong_eq_none_iff.mp notFound⟩
  · rintro (absent | ⟨files, found, bare⟩)
    · exact findBlock_of_not_hasPath absent
    · rw [findBlock_of_discover found]
      exact findBlockAmong_eq_none_iff.mpr bare

/-- What is found is the first file that is not bare, with its block. -/
theorem findBlock_eq_some_iff {file : Path} {block : Block} :
    findBlock volume directory documentation = .ok (some (file, block)) ↔
      ∃ before after, Collection.discover volume directory documentation = .ok (before ++ file :: after) ∧
        (∀ earlier ∈ before, IsBare volume directory earlier) ∧
        readBlock volume directory file = .ok (some block) ∧ block.isEmpty = false := by
  constructor
  · intro chosen
    cases there : volume.hasPath directory documentation with
    | false =>
      rw [findBlock_of_not_hasPath there] at chosen
      cases chosen
    | true =>
      obtain ⟨files, found⟩ := exists_discover_of_hasPath there
      rw [findBlock_of_discover found] at chosen
      obtain ⟨before, after, rfl, first⟩ := findBlockAmong_eq_some_iff.mp chosen
      exact ⟨before, after, found, first⟩
  · rintro ⟨before, after, found, first⟩
    rw [findBlock_of_discover found]
    exact findBlockAmong_eq_some_iff.mpr ⟨before, after, rfl, first⟩

/-- Nothing is found where there is nothing, or nothing but bare files. -/
theorem governs_of_not_found
    (notFound : findBlock volume directory documentation = .ok none) :
    Governs volume directory documentation none := by
  rcases findBlock_eq_none_iff.mp notFound with absent | ⟨files, found, bare⟩
  · exact .missing absent
  · exact .bare (hasPath_of_discover found) found bare

/-- The block that is found is the one that counts. -/
theorem governs_of_found {path : Path} {block : Block} {options : Options}
    {unknown : List String}
    (chosen : findBlock volume directory documentation = .ok (some (path, block)))
    (parsed : Options.ofText block.content = .ok (options, unknown)) :
    Governs volume directory documentation (some (block, options)) := by
  obtain ⟨before, after, found, bare, read, filled⟩ := findBlock_eq_some_iff.mp chosen
  exact .present (hasPath_of_discover found) found bare read filled parsed

/-! ## Names in a block -/

/-- A block has a pair with a name. -/
def Block.Names (block : Block) (name : String) : Prop :=
  ∃ data entries entry, Yaml.Data.ofText block.content.toList = .ok data ∧
    data.rootObject = .dict entries ∧ entry ∈ entries ∧ entry.key = .str name

/-- Nothing is under a name that no pair has. -/
theorem valueOf_of_forall_ne {data : Yaml.Data} {entries : List Yaml.Entry} {name : String}
    (unnamed : ∀ entry ∈ entries, entry.key ≠ .str name) :
    data.valueOf entries name = .scalar .null := by
  have none : entries.find? (fun entry => entry.key = .str name) = none := by
    simpa using unnamed
  simp only [Yaml.Data.valueOf, none]

/-- Files are not merged by a block that does not name the choice. -/
theorem mergeXmlComments_of_not_names {block : Block} {options : Options} {unknown : List String}
    (parsed : Options.ofText block.content = .ok (options, unknown))
    (unnamed : ¬ block.Names mergeKey) : options.mergeXmlComments = false := by
  unfold Options.ofText at parsed
  cases built : Yaml.Data.ofText block.content.toList with
  | error fault =>
    rw [built] at parsed
    cases parsed
  | ok data =>
    simp only [built, Except.mapError, bind, Except.bind] at parsed
    split at parsed
    next =>
      obtain ⟨rfl, -⟩ := Prod.mk.inj (Except.ok.inj parsed)
      rfl
    next entries root =>
      have absent : ∀ entry ∈ entries, entry.key ≠ .str mergeKey := fun entry listed named =>
        unnamed ⟨data, entries, entry, built, root, listed, named⟩
      split at parsed
      next => cases parsed
      next =>
        obtain ⟨rfl, -⟩ := Prod.mk.inj (Except.ok.inj parsed)
        simp [valueOf_of_forall_ne absent, Yaml.Object.flag?]
    next => cases parsed

end MemberDocs.FrontMatter
