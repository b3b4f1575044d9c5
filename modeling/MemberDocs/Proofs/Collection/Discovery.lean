import MemberDocs.Collection.Discovery
import MemberDocs.Proofs.Volume.Persistence
import Mathlib.Data.List.Sort

/-! # What is discovered

The Markdown files below a directory are listed by the names that lead to them, each once and in a
total order (`mem_markdownNames_iff`, `pairwise_markdownNames`). So the list is settled by what files
there are: volumes with the same files have the same list, whatever else is in them and however they
came to be (`filter_markdownNames_congr`).
-/

namespace MemberDocs.Collection

/-! ## The order of names -/

theorem isBefore_total (first second : List String) :
    isBefore first second || isBefore second first := by
  induction first generalizing second with
  | nil => simp [isBefore]
  | cons a rest ih =>
    cases second with
    | nil => simp [isBefore]
    | cons b more =>
      by_cases same : a = b
      · simpa [isBefore, same] using ih more
      · rcases String.le_total a b with le | le
        · have lt : a < b := by
            by_contra notLt
            exact same (String.le_antisymm le (String.not_lt.mp notLt))
          simp [isBefore, same, lt]
        · have lt : b < a := by
            by_contra notLt
            exact same (String.le_antisymm (String.not_lt.mp notLt) le)
          simp [isBefore, Ne.symm same, lt]

theorem isBefore_antisymm {first second : List String} (before : isBefore first second)
    (after : isBefore second first) : first = second := by
  induction first generalizing second with
  | nil =>
    cases second with
    | nil => rfl
    | cons b more => simp [isBefore] at after
  | cons a rest ih =>
    cases second with
    | nil => simp [isBefore] at before
    | cons b more =>
      by_cases same : a = b
      · subst same
        rw [ih (by simpa [isBefore] using before) (by simpa [isBefore] using after)]
      · simp only [isBefore, same, Ne.symm same, ↓reduceIte, decide_eq_true_eq] at before after
        exact absurd (String.lt_trans before after) (String.lt_irrefl a)

theorem isBefore_trans {first second third : List String} (before : isBefore first second)
    (after : isBefore second third) : isBefore first third := by
  induction first generalizing second third with
  | nil => rfl
  | cons a rest ih =>
    cases second with
    | nil => simp [isBefore] at before
    | cons b more =>
      cases third with
      | nil => simp [isBefore] at after
      | cons c others =>
        by_cases first : a = b
        · subst first
          by_cases second : a = c
          · subst second
            simp only [isBefore, ↓reduceIte] at before after ⊢
            exact ih before after
          · simpa [isBefore, second] using after
        · have ab : a < b := by simpa [isBefore, first] using before
          have ac : a < c := by
            by_cases second : b = c
            · exact second ▸ ab
            · exact String.lt_trans ab (by simpa [isBefore, second] using after)
          have different : a ≠ c := fun same => String.lt_irrefl c (same ▸ ac)
          simp [isBefore, different, ac]

/-- The names are sorted by insertion as well, which can be evaluated. -/
theorem mergeSort_eq_insertionSort (names : List (List String)) :
    names.mergeSort isBefore = names.insertionSort fun first second => isBefore first second := by
  have total : Std.Total fun first second => isBefore first second = true :=
    ⟨fun first second => by simpa using isBefore_total first second⟩
  have trans : IsTrans (List String) fun first second => isBefore first second = true :=
    ⟨fun _ _ _ => isBefore_trans⟩
  have antisymm : Std.Antisymm fun first second => isBefore first second = true :=
    ⟨fun _ _ => isBefore_antisymm⟩
  have same := List.mergeSort_eq_insertionSort
    (fun first second => isBefore first second = true) names
  simpa only [Bool.decide_eq_true] using same

/-! ## The names of Markdown files -/

variable {volume other : Volume} {location : Location}

theorem mem_filesBelow_iff (wellFormed : volume.WellFormed) {names : List String}
    {content : List UInt8} :
    (names, content) ∈ volume.filesBelow location ↔
      volume.get? (location ++ names) = some (.file content) := by
  unfold Volume.filesBelow
  constructor
  · intro listed
    obtain ⟨⟨place, entry⟩, present, taken⟩ := List.mem_filterMap.mp listed
    cases entry with
    | directory => simp at taken
    | file found =>
      simp only [List.isPrefixOf_iff_prefix] at taken
      split at taken
      next below =>
        obtain ⟨rest, rfl⟩ := below
        obtain ⟨rfl, rfl⟩ : rest = names ∧ found = content := by simpa using taken
        exact (wellFormed.mem_entries_iff.mp present).2
      next => cases taken
  · intro there
    have notTop : location ++ names ≠ [] := by
      intro top
      simp [top] at there
    refine List.mem_filterMap.mpr
      ⟨(location ++ names, .file content), wellFormed.mem_entries_iff.mpr ⟨notTop, there⟩, ?_⟩
    simp

theorem nodup_filesBelow (wellFormed : volume.WellFormed) (location : Location) :
    ((volume.filesBelow location).map Prod.fst).Nodup := by
  have distinct := List.pairwise_map.mp wellFormed.nodup
  unfold Volume.filesBelow
  rw [List.map_filterMap]
  refine distinct.filterMap _ ?_
  rintro ⟨first, entry⟩ ⟨second, otherEntry⟩ different names taken otherNames otherTaken same
  subst same
  cases entry with
  | directory => simp at taken
  | file content =>
    cases otherEntry with
    | directory => simp at otherTaken
    | file otherContent =>
      simp only [List.isPrefixOf_iff_prefix] at taken otherTaken
      split at taken
      next below =>
        split at otherTaken
        next otherBelow =>
          obtain ⟨rest, rfl⟩ := below
          obtain ⟨otherRest, rfl⟩ := otherBelow
          obtain rfl : rest = names := by simpa using taken
          obtain rfl : otherRest = rest := by simpa using otherTaken
          exact different rfl
        next => simp at otherTaken
      next => simp at taken

/-- The names that lead to the Markdown files below a location, in their order. -/
def markdownNames (volume : Volume) (location : Location) : List (List String) :=
  (((volume.filesBelow location).map Prod.fst).filter leadsToMarkdown).mergeSort isBefore

theorem mem_markdownNames_iff (wellFormed : volume.WellFormed) {names : List String} :
    names ∈ markdownNames volume location ↔
      leadsToMarkdown names ∧ ∃ content, volume.get? (location ++ names) = some (.file content) := by
  simp only [markdownNames, List.mem_mergeSort, List.mem_filter, List.mem_map, Prod.exists,
    exists_and_right, exists_eq_right, mem_filesBelow_iff wellFormed]
  exact And.comm

theorem nodup_markdownNames (wellFormed : volume.WellFormed) (location : Location) :
    (markdownNames volume location).Nodup :=
  List.nodup_mergeSort.mpr ((nodup_filesBelow wellFormed location).filter _)

theorem pairwise_markdownNames (volume : Volume) (location : Location) :
    (markdownNames volume location).Pairwise fun first second => isBefore first second :=
  @List.pairwise_mergeSort _ isBefore (fun _ _ _ => isBefore_trans) isBefore_total _

/-- The names that are kept of two volumes are the same, if the volumes have the same files there. -/
theorem filter_markdownNames_congr (wellFormed : volume.WellFormed)
    (otherWellFormed : other.WellFormed) (kept : List String → Bool)
    (same : ∀ names, kept names → ((∃ content, volume.get? (location ++ names) = some (.file content)) ↔
      ∃ content, other.get? (location ++ names) = some (.file content))) :
    (markdownNames volume location).filter kept = (markdownNames other location).filter kept := by
  refine List.Perm.eq_of_pairwise (fun _ _ _ _ => isBefore_antisymm)
    ((pairwise_markdownNames volume location).sublist List.filter_sublist)
    ((pairwise_markdownNames other location).sublist List.filter_sublist) ?_
  refine (List.perm_ext_iff_of_nodup ((nodup_markdownNames wellFormed location).filter kept)
    ((nodup_markdownNames otherWellFormed location).filter kept)).mpr fun names => ?_
  simp only [List.mem_filter, mem_markdownNames_iff wellFormed,
    mem_markdownNames_iff otherWellFormed]
  constructor
  · rintro ⟨⟨markdown, there⟩, isKept⟩
    exact ⟨⟨markdown, (same names isKept).mp there⟩, isKept⟩
  · rintro ⟨⟨markdown, there⟩, isKept⟩
    exact ⟨⟨markdown, (same names isKept).mpr there⟩, isKept⟩

theorem resolve_of_mem_markdownNames (wellFormed : volume.WellFormed) {names : List String}
    (listed : names ∈ markdownNames volume location) (directory : Location) (path : Path) :
    (⟨path.anchor, path.parts ++ names⟩ : Path).resolve directory =
      path.resolve directory ++ names := by
  obtain ⟨-, content, there⟩ := (mem_markdownNames_iff wellFormed).mp listed
  have plain := wellFormed.not_mem_of_get? there
  rw [List.mem_append, not_or] at plain
  exact Path.resolve_append plain.2 directory path

/-! ## The files of a documentation path -/

/-- The Markdown files of a documentation path, by the location that it means: the file itself, or
all that are below. -/
def documentationFiles (volume : Volume) (directory : Location) (path : Path) : List Path :=
  match volume.get? (path.resolve directory) with
  | some (.file _) => [path]
  | _ => markdownBelow volume (path.resolve directory) path

/-- What is discovered are the Markdown files of a path that leads somewhere. -/
theorem discover_eq_ok_iff {directory : Location} {path : Path} {files : List Path} :
    discover volume directory path = .ok files ↔
      (∃ entry, volume.status directory path = some entry) ∧
        files = documentationFiles volume directory path := by
  unfold discover
  cases found : volume.status directory path with
  | none => simp
  | some entry =>
    obtain ⟨-, located, there⟩ := Volume.status_eq_some_iff.mp found
    cases entry <;> simp [documentationFiles, located, there, eq_comm]

theorem eq_documentationFiles_of_discover {directory : Location} {path : Path}
    {discovered : List Path} (found : discover volume directory path = .ok discovered) :
    discovered = documentationFiles volume directory path :=
  (discover_eq_ok_iff.mp found).2

section Located

variable {directory : Location} {path : Path}

theorem documentationFiles_of_file {content : List UInt8}
    (isFile : volume.get? (path.resolve directory) = some (.file content)) :
    documentationFiles volume directory path = [path] := by
  rw [documentationFiles, isFile]

theorem documentationFiles_of_not_file
    (notFile : ¬ ∃ content, volume.get? (path.resolve directory) = some (.file content)) :
    documentationFiles volume directory path =
      (markdownNames volume (path.resolve directory)).map fun names =>
        ⟨path.anchor, path.parts ++ names⟩ := by
  unfold documentationFiles
  split
  next content there => exact absurd ⟨content, there⟩ notFile
  next => rfl

theorem map_resolve_of_not_file (wellFormed : volume.WellFormed)
    (notFile : ¬ ∃ content, volume.get? (path.resolve directory) = some (.file content)) :
    (documentationFiles volume directory path).map (·.resolve directory) =
      (markdownNames volume (path.resolve directory)).map (path.resolve directory ++ ·) := by
  rw [documentationFiles_of_not_file notFile, List.map_map]
  exact List.map_congr_left fun names listed =>
    resolve_of_mem_markdownNames wellFormed listed directory path

theorem nodup_documentationFiles (wellFormed : volume.WellFormed) (directory : Location)
    (path : Path) :
    ((documentationFiles volume directory path).map (·.resolve directory)).Nodup := by
  by_cases isFile : ∃ content, volume.get? (path.resolve directory) = some (.file content)
  · obtain ⟨content, there⟩ := isFile
    rw [documentationFiles_of_file there]
    exact List.nodup_singleton _
  · rw [map_resolve_of_not_file wellFormed isFile]
    exact (nodup_markdownNames wellFormed _).map fun _ _ => List.append_cancel_left

/-- What is listed are the files at the location of the path or, by Markdown names, below it. -/
theorem mem_documentationFiles_iff (wellFormed : volume.WellFormed) {location : Location} :
    location ∈ (documentationFiles volume directory path).map (·.resolve directory) ↔
      (∃ content, volume.get? location = some (.file content)) ∧
        (location = path.resolve directory ∨
          ∃ names, leadsToMarkdown names ∧ location = path.resolve directory ++ names) := by
  by_cases isFile : ∃ content, volume.get? (path.resolve directory) = some (.file content)
  · obtain ⟨content, there⟩ := isFile
    rw [documentationFiles_of_file there, List.map_singleton, List.mem_singleton]
    constructor
    · rintro rfl
      exact ⟨⟨content, there⟩, Or.inl rfl⟩
    · rintro ⟨⟨found, present⟩, same | ⟨names, markdown, rfl⟩⟩
      · exact same
      · -- Nothing is below a file.
        have below : names ≠ [] := by
          rintro rfl
          cases markdown
        have isDirectory := wellFormed.get?_of_append below present
        simp [there] at isDirectory
  · rw [map_resolve_of_not_file wellFormed isFile]
    simp only [List.mem_map, mem_markdownNames_iff wellFormed]
    constructor
    · rintro ⟨names, ⟨markdown, present⟩, rfl⟩
      exact ⟨present, Or.inr ⟨names, markdown, rfl⟩⟩
    · rintro ⟨present, rfl | ⟨names, markdown, rfl⟩⟩
      · exact absurd present isFile
      · exact ⟨names, ⟨markdown, present⟩, rfl⟩

/-- A discovered file can be read, if the system accepts its name. -/
theorem read_of_mem_documentationFiles (wellFormed : volume.WellFormed) {entry : FileEntry}
    (found : volume.status directory path = some entry) {file : Path}
    (listed : file ∈ documentationFiles volume directory path) :
    (∃ content, volume.read directory file = .ok content) ∨
      volume.read directory file = .error .nullInPath := by
  obtain ⟨noNull, located, there⟩ := Volume.status_eq_some_iff.mp found
  cases entry with
  | file content =>
    rw [documentationFiles_of_file there, List.mem_singleton] at listed
    subst listed
    exact Or.inl ⟨content, Volume.read_eq_ok_iff.mpr ⟨noNull, located, there⟩⟩
  | directory =>
    have notFile : ¬ ∃ content, volume.get? (path.resolve directory) = some (.file content) := by
      simp [there]
    rw [documentationFiles_of_not_file notFile, List.mem_map] at listed
    obtain ⟨names, member, rfl⟩ := listed
    obtain ⟨-, content, held⟩ := (mem_markdownNames_iff wellFormed).mp member
    cases hasNull : (⟨path.anchor, path.parts ++ names⟩ : Path).hasNull with
    | true => exact Or.inr (by simp [Volume.read, hasNull])
    | false =>
      refine Or.inl ⟨content, Volume.read_eq_ok_iff.mpr ⟨hasNull, ?_, ?_⟩⟩
      · rw [resolve_of_mem_markdownNames wellFormed member]
        exact (Volume.follow_append located there names).trans (wellFormed.follow_of_get? held)
      · rwa [resolve_of_mem_markdownNames wellFormed member]

/-- Files that are made apart from those that are kept do not change which ones are kept. -/
theorem filter_documentationFiles_of_evolves {made changed : Location → Prop}
    (evolves : Volume.Evolves made changed volume other) (wellFormed : volume.WellFormed)
    (kind : (∃ content, volume.get? (path.resolve directory) = some (.file content)) ∨
      other.get? (path.resolve directory) = some .directory)
    {kept : Location → Bool} (apart : ∀ location, kept location → ¬ made location) :
    (documentationFiles other directory path).filter (fun file => kept (file.resolve directory)) =
      (documentationFiles volume directory path).filter
        fun file => kept (file.resolve directory) := by
  rcases kind with ⟨content, isFile⟩ | isDirectory
  · obtain ⟨later, staysFile⟩ := evolves.files _ content isFile
    rw [documentationFiles_of_file isFile, documentationFiles_of_file staysFile]
  · -- Files stay files, so there was no file at the path before either, and both lists are read off
    -- the names of the files below it.
    have notLater : ¬ ∃ content, other.get? (path.resolve directory) = some (.file content) := by
      simp [isDirectory]
    have notBefore : ¬ ∃ content, volume.get? (path.resolve directory) = some (.file content) :=
      fun ⟨content, isFile⟩ => notLater (evolves.files _ content isFile)
    have located {listing : Volume} (wellFormed : listing.WellFormed) :
        (markdownNames listing (path.resolve directory)).filter (fun names =>
            kept ((⟨path.anchor, path.parts ++ names⟩ : Path).resolve directory)) =
          (markdownNames listing (path.resolve directory)).filter fun names =>
            kept (path.resolve directory ++ names) :=
      List.filter_congr fun names listed => by
        rw [resolve_of_mem_markdownNames wellFormed listed]
    have same := filter_markdownNames_congr (evolves.wellFormed wellFormed) wellFormed
      (fun names => kept (path.resolve directory ++ names))
      fun names isKept => evolves.exists_file_iff (apart _ isKept)
    rw [documentationFiles_of_not_file notLater, documentationFiles_of_not_file notBefore,
      List.filter_map, List.filter_map]
    refine congrArg _ ?_
    calc (markdownNames other (path.resolve directory)).filter (fun names =>
            kept ((⟨path.anchor, path.parts ++ names⟩ : Path).resolve directory))
        = (markdownNames other (path.resolve directory)).filter fun names =>
            kept (path.resolve directory ++ names) := located (evolves.wellFormed wellFormed)
      _ = (markdownNames volume (path.resolve directory)).filter fun names =>
            kept (path.resolve directory ++ names) := same
      _ = _ := (located wellFormed).symm

end Located

end MemberDocs.Collection
