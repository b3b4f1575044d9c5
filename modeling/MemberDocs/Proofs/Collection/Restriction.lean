import MemberDocs.Collection.Merge
import MemberDocs.Proofs.Collection.Discovery
import MemberDocs.Proofs.Volume.Restriction

/-! # Collections without a file

A file whose name is not that of a Markdown file has no part in a collection, unless it is on the way to
its documentation or to its output: the same files are discovered without it (`discover_without`), it is
on the way of none of them (`apart_of_mem_documentationFiles`), and the same is merged
(`findExisting_without`, `writeMerged_without`).
-/

namespace MemberDocs.Collection

open Volume (OnTheWay)

variable {volume : Volume} {directory location : Location} {path : Path}

theorem leadsToMarkdown_append {names : List String} (before : List String) (filled : names ≠ []) :
    leadsToMarkdown (before ++ names) = leadsToMarkdown names := by
  have named := List.getLast?_eq_getLast_of_ne_nil filled
  rw [leadsToMarkdown, leadsToMarkdown, List.getLast?_append, named, Option.some_or]

/-- Names that lead to a location which is not that of a Markdown file lead to no Markdown file from
anywhere above. -/
theorem not_leadsToMarkdown_drop (other : leadsToMarkdown location = false) (count : Nat) :
    leadsToMarkdown (location.drop count) = false := by
  by_cases filled : location.drop count = []
  · rw [filled]
    rfl
  · rw [← leadsToMarkdown_append (location.take count) filled, List.take_append_drop]
    exact other

theorem markdownBelow_without (other : leadsToMarkdown location = false) (volume : Volume)
    (top : Location) (path : Path) :
    markdownBelow (volume.without location) top path = markdownBelow volume top path := by
  have names : (((volume.without location).filesBelow top).map (·.1)).filter leadsToMarkdown =
      ((volume.filesBelow top).map (·.1)).filter leadsToMarkdown := by
    unfold Volume.filesBelow Volume.without
    simp only [List.map_filterMap, List.filter_filterMap, List.filterMap_filter]
    apply List.filterMap_congr
    rintro ⟨place, held⟩ -
    by_cases same : place = location
    · -- The names that lead to the location are left out anyway.
      subst same
      cases held with
      | directory => simp
      | file content =>
        by_cases below : top.isPrefixOf place
        · simp [below, Option.filter, not_leadsToMarkdown_drop other]
        · simp [below]
    · simp [same]
  rw [markdownBelow, markdownBelow, names]

theorem discover_without (apart : ¬ OnTheWay directory path location)
    (other : leadsToMarkdown location = false) :
    discover (volume.without location) directory path = discover volume directory path := by
  unfold discover
  rw [Volume.status_without apart, Volume.locate_without apart]
  split
  next => rfl
  next => rw [markdownBelow_without other]
  next => rfl

/-- Files that are not Markdown files are on the way of none that is discovered. -/
theorem apart_of_mem_documentationFiles (wellFormed : volume.WellFormed) {content : List UInt8}
    (isFile : volume.get? location = some (.file content)) (other : leadsToMarkdown location = false)
    (apart : ¬ OnTheWay directory path location) {file : Path}
    (listed : file ∈ documentationFiles volume directory path) :
    ¬ OnTheWay directory file location := by
  by_cases alone : ∃ content, volume.get? (path.resolve directory) = some (.file content)
  · obtain ⟨_, there⟩ := alone
    rw [documentationFiles_of_file there, List.mem_singleton] at listed
    exact listed ▸ apart
  · rw [documentationFiles_of_not_file alone, List.mem_map] at listed
    obtain ⟨names, member, rfl⟩ := listed
    obtain ⟨markdown, _, there⟩ := (mem_markdownNames_iff wellFormed).mp member
    have plain := wellFormed.not_mem_of_get? there
    rintro ⟨first, short, passed⟩
    rcases List.prefix_or_prefix_of_prefix short (List.prefix_append path.parts names) with
      above | ⟨more, rfl⟩
    · exact apart ⟨first, above, passed⟩
    · obtain ⟨later, rfl⟩ := (List.prefix_append_right_inj path.parts).mp short
      rw [List.mem_append, List.mem_append, not_or, not_or] at plain
      have reached := Path.resolve_append plain.2.1 directory path
      obtain rfl : location = path.resolve directory ++ more := passed.trans reached
      by_cases whole : later = []
      · subst whole
        rw [List.append_nil] at markdown
        have filled : more ≠ [] := by
          rintro rfl
          cases markdown
        rw [leadsToMarkdown_append _ filled, markdown] at other
        cases other
      · -- What a file is below of would have to be a directory.
        rw [← List.append_assoc] at there
        rw [wellFormed.get?_of_append whole there] at isFile
        cases isFile

theorem findExisting_without {documentation output : Path} {generated : List Path}
    (apart : ¬ OnTheWay directory documentation location)
    (other : leadsToMarkdown location = false) :
    findExisting (volume.without location) directory documentation generated output =
      findExisting volume directory documentation generated output := by
  unfold findExisting
  rw [discover_without apart other]

theorem mapM_read_without {sources : List Path}
    (apart : ∀ source ∈ sources, ¬ OnTheWay directory source location) :
    sources.mapM ((volume.without location).read directory) =
      sources.mapM (volume.read directory) := by
  induction sources with
  | nil => rfl
  | cons source rest ih =>
    rw [List.mapM_cons, List.mapM_cons, Volume.read_without (apart source List.mem_cons_self),
      ih fun other later => apart other (List.mem_cons_of_mem source later)]

theorem writeMerged_without {sources : List Path} {output : Path}
    (read : ∀ source ∈ sources, ¬ OnTheWay directory source location)
    (apart : ¬ OnTheWay directory output location) :
    writeMerged (volume.without location) directory sources output =
      ((writeMerged volume directory sources output).1.without location,
        (writeMerged volume directory sources output).2) := by
  have above : ¬ OnTheWay directory output.parent location := by
    rintro ⟨names, short, passed⟩
    exact apart ⟨names, short.trans (List.dropLast_prefix output.parts), passed⟩
  unfold writeMerged
  rw [mapM_read_without read]
  cases sources.mapM (volume.read directory) with
  | error fault => rfl
  | ok contents =>
    dsimp only
    rw [Volume.ensureDirectories_without above]
    cases ensured : volume.ensureDirectories directory output.parent with
    | mk made fault =>
      cases fault with
      | some fault => rfl
      | none =>
        dsimp only
        rw [Volume.write_without apart]
        cases made.write directory output (joinContents contents) <;> rfl

end MemberDocs.Collection
