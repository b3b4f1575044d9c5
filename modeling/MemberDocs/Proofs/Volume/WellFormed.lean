import MemberDocs.Volume.Basic
import MemberDocs.Proofs.Association
import Mathlib.Data.List.Induction

/-! # Well-formed volumes

A volume is a list of locations, and not every list is that of a file system: in one that is, each
location is listed once, below a directory, and two dots are no name (`Volume.WellFormed`). There what
is listed is what is at a location (`WellFormed.mem_entries_iff`), and a file or a directory that is
put where no directory was keeps the volume well-formed (`WellFormed.put`).
-/

namespace MemberDocs.Volume

@[simp] theorem get?_top (volume : Volume) : volume.get? [] = some .directory := rfl

theorem get?_of_ne_top (volume : Volume) {location : Location} (notTop : location ≠ []) :
    volume.get? location = volume.entries.lookup location := by
  cases location with
  | nil => exact absurd rfl notTop
  | cons name names => rfl

@[simp] theorem get?_put_self (volume : Volume) {location : Location} (notTop : location ≠ [])
    (entry : FileEntry) : (volume.put location entry).get? location = some entry := by
  rw [get?_of_ne_top _ notTop]
  simp [put]

theorem get?_put_of_ne (volume : Volume) {location other : Location} (different : other ≠ location)
    (entry : FileEntry) : (volume.put location entry).get? other = volume.get? other := by
  by_cases top : other = []
  · rw [top, get?_top, get?_top]
  · have unequal : (other == location) = false := by simpa using different
    rw [get?_of_ne_top _ top, get?_of_ne_top _ top, put, List.lookup_cons,
      lookup_filter_key fun key => decide (key ≠ location)]
    simp [unequal, different]

/-- What the list of locations of a file system is like. -/
structure WellFormed (volume : Volume) : Prop where
  nodup : (volume.entries.map Prod.fst).Nodup
  named : ∀ entry ∈ volume.entries, entry.1 ≠ [] ∧ ".." ∉ entry.1
  above : ∀ entry ∈ volume.entries, volume.get? entry.1.dropLast = some .directory

namespace WellFormed

variable {volume : Volume} (wellFormed : volume.WellFormed)

include wellFormed

/-- What is listed is what is there, but for the top directory. -/
theorem mem_entries_iff {location : Location} {entry : FileEntry} :
    (location, entry) ∈ volume.entries ↔
      location ≠ [] ∧ volume.get? location = some entry := by
  constructor
  · intro listed
    have notTop := (wellFormed.named _ listed).1
    exact ⟨notTop, by
      rw [get?_of_ne_top _ notTop]
      exact (lookup_eq_some_iff_mem wellFormed.nodup).mpr listed⟩
  · rintro ⟨notTop, there⟩
    rw [get?_of_ne_top _ notTop] at there
    exact mem_of_lookup there

/-- Everything is in a directory. -/
theorem get?_dropLast {location : Location} {entry : FileEntry}
    (there : volume.get? location = some entry) :
    volume.get? location.dropLast = some .directory := by
  by_cases top : location = []
  · rw [top, List.dropLast_nil, get?_top]
  · exact wellFormed.above _ (wellFormed.mem_entries_iff.mpr ⟨top, there⟩)

/-- What something is below of is a directory. -/
theorem get?_of_append {location names : List String} {entry : FileEntry} (below : names ≠ [])
    (there : volume.get? (location ++ names) = some entry) :
    volume.get? location = some .directory := by
  induction names using List.reverseRecOn generalizing entry with
  | nil => exact absurd rfl below
  | append_singleton names name ih =>
    have above := wellFormed.get?_dropLast there
    rw [← List.append_assoc, List.dropLast_concat] at above
    cases names with
    | nil => rwa [List.append_nil] at above
    | cons first rest => exact ih (List.cons_ne_nil first rest) above

theorem not_mem_of_get? {location : Location} {entry : FileEntry}
    (there : volume.get? location = some entry) : ".." ∉ location := by
  by_cases top : location = []
  · rw [top]
    exact List.not_mem_nil
  · exact (wellFormed.named _ (wellFormed.mem_entries_iff.mpr ⟨top, there⟩)).2

/-- A file or a directory can be put into any directory, at a name where no directory is. -/
theorem put {location : Location} (notTop : location ≠ []) (named : ".." ∉ location)
    (above : volume.get? location.dropLast = some .directory)
    (notDirectory : volume.get? location ≠ some .directory) (entry : FileEntry) :
    (volume.put location entry).WellFormed := by
  have others {pair : Location × FileEntry}
      (kept : pair ∈ volume.entries.filter (·.1 ≠ location)) :
      pair ∈ volume.entries ∧ pair.1 ≠ location := by
    simpa using List.mem_filter.mp kept
  refine ⟨?_, ?_, ?_⟩
  · refine List.nodup_cons.mpr ⟨?_, wellFormed.nodup.sublist (List.filter_sublist.map _)⟩
    intro again
    obtain ⟨pair, kept, same⟩ := List.mem_map.mp again
    exact (others kept).2 same
  · intro pair listed
    rcases List.mem_cons.mp listed with rfl | kept
    · exact ⟨notTop, named⟩
    · exact wellFormed.named pair (others kept).1
  · intro pair listed
    -- Nothing was below the location, so what is put there is above nothing.
    have apart : pair.1.dropLast ≠ location := by
      rcases List.mem_cons.mp listed with rfl | kept
      · intro same
        have shorter := congrArg List.length same
        have positive := List.length_pos_iff.mpr notTop
        simp at shorter
        omega
      · intro same
        exact notDirectory (same ▸ wellFormed.above pair (others kept).1)
    rw [get?_put_of_ne _ apart]
    rcases List.mem_cons.mp listed with rfl | kept
    · exact above
    · exact wellFormed.above pair (others kept).1

end WellFormed

end MemberDocs.Volume
