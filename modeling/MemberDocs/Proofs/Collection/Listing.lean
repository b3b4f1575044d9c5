import MemberDocs.Proofs.Collection.Discovery
import Mathlib.Data.List.Lex

/-! # The list of Markdown files

Below a directory, every file whose last name ends in `.md` is listed once (`mem_markdownBelow_iff`), in
strictly increasing order of the names that lead to it (`pairwise_lex_markdownBelow`). In which order the
volume holds its entries has no part in it (`discover_of_perm`).
-/

namespace MemberDocs

namespace Volume

variable {volume other : Volume}

/-- A volume with its entries in another order holds the same. -/
theorem WellFormed.get?_of_perm (wellFormed : volume.WellFormed)
    (permuted : other.entries.Perm volume.entries) (location : Location) :
    other.get? location = volume.get? location := by
  by_cases top : location = []
  · rw [top, get?_top, get?_top]
  · have nodup : (other.entries.map Prod.fst).Nodup :=
      (permuted.map Prod.fst).nodup_iff.mpr wellFormed.nodup
    rw [get?_of_ne_top _ top, get?_of_ne_top _ top]
    apply Option.ext
    intro entry
    rw [lookup_eq_some_iff_mem nodup, lookup_eq_some_iff_mem wellFormed.nodup]
    exact permuted.mem_iff

theorem WellFormed.of_perm (wellFormed : volume.WellFormed)
    (permuted : other.entries.Perm volume.entries) : other.WellFormed where
  nodup := (permuted.map Prod.fst).nodup_iff.mpr wellFormed.nodup
  named entry listed := wellFormed.named entry (permuted.mem_iff.mp listed)
  above entry listed := by
    rw [wellFormed.get?_of_perm permuted]
    exact wellFormed.above entry (permuted.mem_iff.mp listed)

end Volume

namespace Collection

variable {volume other : Volume} {directory location : Location} {path : Path}

/-! ## The order -/

/-- Names come before others if they are the same or smaller at the first place where they differ. -/
theorem isBefore_iff {first second : List String} :
    isBefore first second ↔ first = second ∨ List.Lex (· < ·) first second := by
  induction first generalizing second with
  | nil =>
    cases second with
    | nil => simp [isBefore]
    | cons name rest => exact iff_of_true rfl (Or.inr .nil)
  | cons name rest ih =>
    cases second with
    | nil => simp [isBefore]
    | cons name' rest' =>
      rw [isBefore]
      by_cases same : name = name'
      · subst same
        rw [if_pos rfl, ih, List.cons_lex_cons_iff]
        simp
      · rw [if_neg same, List.cons_lex_cons_iff]
        simp [same]

/-- What is listed is in strictly increasing order. -/
theorem pairwise_lex_markdownNames (wellFormed : volume.WellFormed) (location : Location) :
    (markdownNames volume location).Pairwise (List.Lex (· < ·)) := by
  have distinct := nodup_markdownNames wellFormed location
  refine ((pairwise_markdownNames volume location).and distinct).imp ?_
  rintro first second ⟨before, different⟩
  exact (isBefore_iff.mp before).resolve_left different

theorem pairwise_lex_markdownBelow (wellFormed : volume.WellFormed) (location : Location)
    (path : Path) :
    (markdownBelow volume location path).Pairwise
      fun first second => List.Lex (· < ·) first.parts second.parts := by
  unfold markdownBelow
  apply List.pairwise_map.mpr
  refine (pairwise_lex_markdownNames wellFormed location).imp fun before => ?_
  exact List.Lex.append_left _ before path.parts

/-! ## What is listed -/

theorem leadsToMarkdown_iff {names : List String} :
    leadsToMarkdown names ↔ ∃ above stem, names = above ++ [stem ++ ".md"] := by
  cases names using List.reverseRecOn with
  | nil => simp [leadsToMarkdown]
  | append_singleton above name =>
    simp only [leadsToMarkdown, List.getLast?_concat, isMarkdownName, List.isSuffixOf_iff_suffix]
    constructor
    · rintro ⟨stem, ends⟩
      have named : String.ofList stem ++ ".md" = name := by
        apply String.toList_inj.mp
        rw [String.toList_append, String.toList_ofList, ends]
      exact ⟨above, String.ofList stem, by rw [named]⟩
    · rintro ⟨above', stem, same⟩
      obtain ⟨-, last⟩ := List.append_inj' same rfl
      obtain rfl : name = stem ++ ".md" := by simpa using last
      exact ⟨stem.toList, by simp⟩

/-- The files below a location whose last name ends in `.md`, at any depth. -/
theorem mem_markdownBelow_iff (wellFormed : volume.WellFormed) {file : Path} :
    file ∈ markdownBelow volume location path ↔ ∃ above stem content,
      file = ⟨path.anchor, path.parts ++ (above ++ [stem ++ ".md"])⟩ ∧
      volume.get? (location ++ (above ++ [stem ++ ".md"])) = some (.file content) := by
  have listed : markdownBelow volume location path = (markdownNames volume location).map
      fun names => ⟨path.anchor, path.parts ++ names⟩ := rfl
  rw [listed, List.mem_map]
  constructor
  · rintro ⟨names, member, rfl⟩
    obtain ⟨markdown, content, there⟩ := (mem_markdownNames_iff wellFormed).mp member
    obtain ⟨above, stem, rfl⟩ := leadsToMarkdown_iff.mp markdown
    exact ⟨above, stem, content, rfl, there⟩
  · rintro ⟨above, stem, content, rfl, there⟩
    exact ⟨_, (mem_markdownNames_iff wellFormed).mpr
      ⟨leadsToMarkdown_iff.mpr ⟨above, stem, rfl⟩, content, there⟩, rfl⟩

/-! ## The order of the entries -/

/-- The same is discovered whatever the order of the entries is. -/
theorem discover_of_perm (wellFormed : volume.WellFormed)
    (permuted : other.entries.Perm volume.entries) {files : List Path}
    (found : discover volume directory path = .ok files) :
    discover other directory path = .ok files := by
  obtain ⟨⟨entry, there⟩, rfl⟩ := discover_eq_ok_iff.mp found
  have evolves := Volume.evolves_of_get?_eq (wellFormed.get?_of_perm permuted)
    (wellFormed.of_perm permuted)
  obtain ⟨later, stays, kind⟩ := evolves.exists_status there
  have sorts : (∃ content, volume.get? (path.resolve directory) = some (.file content)) ∨
      other.get? (path.resolve directory) = some .directory := by
    cases entry with
    | file content => exact Or.inl ⟨content, Volume.get?_of_status there⟩
    | directory => exact Or.inr (kind.mpr rfl ▸ Volume.get?_of_status stays)
  have same : (documentationFiles other directory path).filter (fun _ => true) =
      (documentationFiles volume directory path).filter fun _ => true :=
    @filter_documentationFiles_of_evolves _ _ _ _ _ _ evolves wellFormed sorts (fun _ => true)
      fun _ _ => id
  rw [List.filter_true, List.filter_true] at same
  exact discover_eq_ok_iff.mpr ⟨⟨later, stays⟩, same.symm⟩

end Collection

end MemberDocs
