import MemberDocs.Proofs.Result
import MemberDocs.Proofs.Volume.Obstruction

/-! # Spellings of a path

A path can be written in many ways: from the top or from the working directory, and with detours that
two dots take back. As long as the directories that it names are there, what can be done with it is
settled by the location that it means: whether something is there (`status_eq_get?`), what is read from
it (`read_eq_contentAt`) and what is written (`write_eq_put`). So two spellings of one place
(`Respelled`) are read and written alike, and faults differ in the text of the path alone
(`Respelled.read`, `Respelled.write`).
-/

namespace MemberDocs

/-- Two faults say the same of two spellings of a path. -/
inductive FileFault.Alike (directory : Location) : FileFault → FileFault → Prop
  | refused (reason : FileReason) {first second : Path}
      (same : first.resolve directory = second.resolve directory) :
      Alike directory (.refused reason first.text) (.refused reason second.text)
  | nullInPath : Alike directory .nullInPath .nullInPath
  | noDocumentation {first second : Path}
      (same : first.resolve directory = second.resolve directory) :
      Alike directory (.noDocumentation first.text) (.noDocumentation second.text)

/-- Two results are related, or they are faults that are alike. -/
inductive OutcomesAlike {α β : Type} (directory : Location) (related : α → β → Prop) :
    Except FileFault α → Except FileFault β → Prop
  | ok {a : α} {b : β} (here : related a b) : OutcomesAlike directory related (.ok a) (.ok b)
  | error {first second : FileFault} (alike : first.Alike directory second) :
      OutcomesAlike directory related (.error first) (.error second)

/-- Steps that end alike one by one end alike together. -/
theorem OutcomesAlike.mapM {α β γ δ : Type} {directory : Location} {related : γ → δ → Prop}
    {step : α → Except FileFault γ} {step' : β → Except FileFault δ} {as : List α} {bs : List β}
    (each : List.Forall₂ (fun a b => OutcomesAlike directory related (step a) (step' b)) as bs) :
    OutcomesAlike directory (List.Forall₂ related) (as.mapM step) (bs.mapM step') := by
  induction each with
  | nil => exact .ok .nil
  | @cons a b as bs first _ ih =>
    rw [mapM_cons_eq, mapM_cons_eq]
    generalize step a = result, step' b = result' at first ⊢
    generalize as.mapM step = results, bs.mapM step' = results' at ih ⊢
    cases first with
    | error alike => exact .error alike
    | ok here =>
      cases ih with
      | error alike => exact .error alike
      | ok others => exact .ok (.cons here others)

namespace Volume

variable {volume : Volume} {directory : Location} {path : Path}

/-- No name in the volume holds the null character, as no file system has such a name. -/
def FreeOfNull (volume : Volume) : Prop :=
  ∀ entry ∈ volume.entries, ∀ name ∈ entry.1, '\x00' ∉ name.toList

instance (volume : Volume) : Decidable volume.FreeOfNull := by
  unfold FreeOfNull
  infer_instance

/-- What a location holds, as far as it can be read. -/
def contentAt (volume : Volume) (location : Location) : Except FileReason (List UInt8) :=
  match volume.get? location with
  | some (.file content) => .ok content
  | some .directory => .error .isDirectory
  | none => .error .missing

theorem FreeOfNull.not_mem_of_get? (free : volume.FreeOfNull) {location : Location}
    {entry : FileEntry} (there : volume.get? location = some entry) {name : String}
    (among : name ∈ location) : '\x00' ∉ name.toList := by
  have notTop : location ≠ [] := List.ne_nil_of_mem among
  rw [get?_of_ne_top _ notTop] at there
  exact free _ (mem_of_lookup there) name among

theorem hasNull_iff : path.hasNull ↔ ∃ name ∈ path.parts, '\x00' ∈ name.toList := by
  simp [Path.hasNull]

/-- The path of a directory and its location are free of the null character. -/
theorem FreeOfNull.not_mem_of_isDirectory (free : volume.FreeOfNull)
    (there : volume.isDirectory directory path) :
    (∀ name ∈ path.parts, '\x00' ∉ name.toList) ∧
      ∀ name ∈ path.resolve directory, '\x00' ∉ name.toList := by
  obtain ⟨noNull, -, found⟩ := status_eq_some_iff.mp (of_decide_eq_true there)
  refine ⟨fun name among null => ?_, fun name among => free.not_mem_of_get? found among⟩
  have holds : path.hasNull := hasNull_iff.mpr ⟨name, among, null⟩
  rw [noNull] at holds
  cases holds

/-! ## One spelling -/

/-- The last name of a path leads on from the location of its parent. -/
theorem resolve_concat (directory : Location) (anchor : Anchor) (names : List String)
    (name : String) :
    (⟨anchor, names ++ [name]⟩ : Path).resolve directory =
      normalise ((⟨anchor, names⟩ : Path).resolve directory) [name] := by
  rw [Path.resolve_eq, Path.resolve_eq, normalise_append]
  rfl

theorem isDirectory_of_parent_concat {anchor : Anchor} {names : List String} {name : String}
    (above : volume.isDirectory directory (⟨anchor, names ++ [name]⟩ : Path).parent) :
    volume.isDirectory directory ⟨anchor, names⟩ := by
  simpa [Path.parent] using above

/-- A directory below another one is reached by the names that lead down to it. -/
theorem isDirectory_append (wellFormed : volume.WellFormed) (free : volume.FreeOfNull)
    (there : volume.isDirectory directory path) {names : List String}
    (below : volume.get? (path.resolve directory ++ names) = some .directory) :
    volume.isDirectory directory ⟨path.anchor, path.parts ++ names⟩ := by
  obtain ⟨noNull, located, found⟩ := status_eq_some_iff.mp (of_decide_eq_true there)
  have plain := wellFormed.not_mem_of_get? below
  rw [List.mem_append, not_or] at plain
  have meant := Path.resolve_append plain.2 directory path
  refine decide_eq_true (status_eq_some_iff.mpr ⟨?_, ?_, ?_⟩)
  · refine Bool.eq_false_iff.mpr fun null => ?_
    obtain ⟨name, among, holds⟩ := hasNull_iff.mp null
    rcases List.mem_append.mp among with before | later
    · have first : path.hasNull := hasNull_iff.mpr ⟨name, before, holds⟩
      rw [noNull] at first
      cases first
    · exact free.not_mem_of_get? below (List.mem_append_right _ later) holds
  · rw [meant]
    exact (follow_append located found names).trans (wellFormed.follow_of_get? below)
  · rw [meant, below]

section Above

variable (above : volume.isDirectory directory path.parent)

include above

/-- Where the directories on the way are there, the place that a path means can be written. -/
theorem target_of_isDirectory_parent :
    volume.target directory path = .ok (path.resolve directory) := by
  obtain ⟨anchor, parts⟩ := path
  cases parts using List.reverseRecOn with
  | nil =>
    rw [Path.resolve_eq]
    rfl
  | append_singleton names name =>
    obtain ⟨location, targeted⟩ :=
      exists_target_of_isDirectory name (isDirectory_of_parent_concat above)
    rw [targeted, target_eq_resolve targeted]

/-- What is written is settled by the location; a fault names the path as it is written. -/
theorem write_eq_put (content : List UInt8) :
    volume.write directory path content = if path.hasNull then .error .nullInPath
      else if volume.get? (path.resolve directory) = some .directory then
        .error (.refused .isDirectory path.text)
      else .ok (volume.put (path.resolve directory) (.file content)) := by
  unfold write
  rw [target_of_isDirectory_parent above]

/-- A path holds the null character exactly if the location that it means does. -/
theorem hasNull_iff_of_isDirectory_parent (free : volume.FreeOfNull) :
    path.hasNull ↔ ∃ name ∈ path.resolve directory, '\x00' ∈ name.toList := by
  obtain ⟨anchor, parts⟩ := path
  rw [hasNull_iff]
  cases parts using List.reverseRecOn with
  | nil =>
    obtain ⟨written, meant⟩ := free.not_mem_of_isDirectory above
    exact ⟨fun ⟨name, among, null⟩ => absurd null (written name among),
      fun ⟨name, among, null⟩ => absurd null (meant name among)⟩
  | append_singleton names name =>
    obtain ⟨written, meant⟩ := free.not_mem_of_isDirectory (isDirectory_of_parent_concat above)
    rw [resolve_concat]
    by_cases up : name = ".."
    · -- Two dots take a name away on one side and hold no null character on the other.
      subst up
      have dots : '\x00' ∉ "..".toList := by decide
      rw [normalise, if_pos rfl, normalise]
      constructor
      · rintro ⟨other, among, null⟩
        rcases List.mem_append.mp among with before | last
        · exact absurd null (written other before)
        · exact absurd (List.mem_singleton.mp last ▸ null) dots
      · rintro ⟨other, among, null⟩
        exact absurd null (meant other (List.dropLast_subset _ among))
    · rw [normalise, if_neg up, normalise]
      simp only [List.mem_append, List.mem_singleton]
      constructor
      · rintro ⟨other, before | last, null⟩
        · exact absurd null (written other before)
        · exact ⟨other, Or.inr last, null⟩
      · rintro ⟨other, before | last, null⟩
        · exact absurd null (meant other before)
        · exact ⟨other, Or.inr last, null⟩

variable (sound : volume.WellFormedAt directory)

include sound

/-- Where the directories on the way are there, only the last name of a path can be missing. -/
theorem locate_of_isDirectory_parent :
    volume.locate directory path =
      if (volume.get? (path.resolve directory)).isSome then .ok (path.resolve directory)
      else .error .missing := by
  have targeted := target_of_isDirectory_parent above
  cases there : volume.get? (path.resolve directory) with
  | some entry =>
    rw [locate_of_target targeted there]
    rfl
  | none =>
    -- Only a plain last name can lead to nothing.
    obtain ⟨anchor, parts⟩ := path
    cases parts using List.reverseRecOn with
    | nil =>
      have start := sound.get?_startOf ⟨anchor, []⟩
      rw [Path.resolve_eq] at there
      simp [normalise, start] at there
    | append_singleton names name =>
      obtain ⟨-, located, found⟩ :=
        status_eq_some_iff.mp (of_decide_eq_true (isDirectory_of_parent_concat above))
      rw [resolve_concat] at there
      have plain : name ≠ ".." := by
        rintro rfl
        have upwards := sound.wellFormed.get?_dropLast found
        simp [normalise, upwards] at there
      have straight : volume.get? ((⟨anchor, names⟩ : Path).resolve directory ++ [name]) = none := by
        simpa [normalise, plain] using there
      unfold locate at located ⊢
      have onwards := follow_append located found [name]
      rw [follow, if_neg plain, straight] at onwards
      exact onwards

/-- What a path leads to is what is at the location that it means. -/
theorem status_eq_get? (free : volume.FreeOfNull) :
    volume.status directory path = volume.get? (path.resolve directory) := by
  cases there : volume.get? (path.resolve directory) with
  | none =>
    cases found : volume.status directory path with
    | none => rfl
    | some entry =>
      rw [get?_of_status found] at there
      cases there
  | some entry =>
    refine status_eq_some_iff.mpr ⟨?_, ?_, there⟩
    · refine Bool.eq_false_iff.mpr fun null => ?_
      obtain ⟨name, among, holds⟩ := (hasNull_iff_of_isDirectory_parent above free).mp null
      exact free.not_mem_of_get? there among holds
    · rw [locate_of_isDirectory_parent above sound, there]
      rfl

/-- What is read is settled by the location; a fault names the path as it is written. -/
theorem read_eq_contentAt :
    volume.read directory path = if path.hasNull then .error .nullInPath
      else (volume.contentAt (path.resolve directory)).mapError (.refused · path.text) := by
  unfold read contentAt
  rw [locate_of_isDirectory_parent above sound]
  split
  next => rfl
  next =>
    cases there : volume.get? (path.resolve directory) with
    | none => rfl
    | some entry => cases entry <;> simp [there, Except.mapError]

end Above

/-! ## Two spellings -/

/-- Two paths are spellings of one place: the directories that they name are there, and they mean the
same location. -/
structure Respelled (volume : Volume) (directory : Location) (first second : Path) : Prop where
  firstAbove : volume.isDirectory directory first.parent
  secondAbove : volume.isDirectory directory second.parent
  same : first.resolve directory = second.resolve directory

namespace Respelled

variable {first second : Path} (respelled : volume.Respelled directory first second)
  (free : volume.FreeOfNull)

include respelled free

theorem hasNull : first.hasNull = second.hasNull := by
  apply Bool.eq_iff_iff.mpr
  rw [hasNull_iff_of_isDirectory_parent respelled.firstAbove free,
    hasNull_iff_of_isDirectory_parent respelled.secondAbove free, respelled.same]

theorem write (content : List UInt8) :
    OutcomesAlike directory (· = ·) (volume.write directory first content)
      (volume.write directory second content) := by
  rw [write_eq_put respelled.firstAbove, write_eq_put respelled.secondAbove,
    respelled.hasNull free, respelled.same]
  split
  next => exact .error .nullInPath
  next =>
    split
    next => exact .error (.refused .isDirectory respelled.same)
    next => exact .ok rfl

variable (sound : volume.WellFormedAt directory)

include sound

theorem status : volume.status directory first = volume.status directory second := by
  rw [status_eq_get? respelled.firstAbove sound free,
    status_eq_get? respelled.secondAbove sound free, respelled.same]

theorem read :
    OutcomesAlike directory (· = ·) (volume.read directory first)
      (volume.read directory second) := by
  rw [read_eq_contentAt respelled.firstAbove sound, read_eq_contentAt respelled.secondAbove sound,
    respelled.hasNull free, respelled.same]
  split
  next => exact .error .nullInPath
  next =>
    cases volume.contentAt (second.resolve directory) with
    | ok content => exact .ok rfl
    | error reason => exact .error (.refused reason respelled.same)

end Respelled

end Volume

end MemberDocs
