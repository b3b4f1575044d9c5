import MemberDocs.Volume.Basic

/-! # Changes of a volume

What is different below a location between two volumes, in the order of the paths. A directory is
written with a slash at its end.
-/

namespace MemberDocs

/-- What has happened to a path. -/
inductive VolumeChange where
  /-- A file is new or has another content. -/
  | written (content : List UInt8)
  | directoryMade
  | removed
deriving DecidableEq, Repr

namespace Volume

/-- Puts something into a volume, with the directories above it. -/
def plant (volume : Volume) (location : Location) (entry : FileEntry) : Volume :=
  let above := (List.range location.length).map fun n => location.take n
  let made := above.foldl (fun volume directory =>
    if (volume.get? directory).isNone then volume.put directory .directory else volume) volume
  made.put location entry

/-- What is below a location, by the text of its path from there. -/
def listing (volume : Volume) (location : Location) : List (String × FileEntry) :=
  volume.entries.filterMap fun entry =>
    if location.isPrefixOf entry.1 && entry.1 ≠ location then
      let path := String.intercalate "/" (entry.1.drop location.length)
      some (if entry.2 = .directory then path ++ "/" else path, entry.2)
    else none

/-- What has changed below a location. -/
def changesBelow (location : Location) (before after : Volume) : List (String × VolumeChange) :=
  let old := before.listing location
  let new := after.listing location
  let written := new.filterMap fun (path, entry) =>
    if old.lookup path = some entry then none
    else
      match entry with
      | .file content => some (path, VolumeChange.written content)
      | .directory => some (path, .directoryMade)
  let removed := old.filterMap fun (path, _) =>
    if (new.lookup path).isSome then none else some (path, VolumeChange.removed)
  (written ++ removed).mergeSort fun a b => !decide (b.1 < a.1)

end Volume

end MemberDocs
