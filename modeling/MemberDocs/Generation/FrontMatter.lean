import MemberDocs.FrontMatter.Search
import MemberDocs.Generation.Failure
import MemberDocs.Generation.Journal
import MemberDocs.Generation.Settings

/-! # Front matter in effect

The front matter of a documentation path overrides two of the settings: whether the files are merged,
always, and what becomes of tags without a rule, if it says so.
-/

namespace MemberDocs.Generation

open FrontMatter (AllowedTags Options)

/-- The policy that a choice of tags means. -/
def policyOf : AllowedTags → TagPolicy
  | .everyTag => .warn
  | .knownTags => .error

/-- The settings with the options of front matter in effect. -/
def Settings.override (settings : Settings) (options : Options) : Settings :=
  { settings with
    mergesFiles := options.mergeXmlComments
    policy := (options.allowedTags.map policyOf).getD settings.policy }

/-- Reads the options in a block; keys that are no options are named in the journal. -/
def readOptions (journal : Journal) (content : String) :
    Journal × Except FrontMatter.OptionsError Options :=
  match Options.ofText content with
  | .error error => (journal, .error error)
  | .ok (options, unknown) =>
    if unknown.isEmpty then (journal, .ok options)
    else
      (journal.note
        { level := .debug, source := .frontMatter
          message := "Ignoring unrecognised front matter keys: " ++
            String.intercalate ", " unknown }, .ok options)

/-- Applies the front matter of a documentation path to the settings, if it has any. -/
def applyFrontMatter (journal : Journal) (directory : Location) (documentation : Path)
    (settings : Settings) : Journal × Except Failure Settings :=
  match FrontMatter.findBlock journal.volume directory documentation with
  | .error fault => (journal, .error (.file fault))
  | .ok none =>
    (journal.note
      { level := .debug, source := .run
        message := "No front matter found under " ++ documentation.text }, .ok settings)
  | .ok (some (path, block)) =>
    match readOptions journal block.content with
    | (journal, .error error) => (journal, .error (.frontMatter error))
    | (journal, .ok options) =>
      (journal.note
        { level := .info, source := .run
          message := "Applying front matter options from " ++ path.text },
        .ok (settings.override options))

end MemberDocs.Generation
