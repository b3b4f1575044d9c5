import MemberDocs.Config.Load
import MemberDocs.Proofs.Result
import MemberDocs.Proofs.Volume.Obstruction

/-! # Loading a configuration

A configuration file is named in many ways: by a path from the top or from any working directory, or
by a path of the directory that it is in if it has the usual name (`Names`). What is loaded is settled
by the location of the file, so it does not matter which way it has been named and from where
(`load_of_names`). The settings are read key by key (`settingsFrom`), and each of their paths starts at
the directory of the file (`configuration_is_independent_of_place`). A relative path whose first name
starts with a tilde is another matter, also if it is written with a dot before the name
(`dotted_tilde_leads_home`).
-/

namespace MemberDocs

/-! ## Values as settings see them -/

namespace Yaml

/-- A text, a number or a truth value. -/
def Scalar.isListed : Scalar → Bool
  | .str _ | .int _ | .bool _ | .float _ | .noNumber _ => true
  | _ => false

/-- A value as far as settings are read from it. Of the collections only lists count, and a collection
among their items does not. -/
inductive View where
  | scalar (value : Scalar)
  | list (items : List (Option Scalar))
  | collection
deriving DecidableEq, Repr

def Object.scalar? : Object → Option Scalar
  | .scalar value => some value
  | _ => none

def Data.view (data : Data) : Object → View
  | .scalar value => .scalar value
  | .list items => .list (items.map fun item => (data.object item).scalar?)
  | _ => .collection

namespace View

def flag? : View → Option Bool
  | scalar value => (Object.scalar value).flag?
  | _ => none

/-- The scalar that is the text of a path: a text or a number. -/
def path? : View → Option Scalar
  | scalar (.bool _) => none
  | scalar value => if value.isListed then some value else none
  | _ => none

/-- The scalars that are texts of paths, in their order: a text is a list of one, bytes are a list of
numbers, and of the items of a list those are kept that are texts, numbers or truth values. -/
def paths : View → List Scalar
  | scalar (.str s) => [.str s]
  | scalar (.bytes bytes) => bytes.map fun b => .int b.toNat
  | list items => items.reduceOption.filter (·.isListed)
  | _ => []

/-- The texts of these scalars. -/
def texts (view : View) : List String :=
  view.paths.filterMap Scalar.text?

def text? (view : View) : Option String :=
  view.path?.bind Scalar.text?

end View

theorem Scalar.text_eq_ok_iff {value : Scalar} {text : String} :
    value.text = .ok text ↔ value.text? = some text := by
  unfold Scalar.text
  cases value.text? <;> simp

/-- Scalars are all written, unless an integer among them is too long for that. -/
theorem mapM_text_eq_ok_iff {values : List Scalar} {texts : List String} :
    values.mapM Scalar.text = .ok texts ↔
      (∀ value ∈ values, value.text?.isSome) ∧ values.filterMap Scalar.text? = texts := by
  constructor
  · intro done
    induction forall₂_of_mapM done with
    | nil => exact ⟨nofun, rfl⟩
    | @cons value text rest texts here later ih =>
      obtain ⟨each, rfl⟩ := ih (mapM_of_forall₂ later)
      have written := Scalar.text_eq_ok_iff.mp here
      exact ⟨List.forall_mem_cons.mpr ⟨by rw [written]; rfl, each⟩,
        List.filterMap_cons_some written⟩
  · rintro ⟨each, rfl⟩
    refine mapM_of_forall₂ ?_
    induction values with
    | nil => exact .nil
    | cons value rest ih =>
      obtain ⟨here, later⟩ := List.forall_mem_cons.mp each
      obtain ⟨text, written⟩ := Option.isSome_iff_exists.mp here
      rw [List.filterMap_cons_some written]
      exact .cons (Scalar.text_eq_ok_iff.mpr written) (ih later)

theorem itemTexts_eq_mapM (objects : List Object) :
    itemTexts objects = (View.list (objects.map Object.scalar?)).paths.mapM Scalar.text := by
  induction objects with
  | nil => rfl
  | cons object rest ih =>
    cases object with
    | list items | dict entries | set entries | pairs entries => exact ih
    | scalar value =>
      cases value with
      | null | bytes bytes | timestamp t => exact ih
      | bool b | int n | float x | noNumber named | str s =>
        refine Eq.trans ?_ (mapM_cons_eq _ _ _).symm
        rw [itemTexts, ih]
        rfl

theorem text_byte (b : UInt8) : (Scalar.int b.toNat).text = .ok (toString b.toNat) := by
  have every : ∀ n : Fin 256, (Scalar.int n.val).text? = some (toString n.val) := by
    decide +kernel
  rw [Scalar.text, every ⟨b.toNat, b.toNat_lt⟩]

theorem pathTexts_eq_mapM (data : Data) (object : Object) :
    data.pathTexts object = (data.view object).paths.mapM Scalar.text := by
  cases object with
  | list items =>
    rw [Data.pathTexts, itemTexts_eq_mapM, Data.view, List.map_map]
    rfl
  | dict entries | set entries | pairs entries => rfl
  | scalar value =>
    cases value with
    | null | bool b | int n | float x | noNumber named | timestamp t | str s => rfl
    | bytes bytes =>
      symm
      refine mapM_of_forall₂ ?_
      show List.Forall₂ _ (bytes.map fun b => Scalar.int b.toNat) _
      rw [List.forall₂_map_left_iff, List.forall₂_map_right_iff]
      exact List.forall₂_same.mpr fun b _ => text_byte b

theorem pathText_eq_mapM (data : Data) (object : Object) :
    object.pathText = ((data.view object).path?.toList.mapM Scalar.text).map List.head? := by
  cases object with
  | list items | dict entries | set entries | pairs entries => rfl
  | scalar value =>
    cases value with
    | null | bool b | bytes bytes | timestamp t | str s | float x | noNumber named => rfl
    | int n =>
      show (Scalar.int n).text.map some = _
      refine Eq.trans ?_ (congrArg (Except.map List.head?) (mapM_cons_eq _ _ _).symm)
      cases (Scalar.int n).text <;> rfl

theorem pathText_eq_ok_iff (data : Data) {object : Object} {text : Option String} :
    object.pathText = .ok text ↔
      (∀ value ∈ (data.view object).path?, value.text?.isSome) ∧
        (data.view object).text? = text := by
  have first : ((data.view object).path?.toList.filterMap Scalar.text?).head? =
      (data.view object).text? := by
    unfold View.text?
    cases (data.view object).path? with
    | none => rfl
    | some value => cases written : value.text? <;> simp [written]
  rw [pathText_eq_mapM data, map_eq_ok_iff]
  constructor
  · rintro ⟨texts, written, rfl⟩
    obtain ⟨each, rfl⟩ := mapM_text_eq_ok_iff.mp written
    exact ⟨fun value named => each value (Option.mem_toList.mpr named), first.symm⟩
  · rintro ⟨each, rfl⟩
    exact ⟨_, mapM_text_eq_ok_iff.mpr ⟨fun value named => each value (Option.mem_toList.mp named),
      rfl⟩, first⟩

theorem flag?_view (data : Data) (object : Object) : (data.view object).flag? = object.flag? := by
  cases object <;> rfl

end Yaml

namespace Config

open Generation (Settings)
open Yaml (Data Entry Scalar View)

/-! ## Settings from values -/

/-- The settings that the values under the keys make, with paths that start at `root`. -/
def settingsFrom (root : Path) (view : String → View) : Settings where
  inputs := (view "inputs").texts.map fun text => root.join (Path.ofString text)
  documentation := pathUnder root (view "documentation_path").text?
  mergesFiles := (view "merge_files").flag?.getD false
  output := pathUnder root (view "output_file").text?
  policy := if (view "warn_on_unexpected_tag").flag? = some true then .warn else .error

/-- Each scalar that is to be a path can be written. -/
structure Writable (view : String → View) : Prop where
  inputs : ∀ value ∈ (view "inputs").paths, value.text?.isSome
  documentation : ∀ value ∈ (view "documentation_path").path?, value.text?.isSome
  output : ∀ value ∈ (view "output_file").path?, value.text?.isSome

theorem settingsOf_eq_ok_iff {root : Path} {data : Data} {entries : List Entry}
    {settings : Settings} :
    settingsOf root data entries = .ok settings ↔
      Writable (fun key => data.view (data.valueOf entries key)) ∧
        settingsFrom root (fun key => data.view (data.valueOf entries key)) = settings := by
  simp only [settingsOf, bind, bind_eq_ok_iff, Yaml.pathText_eq_ok_iff data,
    Yaml.pathTexts_eq_mapM, Yaml.mapM_text_eq_ok_iff, ← Yaml.flag?_view data]
  constructor
  · rintro ⟨_, ⟨documentation, rfl⟩, _, ⟨output, rfl⟩, _, ⟨inputs, rfl⟩, same⟩
    exact ⟨⟨inputs, documentation, output⟩, Except.ok.inj same⟩
  · rintro ⟨⟨inputs, documentation, output⟩, rfl⟩
    exact ⟨_, ⟨documentation, rfl⟩, _, ⟨output, rfl⟩, _, ⟨inputs, rfl⟩, rfl⟩

/-! ## The mapping of a file -/

/-- The data in the text of a configuration file, with the pairs of its mapping. A blank text, or
one that holds nothing, has no pairs. -/
def mappingOf (name : String) (text : List Char) : Except LoadError (Data × List Entry) :=
  if text.all Text.isBlank then .ok (⟨#[], 0⟩, [])
  else
    match Data.ofText text with
    | .error fault => .error (.ofFault name fault)
    | .ok data =>
      match data.rootObject with
      | .scalar .null => .ok (data, [])
      | .dict entries => .ok (data, entries)
      | _ => .error .notMapping

/-- The data in a configuration file, with the pairs of its mapping. A file that is not there has
none. -/
def mappingAt (volume : Volume) (file : Location) : Except LoadError (Data × List Entry) :=
  let path := Path.ofLocation file
  if !volume.hasPath [] path then .ok (⟨#[], 0⟩, [])
  else
    match volume.read [] path with
    | .error fault => .error (.file fault)
    | .ok bytes =>
      match Text.decodeUtf8 bytes with
      | .error error => .error (.notText error)
      | .ok text => mappingOf path.name (Text.unifyChars text)

/-- The value under a key of the mapping of a configuration file, as settings see it. -/
def valueAt (volume : Volume) (file : Location) (key : String) : View :=
  match mappingAt volume file with
  | .error _ => .scalar .null
  | .ok (data, entries) => data.view (data.valueOf entries key)

/-- The settings in a mapping of the file with the name. -/
def settingsIn (root : Path) (name : String) (mapping : Data × List Entry) :
    Except LoadError Settings :=
  (settingsOf root mapping.1 mapping.2).mapError (.ofFault name)

theorem settingsIn_nil (root : Path) (name : String) (data : Data) :
    settingsIn root name (data, []) = .ok {} := by
  have none : settingsOf root data [] = .ok {} :=
    settingsOf_eq_ok_iff.mpr ⟨⟨by rintro _ ⟨⟩, by rintro _ ⟨⟩, by rintro _ ⟨⟩⟩, rfl⟩
  rw [settingsIn, none]
  rfl

theorem settingsOfText_eq (root : Path) (name : String) (text : List Char) :
    settingsOfText root name text = (mappingOf name text).bind (settingsIn root name) := by
  unfold settingsOfText mappingOf
  split
  next => exact (settingsIn_nil root name _).symm
  next =>
    cases Data.ofText text with
    | error fault => rfl
    | ok data =>
      dsimp only
      cases data.rootObject with
      | list items | dict entries | set entries | pairs entries => rfl
      | scalar value =>
        cases value with
        | null => exact (settingsIn_nil root name data).symm
        | bool b | int n | float x | noNumber named | str s | bytes bytes | timestamp t => rfl

variable {surroundings : Surroundings} {volume : Volume} {path : Path} {file : Location}

/-- Once the file has been located, nothing else of the path matters. -/
theorem load_eq_of_locate (located : locate surroundings volume path = .ok file) :
    load surroundings volume path =
      (mappingAt volume file).bind
        (settingsIn (.ofLocation file.dropLast) (Path.ofLocation file).name) := by
  unfold load mappingAt
  rw [located]
  simp only [bind, Except.bind]
  split
  next => exact (settingsIn_nil _ _ _).symm
  next =>
    cases volume.read [] (Path.ofLocation file) with
    | error fault => rfl
    | ok bytes =>
      dsimp only
      cases Text.decodeUtf8 bytes with
      | error error => rfl
      | ok text => exact settingsOfText_eq _ _ _

/-! ## Names of a file -/

/-- The path is relative, and its first name starts with a tilde. -/
def StartsAtHome (path : Path) : Prop :=
  path.anchor = .relative ∧ ∃ name ∈ path.parts.head?, name.toList.head? = some '~'

instance (path : Path) : Decidable (StartsAtHome path) := by
  unfold StartsAtHome
  infer_instance

theorem expandHome_of_not_startsAtHome (untilded : ¬ StartsAtHome path) :
    expandHome surroundings path = .ok path := by
  unfold expandHome
  split
  next name names relative parts =>
    split
    next owner tilde => exact absurd ⟨relative, name, by simp [parts], by simp [tilde]⟩ untilded
    next => rfl
  next => rfl

/-- A path names a configuration file, as it is seen from the surroundings: it is a path of the file,
or one of the directory that the file of the usual name is in. The file need not be there. -/
inductive Names (surroundings : Surroundings) (volume : Volume) (path : Path) :
    Location → Prop where
  | file (untilded : ¬ StartsAtHome path) (noNull : path.hasNull = false)
      (notDirectory : volume.get? (path.resolve surroundings.directory) ≠ some .directory) :
      Names surroundings volume path (path.resolve surroundings.directory)
  | directory (untilded : ¬ StartsAtHome path)
      (isDirectory : volume.isDirectory surroundings.directory path) :
      Names surroundings volume path (path.resolve surroundings.directory ++ [fileName])

theorem Names.locate (named : Names surroundings volume path file) :
    locate surroundings volume path = .ok file := by
  unfold Config.locate
  cases named with
  | file untilded noNull notDirectory =>
    have leadsElsewhere : volume.isDirectory surroundings.directory path = false :=
      decide_eq_false fun there => notDirectory (Volume.get?_of_status there)
    simp [expandHome_of_not_startsAtHome untilded, bind, Except.bind, noNull, leadsElsewhere]
  | directory untilded isDirectory =>
    obtain ⟨noNull, -, -⟩ := Volume.status_eq_some_iff.mp (of_decide_eq_true isDirectory)
    have below : (path.child fileName).resolve surroundings.directory =
        path.resolve surroundings.directory ++ [fileName] :=
      Path.resolve_append (by decide) surroundings.directory path
    simp [expandHome_of_not_startsAtHome untilded, bind, Except.bind, noNull, isDirectory, below]

/-- However a file is named, the same is loaded, or loading fails alike. -/
theorem load_of_names {elsewhere : Surroundings} {other : Path}
    (named : Names surroundings volume path file) (again : Names elsewhere volume other file) :
    load elsewhere volume other = load surroundings volume path := by
  rw [load_eq_of_locate named.locate, load_eq_of_locate again.locate]

/-- A file is loaded if it has a mapping whose paths can be written, and then the values under the
keys make the settings. -/
theorem load_eq_ok_iff {settings : Settings} (named : Names surroundings volume path file) :
    load surroundings volume path = .ok settings ↔
      (∃ mapping, mappingAt volume file = .ok mapping) ∧ Writable (valueAt volume file) ∧
        settingsFrom (.ofLocation file.dropLast) (valueAt volume file) = settings := by
  rw [load_eq_of_locate named.locate]
  cases held : mappingAt volume file with
  | error error => simp [Except.bind]
  | ok mapping =>
    obtain ⟨data, entries⟩ := mapping
    have values : valueAt volume file = fun key => data.view (data.valueOf entries key) := by
      unfold valueAt
      rw [held]
    rw [values, ← settingsOf_eq_ok_iff, Except.bind, settingsIn, mapError_eq_ok_iff]
    exact ⟨fun made => ⟨⟨_, rfl⟩, made⟩, fun made => made.2⟩

/-! ## Paths of settings -/

/-- There is one input for each scalar that is listed, in their order. -/
theorem forall₂_inputs {view : String → View} (writable : Writable view) (root : Path) :
    List.Forall₂
      (fun value place => ∃ text, value.text? = some text ∧ place = root.join (Path.ofString text))
      (view "inputs").paths (settingsFrom root view).inputs := by
  have written := forall₂_of_mapM (Yaml.mapM_text_eq_ok_iff.mpr ⟨writable.inputs, rfl⟩)
  exact List.forall₂_map_right_iff.mpr
    (written.imp fun value text done => ⟨text, Yaml.Scalar.text_eq_ok_iff.mp done, rfl⟩)

/-- The paths in settings. -/
def pathsIn (settings : Settings) : List Path :=
  settings.inputs ++ settings.documentation.toList ++ settings.output.toList

theorem exists_of_mem_pathUnder {root place : Path} {text : Option String}
    (named : place ∈ pathUnder root text) : ∃ text, place = root.join (Path.ofString text) := by
  unfold pathUnder at named
  split at named
  next => cases named
  next text =>
    split at named
    next => cases named
    next => exact ⟨text, (Option.some.inj named).symm⟩

/-- Each path has been written in the file, and is read from the root on. -/
theorem exists_of_mem_pathsIn {root place : Path} {view : String → View}
    (named : place ∈ pathsIn (settingsFrom root view)) :
    ∃ text, place = root.join (Path.ofString text) := by
  rcases List.mem_append.mp named with earlier | output
  · rcases List.mem_append.mp earlier with input | documentation
    · obtain ⟨text, -, rfl⟩ := List.mem_map.mp input
      exact ⟨text, rfl⟩
    · exact exists_of_mem_pathUnder (Option.mem_toList.mp documentation)
  · exact exists_of_mem_pathUnder (Option.mem_toList.mp output)

theorem join_ofLocation (directory : Location) (written : Path) :
    (Path.ofLocation directory).join written =
      if written.anchor = .relative then .ofLocation (directory ++ written.parts) else written := by
  obtain ⟨anchor, parts⟩ := written
  cases anchor <;> rfl

theorem anchor_join_ofLocation (directory : Location) (written : Path) :
    ((Path.ofLocation directory).join written).anchor ≠ .relative := by
  obtain ⟨anchor, parts⟩ := written
  cases anchor <;> nofun

/-! ## Independence -/

/-- Wherever two mappings have the same value under a key, the settings have the same in the field of
that key. -/
structure AgreeByKey (first second : String → View) (settings others : Settings) : Prop where
  inputs : first "inputs" = second "inputs" → settings.inputs = others.inputs
  documentation : first "documentation_path" = second "documentation_path" →
    settings.documentation = others.documentation
  mergesFiles : first "merge_files" = second "merge_files" →
    settings.mergesFiles = others.mergesFiles
  output : first "output_file" = second "output_file" → settings.output = others.output
  policy : first "warn_on_unexpected_tag" = second "warn_on_unexpected_tag" →
    settings.policy = others.policy

theorem agreeByKey_settingsFrom (root : Path) (first second : String → View) :
    AgreeByKey first second (settingsFrom root first) (settingsFrom root second) where
  inputs same := by simp only [settingsFrom, same]
  documentation same := by simp only [settingsFrom, same]
  mergesFiles same := by simp only [settingsFrom, same]
  output same := by simp only [settingsFrom, same]
  policy same := by simp only [settingsFrom, same]

/-- A configuration does not depend on where it is loaded from: for all names of its file and all
working directories the same is loaded, or the same error is met. Each of the settings is made of the
value under one key, so another file in the same place with this value gives the same. The inputs are
all texts, numbers and truth values under their key, in their order, and all paths are absolute: the
directory of the file joined with what is written. -/
theorem configuration_is_independent_of_place (named : Names surroundings volume path file) :
    (∀ elsewhere other, Names elsewhere volume other file →
      load elsewhere volume other = load surroundings volume path) ∧
    (∀ settings, load surroundings volume path = .ok settings ↔
      (∃ mapping, mappingAt volume file = .ok mapping) ∧ Writable (valueAt volume file) ∧
        settingsFrom (.ofLocation file.dropLast) (valueAt volume file) = settings) ∧
    ∀ settings, load surroundings volume path = .ok settings →
      List.Forall₂
        (fun value place => ∃ text, value.text? = some text ∧
          place = (Path.ofLocation file.dropLast).join (Path.ofString text))
        (valueAt volume file "inputs").paths settings.inputs ∧
      (∀ place ∈ pathsIn settings, place.anchor ≠ .relative ∧
        ∃ text, place =
          if (Path.ofString text).anchor = .relative then
            .ofLocation (file.dropLast ++ (Path.ofString text).parts)
          else Path.ofString text) ∧
      ∀ elsewhere changed other others, Names elsewhere changed other file →
        load elsewhere changed other = .ok others →
          AgreeByKey (valueAt volume file) (valueAt changed file) settings others := by
  refine ⟨fun elsewhere other again => load_of_names named again,
    fun settings => load_eq_ok_iff named, ?_⟩
  intro settings loaded
  obtain ⟨-, writable, rfl⟩ := (load_eq_ok_iff named).mp loaded
  refine ⟨forall₂_inputs writable _, fun place among => ?_, ?_⟩
  · obtain ⟨text, rfl⟩ := exists_of_mem_pathsIn among
    exact ⟨anchor_join_ofLocation _ _, text, join_ofLocation _ _⟩
  · intro elsewhere changed other others again loadedAgain
    obtain ⟨-, -, rfl⟩ := (load_eq_ok_iff again).mp loadedAgain
    exact agreeByKey_settingsFrom _ _ _

/-! ### A project -/

/-- A project with a configuration. Of its inputs, the list among them does not count. -/
def projectVolume : Volume :=
  ⟨[(["project"], .directory),
    (["project", fileName], .file (Text.encodeUtf8
      "documentation_path: ../docs\ninputs: [b.xml, 7, [c.xml], true, /a.xml]\n")),
    (["project", "source"], .directory)]⟩

def projectSettings : Settings where
  inputs := [⟨.top, ["project", "b.xml"]⟩, ⟨.top, ["project", "7"]⟩, ⟨.top, ["project", "True"]⟩,
    ⟨.top, ["a.xml"]⟩]
  documentation := some ⟨.top, ["project", "..", "docs"]⟩

/-- From below the project its directory is named, and from above it the file. -/
theorem project_is_loaded_from_above_and_below :
    load ⟨["project", "source"], []⟩ projectVolume (Path.ofString "..") = .ok projectSettings ∧
      load ⟨[], []⟩ projectVolume (Path.ofString "project/source/../.xmldoc2md.yml") =
        .ok projectSettings ∧
      ∀ place ∈ pathsIn projectSettings, place.anchor ≠ .relative := by
  have below : Names ⟨["project", "source"], []⟩ projectVolume (Path.ofString "..")
      ["project", fileName] :=
    .directory (by decide +kernel) (by decide +kernel)
  have above : Names ⟨[], []⟩ projectVolume (Path.ofString "project/source/../.xmldoc2md.yml")
      ["project", fileName] :=
    .file (by decide +kernel) (by decide +kernel) (by decide +kernel)
  have loaded : load ⟨["project", "source"], []⟩ projectVolume (Path.ofString "..") =
      .ok projectSettings :=
    toOption_eq_some_iff.mp (by decide +kernel)
  obtain ⟨same, -, settled⟩ := configuration_is_independent_of_place below
  obtain ⟨-, absolute, -⟩ := settled _ loaded
  exact ⟨loaded, (same _ _ above).trans loaded, fun place among => (absolute place among).1⟩

/-- A configuration in a directory whose name starts with a tilde. -/
def tildeVolume : Volume :=
  ⟨[(["~x"], .directory), (["~x", fileName], .file (Text.encodeUtf8 "inputs: [api.xml]\n"))]⟩

/-- A dot before a name is not kept when a path is read, so it does not guard a tilde: a path of the
directory that does not start with a tilde means a home directory all the same. -/
theorem dotted_tilde_leads_home :
    "./~x".toList.head? ≠ some '~' ∧ tildeVolume.isDirectory [] (Path.ofString "./~x") ∧
      (Path.ofString "./~x").resolve [] ++ [fileName] = ["~x", fileName] ∧
      load ⟨[], []⟩ tildeVolume (Path.ofString "./~x") = .error .noHome ∧
      load ⟨[], []⟩ tildeVolume (Path.ofString "/~x/.xmldoc2md.yml") =
        .ok { inputs := [⟨.top, ["~x", "api.xml"]⟩] } := by
  have lost : expandHome ⟨[], []⟩ (Path.ofString "./~x") = .error .noHome := by
    decide +kernel
  refine ⟨by decide, by decide +kernel, by decide +kernel, ?_,
    toOption_eq_some_iff.mp (by decide +kernel)⟩
  simp only [load, locate, lost, bind, Except.bind]

end Config

end MemberDocs
