import MemberDocs.Yaml.Graph
import MemberDocs.Yaml.Lexer
import MemberDocs.Yaml.Scalar

/-! # Data

The values of a graph once all tags have been applied. Collections are built breadth first, from the
root on: the items of a collection are looked at when its turn comes, so that the first fault of a
text does not depend on how deep it lies but on the order of the collections. Before a mapping is
built, the mappings that its merge keys name are put in front of its own pairs (`mergeInto`).
-/

namespace MemberDocs.Yaml

/-- A pair of a mapping: the key with the number of its value in the graph, and the number of the
value. -/
structure Entry where
  key : Scalar
  keyNumber : Nat
  value : Nat
deriving Repr

/-- A value of a text. Collections refer to their items by number. -/
inductive Object where
  | scalar (value : Scalar)
  | list (items : List Nat)
  | dict (entries : List Entry)
  | set (entries : List Entry)
  | pairs (entries : List (Nat × Nat))
deriving Repr

/-- The data of a text. -/
structure Data where
  objects : Array (Option Object)
  root : Nat

/-- Two keys are one: they are the same value of the graph, or have the same value. -/
def Entry.sameKey (a b : Entry) : Bool :=
  a.keyNumber = b.keyNumber || a.key.same b.key

/-- Adds a pair. A key that is there already keeps its place and gets the new value. -/
def putEntry (entry : Entry) : List Entry → List Entry
  | [] => [entry]
  | known :: rest =>
    if known.sameKey entry then { known with value := entry.value } :: rest
    else known :: putEntry entry rest

/-! ## Merge keys -/

/-- The vertex of a number. -/
def vertexAt (vertices : Array Vertex) (number : Nat) : Vertex :=
  vertices.getD number ⟨.null, .scalar ""⟩

/-- The pairs of a mapping. -/
def pairsAt (vertices : Array Vertex) (number : Nat) : List (Nat × Nat) :=
  match (vertexAt vertices number).content with
  | .mapping pairs => pairs
  | _ => []

/-- The key of a pair asks for a merge. -/
def isMerge (vertices : Array Vertex) (pair : Nat × Nat) : Bool :=
  (vertexAt vertices pair.1).tag = .merge

def setPairs (vertices : Array Vertex) (number : Nat) (pairs : List (Nat × Nat)) :
    Array Vertex :=
  vertices.modify number fun vertex => { vertex with content := .mapping pairs }

/-- How many merges a graph asks for. -/
def mergeCount (vertices : Array Vertex) : Nat :=
  vertices.toList.foldl (fun count vertex =>
    match vertex.content with
    | .mapping pairs => count + pairs.countP (isMerge vertices)
    | _ => count) 0

/-- Reads the keys written as an equals sign as strings. -/
def plainKeys (vertices : Array Vertex) (pairs : List (Nat × Nat)) : Array Vertex :=
  pairs.foldl (fun vertices pair =>
    if (vertexAt vertices pair.1).tag = .value then
      vertices.modify pair.1 fun vertex => { vertex with tag := .str }
    else vertices) vertices

/-- Takes the merge keys out of a mapping and puts the pairs they name in front of the others;
`merged` has been collected so far. Of several mappings in a list, the first one wins, so it comes
last. Every step takes one merge key out of the graph. -/
def mergeFrom : Nat → List (Nat × Nat) → Nat → Array Vertex → Except Fault (Array Vertex)
  | 0, merged, number, vertices =>
    let pairs := pairsAt vertices number
    .ok (setPairs (plainKeys vertices pairs) number (merged ++ pairs))
  | fuel + 1, merged, number, vertices =>
    let pairs := pairsAt vertices number
    match pairs.dropWhile (!isMerge vertices ·) with
    | [] => .ok (setPairs (plainKeys vertices pairs) number (merged ++ pairs))
    | (_, source) :: after => do
      let vertices := setPairs vertices number (pairs.takeWhile (!isMerge vertices ·) ++ after)
      match (vertexAt vertices source).content with
      | .scalar _ => .error (.refused .badMerge)
      | .mapping _ =>
        let vertices ← mergeFrom fuel [] source vertices
        mergeFrom fuel (merged ++ pairsAt vertices source) number vertices
      | .sequence items =>
        let (vertices, groups) ← items.foldlM (fun (state : Array Vertex × List (List _)) item =>
          match (vertexAt state.1 item).content with
          | .mapping _ => do
            let vertices ← mergeFrom fuel [] item state.1
            .ok (vertices, pairsAt vertices item :: state.2)
          | _ => .error (.refused .badMerge)) (vertices, [])
        mergeFrom fuel (merged ++ groups.flatten) number vertices

/-- The graph after the merges of a mapping. -/
def mergeInto (vertices : Array Vertex) (number : Nat) : Except Fault (Array Vertex) :=
  mergeFrom (mergeCount vertices) [] number vertices

/-! ## Building the values -/

/-- The values that have been built, and the collections whose turn is still to come. -/
structure Assembly where
  vertices : Array Vertex
  objects : Array (Option Object)
  pending : List Nat

/-- The text of a scalar. A mapping stands for the text under its equals sign, if it has one. -/
def textOf (vertices : Array Vertex) : Nat → Nat → Except Fault String
  | 0, _ => .error (.refused .wrongContent)
  | fuel + 1, number =>
    match (vertexAt vertices number).content with
    | .scalar text => .ok text
    | .sequence _ => .error (.refused .wrongContent)
    | .mapping pairs =>
      match pairs.find? fun pair => (vertexAt vertices pair.1).tag = .value with
      | some pair => textOf vertices fuel pair.2
      | none => .error (.refused .wrongContent)

def scalarOf (vertices : Array Vertex) (number : Nat) : Except Fault Scalar := do
  let vertex := vertexAt vertices number
  let text ← textOf vertices (vertices.size + 1) number
  match vertex.tag, vertex.content with
  | .timestamp, .mapping _ => .error (.scalar .timestampOfMapping)
  | tag, _ => Scalar.ofText tag text

namespace Assembly

/-- The value with a number, if its building has begun. -/
def object? (assembly : Assembly) (number : Nat) : Option Object :=
  (assembly.objects[number]?).join

def put (assembly : Assembly) (number : Nat) (object : Object) : Assembly :=
  { assembly with objects := assembly.objects.setIfInBounds number (some object) }

/-- Puts an empty collection in its place; it is filled when its turn comes. -/
def await (assembly : Assembly) (number : Nat) (object : Object) : Assembly :=
  { assembly.put number object with pending := assembly.pending ++ [number] }

/-- Begins the value with a number, unless it has been begun before. A scalar is read at once. -/
def enter (number : Nat) (assembly : Assembly) : Except Fault Assembly :=
  match assembly.object? number with
  | some _ => .ok assembly
  | none =>
    match (vertexAt assembly.vertices number).tag with
    | .seq => .ok (assembly.await number (.list []))
    | .map => .ok (assembly.await number (.dict []))
    | .set => .ok (assembly.await number (.set []))
    | .omap | .pairs => .ok (assembly.await number (.pairs []))
    | .merge | .value | .other _ => .error (.refused .unknownTag)
    | _ => do
      let value ← scalarOf assembly.vertices number
      .ok (assembly.put number (.scalar value))

/-- Begins a key and gives it; only a scalar can be one. -/
def enterKey (number : Nat) (assembly : Assembly) : Except Fault (Scalar × Assembly) := do
  let assembly ← assembly.enter number
  match assembly.object? number with
  | some (.scalar key) => .ok (key, assembly)
  | _ => .error (.refused .badKey)

/-- Begins the keys and values of a mapping and gives its pairs. -/
def enterPairs (number : Nat) (assembly : Assembly) :
    Except Fault (List Entry × Assembly) := do
  match (vertexAt assembly.vertices number).content with
  | .mapping _ =>
    let vertices ← mergeInto assembly.vertices number
    (pairsAt vertices number).foldlM (fun (state : List Entry × Assembly) pair => do
      let (key, assembly) ← state.2.enterKey pair.1
      let assembly ← assembly.enter pair.2
      .ok (putEntry ⟨key, pair.1, pair.2⟩ state.1, assembly)) ([], { assembly with vertices })
  | _ => .error (.refused .wrongContent)

/-- Begins the items of a list of pairs, each a mapping of one pair, and gives the pairs. -/
def enterList (items : List Nat) (assembly : Assembly) :
    Except Fault (List (Nat × Nat) × Assembly) :=
  items.foldlM (fun (state : List (Nat × Nat) × Assembly) item =>
    match (vertexAt state.2.vertices item).content with
    | .mapping [pair] => do
      let assembly ← state.2.enter pair.1
      let assembly ← assembly.enter pair.2
      .ok (state.1 ++ [pair], assembly)
    | _ => .error (.refused .wrongContent)) ([], assembly)

def complete (number : Nat) (assembly : Assembly) : Except Fault Assembly := do
  let vertex := vertexAt assembly.vertices number
  match vertex.tag, vertex.content with
  | .seq, .sequence items =>
    let assembly ← items.foldlM (fun assembly item => assembly.enter item) assembly
    .ok (assembly.put number (.list items))
  | .map, _ =>
    let (entries, assembly) ← assembly.enterPairs number
    .ok (assembly.put number (.dict entries))
  | .set, _ =>
    let (entries, assembly) ← assembly.enterPairs number
    .ok (assembly.put number (.set entries))
  | .omap, .sequence items | .pairs, .sequence items =>
    let (entries, assembly) ← assembly.enterList items
    .ok (assembly.put number (.pairs entries))
  | _, _ => .error (.refused .wrongContent)

/-- Fills the collections in their order, until none is left. -/
def run : Nat → Assembly → Except Fault Assembly
  | 0, assembly => .ok assembly
  | fuel + 1, assembly =>
    match assembly.pending with
    | [] => .ok assembly
    | number :: pending => do
      let next ← { assembly with pending }.complete number
      run fuel next

end Assembly

/-- The data of a graph. -/
def Data.ofGraph (graph : Graph) : Except Fault Data := do
  let start : Assembly :=
    ⟨graph.vertices, graph.vertices.map fun _ => none, []⟩
  let entered ← start.enter graph.root
  let done ← entered.run (graph.vertices.size + 1)
  .ok ⟨done.objects, graph.root⟩

/-- The data of a text. A text without a document is nothing. -/
def Data.ofText (source : List Char) : Except Fault Data := do
  match ← Graph.ofTokens (tokensOf source) with
  | some graph => Data.ofGraph graph
  | none => .ok ⟨#[some (.scalar .null)], 0⟩

namespace Data

/-- The value with a number. -/
def object (data : Data) (number : Nat) : Object :=
  ((data.objects[number]?).join).getD (.scalar .null)

/-- The value of the text as a whole. -/
def rootObject (data : Data) : Object := data.object data.root

/-- The value under a name in some pairs; nothing is under a name that is missing. -/
def valueOf (data : Data) (entries : List Entry) (name : String) : Object :=
  match entries.find? fun entry => entry.key = .str name with
  | some entry => data.object entry.value
  | none => .scalar .null

end Data

end MemberDocs.Yaml
