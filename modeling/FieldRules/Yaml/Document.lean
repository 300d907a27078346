import FieldRules.Yaml.Node
import FieldRules.Yaml.Scalar
import FieldRules.Value.Compare
import Std.Data.HashMap

/-! # YAML documents

The value of a document: its node graph built into host values by the safe types of YAML 1.1
(`null`, `bool`, `int`, `float`, `binary`, `timestamp`, `str`, `seq`, `map`, `set`, `omap`,
`pairs`); a node of any other tag is refused. A node reached twice is built once, so that an
alias stands for the very same value, and an empty document is none.

Collections are built in two steps, as containers are: a node first becomes an empty shared
container, which is filled after the node that holds it is complete, round by round. So a
collection may hold itself, and a fault inside a nested collection is found only after all
the scalars of the enclosing one.

A mapping first takes in its merge keys `<<`: the pairs of a mapping, or of a list of mappings
with the earlier ones last, go before its own pairs, so that its own keys win. A key must be
hashable, and a later equal key replaces the value of the earlier one. A key `=` of a mapping
is read as text; a mapping that has one reads as text when a scalar is wanted. -/

namespace FieldRules.Yaml

/-- What a tag builds. -/
inductive Builds where
  | null | bool | int | float | binary | timestamp | str
  | seq | map | set | omap | pairs
deriving Inhabited, BEq

/-- What a tag builds, if it is one of the safe types. -/
def Builds.ofTag? (tag : String) : Option Builds :=
  [("null", Builds.null), ("bool", .bool), ("int", .int), ("float", .float),
    ("binary", .binary), ("timestamp", .timestamp), ("omap", .omap), ("pairs", .pairs),
    ("set", .set), ("str", .str), ("seq", .seq), ("map", .map)].findSome? fun (name, b) =>
    if tag == yamlTag name then some b else none

/-- The state of building values: the nodes (their merge keys taken in as they are built),
  the shared containers, the value of each node built so far, and the containers still to
  fill with the kind and node of each. -/
structure Builder where
  nodes : Array Node
  store : Store := {}
  built : Array (Option Value)
  pending : List (Nat × Builds × Nat) := []
  /-- How many pairs the mappings of the document hold. -/
  pairBound : Nat := 0
deriving Inhabited

/-- Building values, and a fault that ends it. -/
abbrev BuildM := StateT Builder (Except ReadFault)

/-- The entries of a mapping being built, in order, with the places of its text keys: a text
  key equals only the text key of the same characters. -/
structure EntryTable where
  entries : Array (Value × Value) := #[]
  textPlaces : Std.HashMap String Nat := {}

/-- Puts an entry into a table: a key equal to one already there keeps that key and its place
  and takes the new value; a new key goes last. -/
def EntryTable.insert (t : EntryTable) (s : Store) (k v : Value) : EntryTable :=
  let place := match k with
    | .str key => t.textPlaces[key]?
    | _ => t.entries.findIdx? fun (k', _) => s.equal k k'
  match place with
  | some i => { t with entries := t.entries.modify i fun (k', _) => (k', v) }
  | none =>
    { entries := t.entries.push (k, v),
      textPlaces := match k with
        | .str key => t.textPlaces.insert key t.entries.size
        | _ => t.textPlaces }

namespace Builder

/-- A fault of building. -/
def constructorFault (context : Option String) (contextMark : Option Mark) (problem : String)
    (place : Mark) : BuildM α :=
  throw (.marked "ConstructorError" context contextMark problem place)

/-- The node of a number. -/
def nodeAt (id : Nat) : BuildM Node := do return (← get).nodes[id]?.getD default

/-- Replaces what a node holds. -/
def setBody (id : Nat) (b : NodeBody) : BuildM Unit :=
  modify fun s => { s with nodes := s.nodes.modify id fun n => { n with body := b } }

/-- Replaces the tag of a node. -/
def setTag (id : Nat) (t : String) : BuildM Unit :=
  modify fun s => { s with nodes := s.nodes.modify id fun n => { n with tag := t } }

/-- The pairs of a mapping node, none for other nodes. -/
def pairsOf (id : Nat) : BuildM (Array (Nat × Nat)) := do
  match (← nodeAt id).body with
  | .mapping ps => return ps
  | _ => return #[]

/-- Takes the merge keys of a mapping node into its pairs, the merged pairs first; a key `=`
  becomes text. `fuel` bounds the depth. -/
def flatten : Nat → Nat → BuildM Unit
  | 0, _ => pure ()
  | fuel + 1, id => do
    let start := (← nodeAt id).start
    -- merging may lengthen the pairs of the node itself, within the pairs of all nodes
    let merged ← walk fuel start id 0 ((← get).pairBound * (fuel + 2) + 1) #[]
    if !merged.isEmpty then setBody id (.mapping (merged ++ (← pairsOf id)))
where
  /-- Goes through the pairs from position `i`, collecting the merged pairs. -/
  walk (fuel : Nat) (start : Mark) (id i : Nat) : Nat → Array (Nat × Nat) →
      BuildM (Array (Nat × Nat))
    | 0, merged => return merged
    | steps + 1, merged => do
      let ps ← pairsOf id
      let some (k, v) := ps[i]? | return merged
      let keyNode ← nodeAt k
      if keyNode.tag == yamlTag "merge" then
        setBody id (.mapping (ps.eraseIdxIfInBounds i))
        let valueNode ← nodeAt v
        match valueNode.body with
        | .mapping _ =>
          flatten fuel v
          walk fuel start id i steps (merged ++ (← pairsOf v))
        | .sequence subs =>
          let groups ← subs.toList.mapM fun sub => do
            let subNode ← nodeAt sub
            match subNode.body with
            | .mapping _ =>
              flatten fuel sub
              pairsOf sub
            | b =>
                constructorFault (some "while constructing a mapping") (some start)
                  ("expected a mapping for merging, but found " ++ b.kindName) subNode.start
          walk fuel start id i steps (groups.reverse.foldl (· ++ ·) merged)
        | b =>
            constructorFault (some "while constructing a mapping") (some start)
              ("expected a mapping or list of mappings for merging, but found " ++ b.kindName)
              valueNode.start
      else
        if keyNode.tag == yamlTag "value" then setTag k (yamlTag "str")
        walk fuel start id (i + 1) steps merged

/-- The text of a node read as a scalar: a scalar's text, or the value of the key `=` of a
  mapping. -/
def scalarText : Nat → Nat → BuildM String
  | 0, _ => throw (.host "RecursionError" "maximum recursion depth exceeded")
  | fuel + 1, id => do
    let n ← nodeAt id
    match n.body with
    | .scalar t => return t
    | .mapping ps =>
      let mut found : Option Nat := none
      for (k, v) in ps do
        if found.isNone && (← nodeAt k).tag == yamlTag "value" then found := some v
      match found with
      | some v => scalarText fuel v
      | none => constructorFault none none "expected a scalar node, but found mapping" n.start
    | b => constructorFault none none ("expected a scalar node, but found " ++ b.kindName) n.start

/-- Records the value of a node. -/
def record (id : Nat) (v : Value) : BuildM Unit :=
  modify fun s => { s with built := s.built.set! id (some v) }

/-- The value of a node: built already, a scalar built now, or an empty container to be filled
  later. -/
def construct (fuel id : Nat) : BuildM Value := do
  if let some v := (← get).built[id]?.join then return v
  let n ← nodeAt id
  let some kind := Builds.ofTag? n.tag
    | constructorFault none none
        ("could not determine a constructor for the tag " ++ Text.quoteText n.tag) n.start
  let scalarOf (f : String → Except ReadFault Value) : BuildM Value := do
    let t ← scalarText fuel id
    liftM (f t)
  let v ← match kind with
    | .null => do
      discard (scalarText fuel id)
      pure .none
    | .bool => scalarOf boolValue
    | .int => scalarOf intValue
    | .float => scalarOf floatValue
    | .timestamp => do
      discard (scalarText fuel id)
      match n.body with
      | .scalar t => liftM (timestampValue t)
      | _ => throw (.host "TypeError" "expected string or bytes-like object, got 'list'")
    | .binary => do
      let t ← scalarText fuel id
      match binaryValue t with
      | .ok v => pure v
      | .error problem => constructorFault none none problem n.start
    | .str => do pure (.str (← scalarText fuel id))
    | .seq | .omap | .pairs | .map | .set => do
      let empty : Value := match kind with
        | .map => .dict []
        | .set => .set []
        | _ => .list []
      let s ← get
      let (store, label) := s.store.add empty
      set { s with store := store, pending := s.pending ++ [(label, kind, id)] }
      pure (.shared label)
  record id v
  return v

/-- Whether a value built for a key is a container that cannot be hashed. -/
def isUnhashable (v : Value) : BuildM Bool := do
  match (← get).store.resolve v, v with
  | .list _, .shared _ | .dict _, .shared _ | .set _, .shared _ => return true
  | _, _ => return false

/-- The entries of a mapping node: keys and values built in order, a later equal key replacing
  the value of the earlier one. -/
def mappingEntries (fuel id : Nat) : BuildM (List (Value × Value)) := do
  let n ← nodeAt id
  if let .mapping _ := n.body then flatten fuel id
  let n ← nodeAt id
  match n.body with
  | .mapping ps =>
    let table ← ps.foldlM (fun (table : EntryTable) (k, v) => do
      let key ← construct fuel k
      if ← isUnhashable key then
        constructorFault (some "while constructing a mapping") (some n.start)
          "found unhashable key" (← nodeAt k).start
      let value ← construct fuel v
      return table.insert (← get).store key value) {}
    return table.entries.toList
  | b => constructorFault none none ("expected a mapping node, but found " ++ b.kindName) n.start

/-- The pairs of an ordered map or a list of pairs. -/
def orderedPairs (fuel id : Nat) (what : String) : BuildM (List Value) := do
  let n ← nodeAt id
  let context := some ("while constructing " ++ what)
  match n.body with
  | .sequence subs =>
    subs.toList.mapM fun sub => do
      let subNode ← nodeAt sub
      match subNode.body with
      | .mapping ps =>
        match ps.toList with
        | [(k, v)] =>
          let key ← construct fuel k
          let value ← construct fuel v
          return .tuple [key, value]
        | other =>
            constructorFault context (some n.start)
              ("expected a single mapping item, but found " ++ toString other.length ++ " items")
              subNode.start
      | b =>
          constructorFault context (some n.start)
            ("expected a mapping of length 1, but found " ++ b.kindName) subNode.start
  | b =>
      constructorFault context (some n.start) ("expected a sequence, but found " ++ b.kindName)
        n.start

/-- Fills a container left empty by `construct`. -/
def fill (fuel : Nat) : Nat × Builds × Nat → BuildM Unit
  | (label, kind, id) => do
    let v ← match kind with
      | .map => do pure (.dict (← mappingEntries fuel id))
      | .set => do pure (.set ((← mappingEntries fuel id).map (·.1)))
      | .omap => do pure (.list (← orderedPairs fuel id "an ordered map"))
      | .pairs => do pure (.list (← orderedPairs fuel id "pairs"))
      | _ => do
        let n ← nodeAt id
        match n.body with
        | .sequence items => pure (.list (← items.toList.mapM (construct fuel)))
        | b =>
            constructorFault none none ("expected a sequence node, but found " ++ b.kindName)
              n.start
    modify fun s => { s with store := s.store.set label v }

/-- Fills the containers round by round: those noted while filling a round wait for the next. -/
def fillAll (fuel : Nat) : Nat → BuildM Unit
  | 0 => pure ()
  | rounds + 1 => do
    let jobs := (← get).pending
    if jobs.isEmpty then return
    modify fun s => { s with pending := [] }
    for job in jobs do fill fuel job
    fillAll fuel rounds

end Builder

/-- The value of the one document of a text, with the store of its containers; none for an
  empty document. -/
def readValue (text : String) : Except ReadFault (Value × Store) := do
  let g ← Graph.ofText text
  match g.root with
  | none => return (.none, {})
  | some root =>
    let fuel := g.nodes.size + 2
    let pairBound := g.nodes.foldl (fun acc n => match n.body with
      | .mapping ps => acc + ps.size
      | _ => acc) 0
    let start : Builder :=
      { nodes := g.nodes, built := Array.replicate g.nodes.size none, pairBound := pairBound }
    let (v, b) ← (do
      let v ← Builder.construct fuel root
      Builder.fillAll fuel (g.nodes.size + 1)
      return v).run start
    return (v, b.store)

/-- Reads the text of a file named `source`: the value of its document with the store of its
  containers, or the kind and the message of its fault, placed in the file. -/
def load (source text : String) : Except (String × String) (Value × Store) :=
  (readValue text).mapError fun e => (e.kind, e.message source)

end FieldRules.Yaml
