import FieldRules.Yaml.Event

/-! # YAML nodes

The node graph of a document: scalars, sequences and mappings, each with its tag and the mark
where it starts. Nodes are numbered in the order they start, and an alias is the number of the
node its anchor names, so that a node may be reached from several places and even from inside
itself.

The tag of a node written without one (or with `!`) is implied: a sequence is `seq`, a mapping
is `map`, a quoted scalar is `str`, and a plain scalar is tagged by the first of these rules
that its whole text meets (a final line end aside), among those its first character allows:

* `bool`: `yes`, `no`, `true`, `false`, `on`, `off`, lower case, capitalized or upper case;
* `float`: digits and underscores with a point and an optional signed exponent, a point and
  digits, base 60 parts with a point, `.inf` with a sign, or `.nan`;
* `int`: `0b` binary, octal after `0`, decimal, `0x` hexadecimal, or base 60 parts;
* `merge`: `<<`; `null`: `~`, `null`, `Null`, `NULL` or nothing;
* `timestamp`: a date `YYYY-MM-DD`, or a date with one- or two-digit month and day, a time
  after `T`, `t` or blanks, an optional fraction and an optional zone;
* `value`: `=`;

and any other plain scalar is `str`. -/

namespace FieldRules.Yaml

/-- A tag of the YAML type repository. -/
def yamlTag (name : String) : String := "tag:yaml.org,2002:" ++ name

/-- Whether a character is a digit or an underscore. -/
def isDigitOrUnderscore (c : Char) : Bool := isAsciiDigit c || c == '_'

/-- The text after an optional sign. -/
def dropSign : List Char → List Char
  | '-' :: rest | '+' :: rest => rest
  | cs => cs

/-- Whether text is an exponent with a sign: `e+12`, `E-3`. -/
def isSignedExponent : List Char → Bool
  | e :: s :: ds => (e == 'e' || e == 'E') && (s == '+' || s == '-') && !ds.isEmpty &&
      ds.all isAsciiDigit
  | _ => false

/-- Whether text is digits and underscores, then nothing or a signed exponent. -/
def isFractionTail (cs : List Char) : Bool :=
  let rest := cs.dropWhile isDigitOrUnderscore
  rest.isEmpty || isSignedExponent rest

/-- Reads base 60 parts `:5`, `:59` while they come: how many, and the rest. -/
def sixtiethParts (count : Nat) : List Char → Nat × List Char
  | ':' :: a :: b :: rest =>
    if '0' ≤ a && a ≤ '5' && isAsciiDigit b then sixtiethParts (count + 1) rest
    else if isAsciiDigit a then sixtiethParts (count + 1) (b :: rest)
    else (count, ':' :: a :: b :: rest)
  | ':' :: a :: rest =>
    if isAsciiDigit a then sixtiethParts (count + 1) rest else (count, ':' :: a :: rest)
  | rest => (count, rest)

/-- Whether text meets the rule of implied floats. -/
def isFloatText (cs : List Char) : Bool :=
  let body := dropSign cs
  let pointed : Bool := match body with
    | d :: rest =>
      isAsciiDigit d &&
        match rest.dropWhile isDigitOrUnderscore with
        | '.' :: frac => isFractionTail frac
        | ':' :: more =>
          let (n, after) := sixtiethParts 0 (':' :: more)
          n > 0 && match after with
            | '.' :: frac => frac.all isDigitOrUnderscore
            | _ => false
        | _ => false
    | [] => false
  let bare : Bool := match cs with
    | '.' :: d :: rest => isAsciiDigit d && isFractionTail rest
    | _ => false
  let word := String.ofList body
  pointed || bare || [".inf", ".Inf", ".INF"].contains word ||
    [".nan", ".NaN", ".NAN"].contains (String.ofList cs)

/-- Whether text meets the rule of implied integers. -/
def isIntText (cs : List Char) : Bool :=
  match dropSign cs with
  | '0' :: 'b' :: r => !r.isEmpty && r.all fun c => c == '0' || c == '1' || c == '_'
  | '0' :: 'x' :: r => !r.isEmpty && r.all fun c => isHexChar c || c == '_'
  | ['0'] => true
  | '0' :: r => r.all fun c => ('0' ≤ c && c ≤ '7') || c == '_'
  | d :: r =>
    '1' ≤ d && d ≤ '9' &&
      match r.dropWhile isDigitOrUnderscore with
      | [] => true
      | rest =>
        let (n, after) := sixtiethParts 0 rest
        n > 0 && after.isEmpty
  | [] => false

/-- Reads one or two digits. -/
def oneOrTwoDigits : List Char → Option (List Char)
  | a :: b :: r => if isAsciiDigit a then some (if isAsciiDigit b then r else b :: r) else none
  | [a] => if isAsciiDigit a then some [] else none
  | [] => none

/-- Reads exactly `n` digits. -/
def exactDigits (n : Nat) (cs : List Char) : Option (List Char) :=
  if (cs.take n).length == n && (cs.take n).all isAsciiDigit then some (cs.drop n) else none

/-- Reads one character. -/
def expectChar (c : Char) : List Char → Option (List Char)
  | d :: r => if d == c then some r else none
  | [] => none

/-- Whether text is a zone: `Z`, or a sign, one or two digits and optionally `:` and two. -/
def isZoneText : List Char → Bool
  | ['Z'] => true
  | s :: r =>
    (s == '-' || s == '+') &&
      match oneOrTwoDigits r with
      | some [] => true
      | some (':' :: m) => exactDigits 2 m == some []
      | _ => false
  | [] => false

/-- Reads what parts a date from a time: `T`, `t` or blanks. -/
def timeSeparator : List Char → Option (List Char)
  | 'T' :: r | 't' :: r => some r
  | ' ' :: r | '\t' :: r => some (r.dropWhile fun c => c == ' ' || c == '\t')
  | _ => none

/-- Whether text meets the rule of implied timestamps. -/
def isTimestampText (cs : List Char) : Bool :=
  let dateOnly := cs.length == 10 &&
    (do
      let r ← exactDigits 4 cs
      let r ← expectChar '-' r
      let r ← exactDigits 2 r
      let r ← expectChar '-' r
      exactDigits 2 r) == some []
  let withTime : Option Bool := do
    let r ← exactDigits 4 cs
    let r ← expectChar '-' r
    let r ← oneOrTwoDigits r
    let r ← expectChar '-' r
    let r ← oneOrTwoDigits r
    let r ← timeSeparator r
    let r ← oneOrTwoDigits r
    let r ← expectChar ':' r
    let r ← exactDigits 2 r
    let r ← expectChar ':' r
    let r ← exactDigits 2 r
    let r := match r with
      | '.' :: f => f.dropWhile isAsciiDigit
      | r => r
    return r.isEmpty || isZoneText (r.dropWhile fun c => c == ' ' || c == '\t')
  dateOnly || withTime == some true

/-- Whether a text meets a rule, a final line end aside. -/
def meetsWhole (p : List Char → Bool) (cs : List Char) : Bool :=
  p cs || (cs.getLast? == some '\n' && p cs.dropLast)

/-- The rules that imply tags of plain scalars, in the order they are tried: the tag, the first
  characters the rule allows (none for the empty text), and the rule. -/
def impliedTagRules : List (String × (Option Char → Bool) × (List Char → Bool)) :=
  let firstIn (cs : String) : Option Char → Bool := fun
    | some c => cs.toList.contains c
    | none => false
  [("bool", firstIn "yYnNtTfFoO", fun cs => ["yes", "Yes", "YES", "no", "No", "NO", "true",
      "True", "TRUE", "false", "False", "FALSE", "on", "On", "ON", "off", "Off", "OFF"].contains
      (String.ofList cs)),
   ("float", firstIn "-+0123456789.", isFloatText),
   ("int", firstIn "-+0123456789", isIntText),
   ("merge", firstIn "<", fun cs => cs == ['<', '<']),
   ("null", fun c => c.isNone || firstIn "~nN" c, fun cs =>
      ["~", "null", "Null", "NULL", ""].contains (String.ofList cs)),
   ("timestamp", firstIn "0123456789", isTimestampText),
   ("value", firstIn "=", fun cs => cs == ['=']),
   ("yaml", firstIn "!&*", fun cs => cs == ['!'] || cs == ['&'] || cs == ['*'])]

/-- The tag of a scalar written without one: implied by its text when it may be, else `str`. -/
def impliedScalarTag (value : String) (fromText : Bool) : String :=
  let cs := value.toList
  let rule := if fromText then
      impliedTagRules.find? fun (_, first, p) => first cs.head? && meetsWhole p cs
    else none
  yamlTag ((rule.map (·.1)).getD "str")

/-- What a node holds: a scalar's text, the numbers of a sequence's items, or the numbers of a
  mapping's keys and values. -/
inductive NodeBody where
  | scalar (value : String)
  | sequence (items : Array Nat)
  | mapping (pairs : Array (Nat × Nat))
deriving Inhabited

/-- The name of a kind of node, as messages show it. -/
def NodeBody.kindName : NodeBody → String
  | .scalar _ => "scalar"
  | .sequence _ => "sequence"
  | .mapping _ => "mapping"

/-- A node: its tag, what it holds and where it starts. -/
structure Node where
  tag : String
  body : NodeBody
  start : Mark
deriving Inhabited

/-- The nodes of a document, and the number of its root when it has one. -/
structure Graph where
  nodes : Array Node
  root : Option Nat
deriving Inhabited

/-- Composing a graph: the events being read, the nodes so far, and the anchors by name. -/
structure Composer where
  events : EventStream
  nodes : Array Node := #[]
  anchors : List (String × Nat) := []
deriving Inhabited

/-- Composing a graph, and a fault that ends it. -/
abbrev ComposeM := StateT Composer (Except ReadFault)

namespace Composer

/-- Runs a reading of events. -/
def parse (m : ParseM α) : ComposeM α := do
  let s ← get
  let (a, e) ← liftM (m.run s.events)
  set { s with events := e }
  return a

/-- The next event, without taking it. -/
def peekEvent : ComposeM Event := do return (← parse EventStream.peekEvent).getD default

/-- Takes the next event. -/
def nextEvent : ComposeM Event := do return (← parse EventStream.nextEvent).getD default

/-- Whether the next event is the end of the stream. -/
def atStreamEnd : ComposeM Bool := do
  match ← parse EventStream.peekEvent with
  | some ⟨.streamEnd, _, _⟩ => return true
  | _ => return false

/-- Whether the next event ends a collection. -/
def atCollectionEnd : ComposeM Bool := do
  match ← parse EventStream.peekEvent with
  | some ⟨.sequenceEnd, _, _⟩ | some ⟨.mappingEnd, _, _⟩ => return true
  | _ => return false

/-- A fault of composing. -/
def composerFault (context : Option String) (contextMark : Option Mark) (problem : String)
    (place : Mark) : ComposeM α :=
  throw (.marked "ComposerError" context contextMark problem place)

/-- Adds a node, under an anchor when one is given; its number. -/
def addNode (n : Node) (anchor : Option String) : ComposeM Nat := do
  let s ← get
  let id := s.nodes.size
  set { s with nodes := s.nodes.push n,
                anchors := match anchor with
                  | some a => (a, id) :: s.anchors
                  | none => s.anchors }
  return id

/-- Replaces what a node holds. -/
def setBody (id : Nat) (b : NodeBody) : ComposeM Unit :=
  modify fun s => { s with nodes := s.nodes.modify id fun n => { n with body := b } }

mutual

/-- Composes the node that the next events describe; its number. `fuel` bounds the steps. -/
def node : Nat → ComposeM Nat
  | 0 => throw (.host "RecursionError" "maximum recursion depth exceeded")
  | fuel + 1 => do
    let e ← peekEvent
    if let .alias a := e.kind then
      discard nextEvent
      match (← get).anchors.lookup a with
      | some id => return id
      | none => composerFault none none ("found undefined alias " ++ Text.quoteText a) e.start
    if let some a := e.anchor? then
      if let some id := (← get).anchors.lookup a then
        let first := ((← get).nodes[id]?.map (·.start)).getD default
        composerFault (some ("found duplicate anchor " ++ Text.quoteText a ++ "; first occurrence"))
          (some first) "second occurrence" e.start
    match e.kind with
    | .scalar anchor tag plainImplicit _ value =>
      discard nextEvent
      let tag := match tag with
        | some t => if t == "!" then impliedScalarTag value plainImplicit else t
        | none => impliedScalarTag value plainImplicit
      addNode ⟨tag, .scalar value, e.start⟩ anchor
    | .sequenceStart anchor tag _ =>
      discard nextEvent
      let tag := match tag with
        | some t => if t == "!" then yamlTag "seq" else t
        | none => yamlTag "seq"
      let id ← addNode ⟨tag, .sequence #[], e.start⟩ anchor
      setBody id (.sequence (← items #[] fuel))
      discard nextEvent
      return id
    | .mappingStart anchor tag _ =>
      discard nextEvent
      let tag := match tag with
        | some t => if t == "!" then yamlTag "map" else t
        | none => yamlTag "map"
      let id ← addNode ⟨tag, .mapping #[], e.start⟩ anchor
      setBody id (.mapping (← pairs #[] fuel))
      discard nextEvent
      return id
    | _ => throw (.host "UnboundLocalError" "local variable 'node' referenced before assignment")

/-- Composes the items of a sequence up to its end, after those read so far. -/
def items (acc : Array Nat) : Nat → ComposeM (Array Nat)
  | 0 => pure acc
  | fuel + 1 => do
    if ← atCollectionEnd then return acc
    let item ← node fuel
    items (acc.push item) fuel

/-- Composes the keys and values of a mapping up to its end, after those read so far. -/
def pairs (acc : Array (Nat × Nat)) : Nat → ComposeM (Array (Nat × Nat))
  | 0 => pure acc
  | fuel + 1 => do
    if ← atCollectionEnd then return acc
    let k ← node fuel
    let v ← node fuel
    pairs (acc.push (k, v)) fuel

end

/-- Composes the one document of a stream; none when the stream holds none. -/
def single (fuel : Nat) : ComposeM (Option Nat) := do
  discard nextEvent
  let root ← if ← atStreamEnd then pure none
    else do
      discard nextEvent
      let root ← node fuel
      discard nextEvent
      modify fun s => { s with anchors := [] }
      pure (some root)
  if !(← atStreamEnd) then
    let e ← nextEvent
    let nodes := (← get).nodes
    let first := (root.bind fun id => nodes[id]?.map (·.start)).getD default
    composerFault (some "expected a single document in the stream") (some first)
      "but found another document" e.start
  discard nextEvent
  return root

end Composer

/-- The node graph of the one document of a text. -/
def Graph.ofText (text : String) : Except ReadFault Graph := do
  let events ← EventStream.ofText text
  let fuel := 8 * (events.tokens.source.chars.size + 2)
  let (root, c) ← (Composer.single fuel).run { events := events }
  return ⟨c.nodes, root⟩

end FieldRules.Yaml
