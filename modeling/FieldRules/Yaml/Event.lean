import FieldRules.Yaml.TokenStream

/-! # YAML events

The events of a document: the starts and ends of the stream, of documents, of sequences and of
mappings, scalars and aliases, each with its anchor and tag. Events are read from tokens on
demand by a state machine that follows the grammar of YAML 1.1:

* a stream is an implicit document (a block node and document end markers) followed by
  explicit documents (directives, `---`, an optional block node, document end markers);
* a block node is an alias, or properties (a tag and an anchor in either order) with block or
  flow content, a scalar, or nothing when properties are given;
* a block mapping is `?` keys and `:` values, each optional, whose nodes may be sequences
  without indentation; a flow sequence entry with `?` is a mapping of one pair.

A tag `!handle!suffix` is the handle's prefix followed by the suffix; `!!` stands for
`tag:yaml.org,2002:` and `!` for itself unless `%TAG` directives say otherwise. A scalar with no
tag, or with the tag `!`, has its tag implied by its text when it is plain. -/

namespace FieldRules.Yaml

/-- What an event is. -/
inductive EventKind where
  | streamStart
  | streamEnd
  | documentStart (explicit : Bool)
  | documentEnd (explicit : Bool)
  | alias (anchor : String)
  /-- A scalar; whether its tag may be implied from its text as a plain scalar, or as text. -/
  | scalar (anchor tag : Option String) (plainImplicit quotedImplicit : Bool) (value : String)
  | sequenceStart (anchor tag : Option String) (implicit : Bool)
  | sequenceEnd
  | mappingStart (anchor tag : Option String) (implicit : Bool)
  | mappingEnd
deriving Inhabited

/-- An event with the marks where it starts and ends. -/
structure Event where
  kind : EventKind
  start : Mark
  stop : Mark
deriving Inhabited

/-- The anchor of an event that may carry one. -/
def Event.anchor? (e : Event) : Option String :=
  match e.kind with
  | .scalar a .. | .sequenceStart a .. | .mappingStart a .. => a
  | _ => none

/-- Where the reading of events stands in the grammar. -/
inductive ParseState where
  | streamStart
  | implicitDocumentStart
  | documentStart
  | documentEnd
  | documentContent
  | blockNode
  | blockSequenceFirstEntry
  | blockSequenceEntry
  | indentlessSequenceEntry
  | blockMappingFirstKey
  | blockMappingKey
  | blockMappingValue
  | flowSequenceFirstEntry
  | flowSequenceEntry
  | flowSequenceEntryMappingKey
  | flowSequenceEntryMappingValue
  | flowSequenceEntryMappingEnd
  | flowMappingFirstKey
  | flowMappingKey
  | flowMappingValue
  | flowMappingEmptyValue
deriving Inhabited

/-- The tag handles every document knows. -/
def defaultHandles : List (String × String) := [("!", "!"), ("!!", "tag:yaml.org,2002:")]

/-- A stream of events being read from tokens. -/
structure EventStream where
  tokens : TokenStream
  /-- What comes next; none once the stream has ended. -/
  state : Option ParseState := some .streamStart
  /-- Where to go on when the node being read is complete. -/
  states : List ParseState := []
  /-- Where the open collections start. -/
  marks : List Mark := []
  handles : List (String × String) := []
  /-- An event read and not yet taken. -/
  current : Option Event := none
deriving Inhabited

/-- Reading events: a stream that moves on, and a fault that ends the reading. -/
abbrev ParseM := StateT EventStream (Except ReadFault)

namespace EventStream

/-- The stream of events of a document's text. -/
def ofText (text : String) : Except ReadFault EventStream := do
  return { tokens := ← TokenStream.ofText text }

/-- Runs a reading of tokens. -/
def scan (m : ScanM α) : ParseM α := do
  let s ← get
  let (a, t) ← liftM (m.run s.tokens)
  set { s with tokens := t }
  return a

/-- The next token, without taking it. -/
def peekToken : ParseM Token := do return (← scan TokenStream.peekToken).getD default

/-- Takes the next token. -/
def takeToken : ParseM Token := do return (← scan TokenStream.nextToken).getD default

/-- Whether the next token is of one of the kinds named. -/
def tokenIs (names : List String) : ParseM Bool := do
  match ← scan TokenStream.peekToken with
  | some t => return names.contains t.kind.name
  | none => return false

/-- Goes on to a state. -/
def goTo (st : ParseState) : ParseM Unit := modify fun s => { s with state := some st }

/-- Remembers a state to go on to later. -/
def pushState (st : ParseState) : ParseM Unit :=
  modify fun s => { s with states := st :: s.states }

/-- Goes on to the state remembered last. -/
def popState : ParseM Unit := modify fun s =>
  match s.states with
  | st :: rest => { s with state := some st, states := rest }
  | [] => { s with state := none }

/-- Remembers where a collection starts. -/
def pushMark (m : Mark) : ParseM Unit := modify fun s => { s with marks := m :: s.marks }

/-- Forgets where the innermost collection starts. -/
def popMark : ParseM Unit := modify fun s => { s with marks := s.marks.drop 1 }

/-- Where the innermost collection starts. -/
def topMark : ParseM Mark := do return (← get).marks.head?.getD default

/-- A fault of the grammar. -/
def parserFault (context : Option String) (contextMark : Option Mark) (problem : String)
    (place : Mark) : ParseM α :=
  throw (.marked "ParserError" context contextMark problem place)

/-- The event of an empty scalar at a mark. -/
def emptyScalar (m : Mark) : Event := ⟨.scalar none none true false "", m, m⟩

/-- A bound on the tokens still to come. -/
def tokenBound : ParseM Nat := do
  let s ← get
  return s.tokens.queue.length + s.tokens.source.remaining + 2

/-- Takes the tokens of the kinds named while they come. -/
def skipTokens (names : List String) : ParseM Unit := do
  go (← tokenBound)
where
  /-- Takes on; `fuel` bounds the steps. -/
  go : Nat → ParseM Unit
    | 0 => pure ()
    | fuel + 1 => do
      if ← tokenIs names then
        discard takeToken
        go fuel

/-- Reads the directives of a document and sets its tag handles. -/
def processDirectives : ParseM Unit := do
  let handles ← go (← tokenBound) none []
  modify fun s => { s with
    handles := handles ++ defaultHandles.filter fun (h, _) => (handles.lookup h).isNone }
where
  /-- Reads directives while they come; `fuel` bounds the steps. -/
  go : Nat → Option (Nat × Nat) → List (String × String) → ParseM (List (String × String))
    | 0, _, handles => return handles
    | fuel + 1, version, handles => do
      if !(← tokenIs ["<directive>"]) then return handles
      let t ← takeToken
      match t.kind with
      | .directive "YAML" (.version major minor) =>
        if version.isSome then parserFault none none "found duplicate YAML directive" t.start
        if major != 1 then
          parserFault none none "found incompatible YAML document (version 1.* is required)"
            t.start
        go fuel (some (major, minor)) handles
      | .directive "TAG" (.tagPrefix handle pre) =>
        if (handles.lookup handle).isSome then
          parserFault none none ("duplicate tag handle " ++ Text.quoteText handle) t.start
        go fuel version (handles ++ [(handle, pre)])
      | _ => go fuel version handles

/-- Reads the start of the stream. -/
def streamStart : ParseM Event := do
  let t ← takeToken
  goTo .implicitDocumentStart
  return ⟨.streamStart, t.start, t.stop⟩

/-- Reads the start of an explicit document, or the end of the stream. -/
def documentStart : ParseM Event := do
  skipTokens ["<document end>"]
  if !(← tokenIs ["<stream end>"]) then
    let start := (← peekToken).start
    processDirectives
    if !(← tokenIs ["<document start>"]) then
      let t ← peekToken
      parserFault none none ("expected '<document start>', but found " ++ t.quotedName) t.start
    let t ← takeToken
    pushState .documentEnd
    goTo .documentContent
    return ⟨.documentStart true, start, t.stop⟩
  else
    let t ← takeToken
    modify fun s => { s with state := none }
    return ⟨.streamEnd, t.start, t.stop⟩

/-- Reads the start of the first document, implicit unless it starts with directives or `---`. -/
def implicitDocumentStart : ParseM Event := do
  if !(← tokenIs ["<directive>", "<document start>", "<stream end>"]) then
    modify fun s => { s with handles := defaultHandles }
    let t ← peekToken
    pushState .documentEnd
    goTo .blockNode
    return ⟨.documentStart false, t.start, t.start⟩
  else documentStart

/-- Reads the end of a document, explicit when `...` stands there. -/
def documentEnd : ParseM Event := do
  let t ← peekToken
  let start := t.start
  let (stop, explicit) ← if ← tokenIs ["<document end>"] then do
      let t ← takeToken
      pure (t.stop, true)
    else pure (start, false)
  goTo .documentStart
  return ⟨.documentEnd explicit, start, stop⟩

/-- Reads a node: an alias, or properties and content. In block context block collections may
  stand here, and with `indentless` also a sequence whose entries are not indented. -/
def node (block indentless : Bool) : ParseM Event := do
  if ← tokenIs ["<alias>"] then
    let t ← takeToken
    popState
    let name := match t.kind with
      | .alias n => n
      | _ => ""
    return ⟨.alias name, t.start, t.stop⟩
  let anchorOf (t : Token) : Option String := match t.kind with
    | .anchor n => some n
    | _ => none
  let tagOf (t : Token) : Option (Option String × String) := match t.kind with
    | .tag h s => some (h, s)
    | _ => none
  let (anchor, tag, marks, tagMark) ← if ← tokenIs ["<anchor>"] then do
      let a ← takeToken
      if ← tokenIs ["<tag>"] then
        let t ← takeToken
        pure (anchorOf a, tagOf t, some (a.start, t.stop), some t.start)
      else pure (anchorOf a, none, some (a.start, a.stop), none)
    else if ← tokenIs ["<tag>"] then do
      let t ← takeToken
      if ← tokenIs ["<anchor>"] then
        let a ← takeToken
        pure (anchorOf a, tagOf t, some (t.start, a.stop), some t.start)
      else pure (none, tagOf t, some (t.start, t.stop), some t.start)
    else pure (none, none, none, none)
  let (start, stop) ← match marks with
    | some m => pure m
    | none => do
      let t ← peekToken
      pure (t.start, t.start)
  let tag : Option String ← match tag with
    | some (some handle, suffix) => do
      let some pre := (← get).handles.lookup handle
        | parserFault (some "while parsing a node") (some start)
            ("found undefined tag handle " ++ Text.quoteText handle) (tagMark.getD start)
      pure (some (pre ++ suffix))
    | some (none, suffix) => pure (some suffix)
    | none => pure none
  let implicit := tag.isNone || tag == some "!"
  if indentless && (← tokenIs ["-"]) then
    let t ← peekToken
    goTo .indentlessSequenceEntry
    return ⟨.sequenceStart anchor tag implicit, start, t.stop⟩
  if ← tokenIs ["<scalar>"] then
    let t ← takeToken
    let (text, plain) := match t.kind with
      | .scalar text plain => (text, plain)
      | _ => ("", false)
    let (plainImplicit, quotedImplicit) :=
      if (plain && tag.isNone) || tag == some "!" then (true, false)
      else if tag.isNone then (false, true) else (false, false)
    popState
    return ⟨.scalar anchor tag plainImplicit quotedImplicit text, start, t.stop⟩
  if ← tokenIs ["["] then
    let t ← peekToken
    goTo .flowSequenceFirstEntry
    return ⟨.sequenceStart anchor tag implicit, start, t.stop⟩
  if ← tokenIs ["\x7b"] then
    let t ← peekToken
    goTo .flowMappingFirstKey
    return ⟨.mappingStart anchor tag implicit, start, t.stop⟩
  if block && (← tokenIs ["<block sequence start>"]) then
    let t ← peekToken
    goTo .blockSequenceFirstEntry
    return ⟨.sequenceStart anchor tag implicit, start, t.start⟩
  if block && (← tokenIs ["<block mapping start>"]) then
    let t ← peekToken
    goTo .blockMappingFirstKey
    return ⟨.mappingStart anchor tag implicit, start, t.start⟩
  if anchor.isSome || tag.isSome then
    popState
    return ⟨.scalar anchor tag implicit false "", start, stop⟩
  let t ← peekToken
  parserFault (some ("while parsing a " ++ (if block then "block" else "flow") ++ " node"))
    (some start) ("expected the node content, but found " ++ t.quotedName) t.start

/-- Reads the content of an explicit document, empty when the document has none. -/
def documentContent : ParseM Event := do
  if ← tokenIs ["<directive>", "<document start>", "<document end>", "<stream end>"] then
    let e := emptyScalar (← peekToken).start
    popState
    return e
  else node true false

/-- Reads an entry of a block sequence, or its end. -/
def blockSequenceEntry : ParseM Event := do
  if ← tokenIs ["-"] then
    let t ← takeToken
    if !(← tokenIs ["-", "<block end>"]) then
      pushState .blockSequenceEntry
      node true false
    else
      goTo .blockSequenceEntry
      return emptyScalar t.stop
  else if !(← tokenIs ["<block end>"]) then
    let t ← peekToken
    parserFault (some "while parsing a block collection") (some (← topMark))
      ("expected <block end>, but found " ++ t.quotedName) t.start
  else
    let t ← takeToken
    popState
    popMark
    return ⟨.sequenceEnd, t.start, t.stop⟩

/-- Reads the first entry of a block sequence. -/
def blockSequenceFirstEntry : ParseM Event := do
  pushMark (← takeToken).start
  blockSequenceEntry

/-- Reads an entry of a sequence without indentation, or its end. -/
def indentlessSequenceEntry : ParseM Event := do
  if ← tokenIs ["-"] then
    let t ← takeToken
    if !(← tokenIs ["-", "?", ":", "<block end>"]) then
      pushState .indentlessSequenceEntry
      node true false
    else
      goTo .indentlessSequenceEntry
      return emptyScalar t.stop
  else
    let t ← peekToken
    popState
    return ⟨.sequenceEnd, t.start, t.start⟩

/-- Reads a key of a block mapping, or its end. -/
def blockMappingKey : ParseM Event := do
  if ← tokenIs ["?"] then
    let t ← takeToken
    if !(← tokenIs ["?", ":", "<block end>"]) then
      pushState .blockMappingValue
      node true true
    else
      goTo .blockMappingValue
      return emptyScalar t.stop
  else if !(← tokenIs ["<block end>"]) then
    let t ← peekToken
    parserFault (some "while parsing a block mapping") (some (← topMark))
      ("expected <block end>, but found " ++ t.quotedName) t.start
  else
    let t ← takeToken
    popState
    popMark
    return ⟨.mappingEnd, t.start, t.stop⟩

/-- Reads the first key of a block mapping. -/
def blockMappingFirstKey : ParseM Event := do
  pushMark (← takeToken).start
  blockMappingKey

/-- Reads a value of a block mapping, empty when no `:` comes. -/
def blockMappingValue : ParseM Event := do
  if ← tokenIs [":"] then
    let t ← takeToken
    if !(← tokenIs ["?", ":", "<block end>"]) then
      pushState .blockMappingKey
      node true true
    else
      goTo .blockMappingKey
      return emptyScalar t.stop
  else
    goTo .blockMappingKey
    return emptyScalar (← peekToken).start

/-- Reads an entry of a flow sequence, or its end; entries after the first follow a `,`. -/
def flowSequenceEntry (first : Bool) : ParseM Event := do
  if !(← tokenIs ["]"]) then
    if !first then
      if ← tokenIs [","] then discard takeToken
      else
        let t ← peekToken
        parserFault (some "while parsing a flow sequence") (some (← topMark))
          ("expected ',' or ']', but got " ++ t.quotedName) t.start
    if ← tokenIs ["?"] then
      let t ← peekToken
      goTo .flowSequenceEntryMappingKey
      return ⟨.mappingStart none none true, t.start, t.stop⟩
    else if !(← tokenIs ["]"]) then
      pushState .flowSequenceEntry
      return ← node false false
  let t ← takeToken
  popState
  popMark
  return ⟨.sequenceEnd, t.start, t.stop⟩

/-- Reads the first entry of a flow sequence. -/
def flowSequenceFirstEntry : ParseM Event := do
  pushMark (← takeToken).start
  flowSequenceEntry true

/-- Reads the key of a mapping of one pair inside a flow sequence. -/
def flowSequenceEntryMappingKey : ParseM Event := do
  let t ← takeToken
  if !(← tokenIs [":", ",", "]"]) then
    pushState .flowSequenceEntryMappingValue
    node false false
  else
    goTo .flowSequenceEntryMappingValue
    return emptyScalar t.stop

/-- Reads the value of a mapping of one pair inside a flow sequence. -/
def flowSequenceEntryMappingValue : ParseM Event := do
  if ← tokenIs [":"] then
    let t ← takeToken
    if !(← tokenIs [",", "]"]) then
      pushState .flowSequenceEntryMappingEnd
      node false false
    else
      goTo .flowSequenceEntryMappingEnd
      return emptyScalar t.stop
  else
    goTo .flowSequenceEntryMappingEnd
    return emptyScalar (← peekToken).start

/-- Ends a mapping of one pair inside a flow sequence. -/
def flowSequenceEntryMappingEnd : ParseM Event := do
  goTo .flowSequenceEntry
  let t ← peekToken
  return ⟨.mappingEnd, t.start, t.start⟩

/-- Reads a key of a flow mapping, or its end; keys after the first follow a `,`. -/
def flowMappingKey (first : Bool) : ParseM Event := do
  if !(← tokenIs ["\x7d"]) then
    if !first then
      if ← tokenIs [","] then discard takeToken
      else
        let t ← peekToken
        parserFault (some "while parsing a flow mapping") (some (← topMark))
          ("expected ',' or '\x7d', but got " ++ t.quotedName) t.start
    if ← tokenIs ["?"] then
      let t ← takeToken
      if !(← tokenIs [":", ",", "\x7d"]) then
        pushState .flowMappingValue
        return ← node false false
      else
        goTo .flowMappingValue
        return emptyScalar t.stop
    else if !(← tokenIs ["\x7d"]) then
      pushState .flowMappingEmptyValue
      return ← node false false
  let t ← takeToken
  popState
  popMark
  return ⟨.mappingEnd, t.start, t.stop⟩

/-- Reads the first key of a flow mapping. -/
def flowMappingFirstKey : ParseM Event := do
  pushMark (← takeToken).start
  flowMappingKey true

/-- Reads a value of a flow mapping, empty when no `:` comes. -/
def flowMappingValue : ParseM Event := do
  if ← tokenIs [":"] then
    let t ← takeToken
    if !(← tokenIs [",", "\x7d"]) then
      pushState .flowMappingKey
      node false false
    else
      goTo .flowMappingKey
      return emptyScalar t.stop
  else
    goTo .flowMappingKey
    return emptyScalar (← peekToken).start

/-- The empty value of a flow mapping entry written without `:`. -/
def flowMappingEmptyValue : ParseM Event := do
  goTo .flowMappingKey
  return emptyScalar (← peekToken).start

/-- Reads the event that a state stands for. -/
def step : ParseState → ParseM Event
  | .streamStart => streamStart
  | .implicitDocumentStart => implicitDocumentStart
  | .documentStart => documentStart
  | .documentEnd => documentEnd
  | .documentContent => documentContent
  | .blockNode => node true false
  | .blockSequenceFirstEntry => blockSequenceFirstEntry
  | .blockSequenceEntry => blockSequenceEntry
  | .indentlessSequenceEntry => indentlessSequenceEntry
  | .blockMappingFirstKey => blockMappingFirstKey
  | .blockMappingKey => blockMappingKey
  | .blockMappingValue => blockMappingValue
  | .flowSequenceFirstEntry => flowSequenceFirstEntry
  | .flowSequenceEntry => flowSequenceEntry false
  | .flowSequenceEntryMappingKey => flowSequenceEntryMappingKey
  | .flowSequenceEntryMappingValue => flowSequenceEntryMappingValue
  | .flowSequenceEntryMappingEnd => flowSequenceEntryMappingEnd
  | .flowMappingFirstKey => flowMappingFirstKey
  | .flowMappingKey => flowMappingKey false
  | .flowMappingValue => flowMappingValue
  | .flowMappingEmptyValue => flowMappingEmptyValue

/-- The next event, without taking it; none after the end of the stream. -/
def peekEvent : ParseM (Option Event) := do
  let s ← get
  match s.current, s.state with
  | some e, _ => return some e
  | none, some st =>
    let e ← step st
    modify fun s => { s with current := some e }
    return some e
  | none, none => return none

/-- Takes the next event. -/
def nextEvent : ParseM (Option Event) := do
  let e ← peekEvent
  modify fun s => { s with current := none }
  return e

end EventStream

end FieldRules.Yaml
