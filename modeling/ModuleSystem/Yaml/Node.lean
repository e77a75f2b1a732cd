import ModuleSystem.Yaml.Lexer
import ModuleSystem.Yaml.Schema

/-!
# YAML nodes

A document is a tree of scalars, sequences and mappings, each with a tag. The tree is read from the
tokens of a stream; an alias stands for a copy of the node that its anchor names.
-/

namespace ModuleSystem.Yaml

/-- A node of a document. -/
inductive Node where
  | scalar (tag : Tag) (text : String)
  | sequence (tag : Tag) (items : List Node)
  | mapping (tag : Tag) (entries : List (Node × Node))
  deriving Repr

instance : Inhabited Node := ⟨.scalar .null ""⟩

/-- The tag of a node. -/
def Node.tag : Node → Tag
  | .scalar tag _ | .sequence tag _ | .mapping tag _ => tag

/-- The tokens that are left, with the problem at their end, the handles of tags, and the nodes named
by anchors so far. An anchor whose node is not complete has none. -/
structure Stream where
  tokens : List Token
  problem : Option Problem
  handles : List (String × String)
  anchors : List (String × Option Node)

namespace Stream

/-- The problem that a missing or unexpected token shows. -/
def stop (stream : Stream) : Problem :=
  if stream.tokens.isEmpty then stream.problem.getD .unexpectedToken else .unexpectedToken

/-- The next token. -/
def peek (stream : Stream) : Except Problem Token :=
  match stream.tokens with
  | token :: _ => .ok token
  | [] => .error stream.stop

/-- The stream without its next token. -/
def next (stream : Stream) : Stream := { stream with tokens := stream.tokens.tail }

/-- Moves over an expected token. -/
def expect (stream : Stream) (token : Token) : Except Problem Stream := do
  if (← stream.peek) = token then return stream.next else throw .unexpectedToken

/-- The handles that every document has. -/
def defaultHandles : List (String × String) := [("!", "!"), ("!!", tagStart)]

/-- The full name of a tag. -/
def tagName (stream : Stream) (handle : Option String) (suffix : String) :
    Except Problem String :=
  match handle with
  | none => .ok suffix
  | some handle =>
    match stream.handles.lookup handle with
    | some start => .ok (start ++ suffix)
    | none => .error .invalidTag

/-- Announces an anchor whose node is about to be read. -/
def announce (stream : Stream) : Option String → Except Problem Stream
  | none => .ok stream
  | some name =>
    if (stream.anchors.lookup name).isSome then .error .duplicateAnchor
    else .ok { stream with anchors := (name, none) :: stream.anchors }

/-- Gives an anchor its node. -/
def name (stream : Stream) (anchor : Option String) (node : Node) : Stream :=
  match anchor with
  | none => stream
  | some name =>
    { stream with anchors := stream.anchors.map fun entry =>
        if entry.1 = name then (name, some node) else entry }

/-- The anchor and the tag in front of a node, in any order. -/
structure Properties where
  anchor : Option String
  tag : Option String

/-- Reads the properties of a node. -/
def readProperties (stream : Stream) : Except Problem (Properties × Stream) := do
  match ← stream.peek with
  | .anchor anchor =>
    match ← stream.next.peek with
    | .tag handle suffix =>
      let tag ← stream.tagName handle suffix
      return (⟨some anchor, some tag⟩, stream.next.next)
    | _ => return (⟨some anchor, none⟩, stream.next)
  | .tag handle suffix =>
    match ← stream.next.peek with
    | .anchor anchor =>
      let tag ← stream.tagName handle suffix
      return (⟨some anchor, some tag⟩, stream.next.next)
    | _ =>
      let tag ← stream.tagName handle suffix
      return (⟨none, some tag⟩, stream.next)
  | _ => return (⟨none, none⟩, stream)

end Stream

/-- The tag of a scalar. -/
def scalarTag (tag : Option String) (isPlain : Bool) (text : String) : Tag :=
  match tag with
  | none => if isPlain then tagOfPlain text else .text
  | some name => if name = "!" then tagOfPlain text else .ofName name

/-- The tag of a container, with one for its form. -/
def containerTag (tag : Option String) (form : Tag) : Tag :=
  match tag with
  | none => form
  | some name => if name = "!" then form else .ofName name

/-- The node of an empty place. -/
def emptyNode : Node := .scalar .null ""

mutual

/-- Reads a node. Blocks are accepted where the flag says so, and a sequence without indentation in
the value of a mapping. The first argument bounds the number of steps. -/
def readNode : Nat → (inBlock indentless : Bool) → Stream → Except Problem (Node × Stream)
  | 0, _, _, _ => .error .unexpectedToken
  | fuel + 1, inBlock, indentless, stream => do
    match ← stream.peek with
    | .alias name =>
      match stream.anchors.lookup name with
      | some (some node) => return (node, stream.next)
      | _ => throw .undefinedAlias
    | _ =>
      let (properties, stream) ← stream.readProperties
      let stream ← stream.announce properties.anchor
      let (node, stream) ← readContent fuel inBlock indentless properties stream
      return (node, stream.name properties.anchor node)

/-- Reads what stands behind the properties of a node. -/
def readContent : Nat → (inBlock indentless : Bool) → Stream.Properties → Stream →
    Except Problem (Node × Stream)
  | 0, _, _, _, _ => .error .unexpectedToken
  | fuel + 1, inBlock, indentless, properties, stream => do
    let sequence := Node.sequence (containerTag properties.tag .sequence)
    let mapping := Node.mapping (containerTag properties.tag .mapping)
    match ← stream.peek with
    | .scalar isPlain text =>
      return (.scalar (scalarTag properties.tag isPlain text) text, stream.next)
    | .flowSequenceStart =>
      let (items, stream) ← readFlowItems fuel true stream.next
      return (sequence items, stream)
    | .flowMappingStart =>
      let (entries, stream) ← readFlowEntries fuel true stream.next
      return (mapping entries, stream)
    | token =>
      if token = .blockEntry && indentless then
        let (items, stream) ← readIndentless fuel stream
        return (sequence items, stream)
      else if token = .blockSequenceStart && inBlock then
        let (items, stream) ← readBlockItems fuel stream.next
        return (sequence items, stream)
      else if token = .blockMappingStart && inBlock then
        let (entries, stream) ← readBlockEntries fuel stream.next
        return (mapping entries, stream)
      else if properties.anchor.isSome || properties.tag.isSome then
        return (.scalar (scalarTag properties.tag true "") "", stream)
      else throw .unexpectedToken

/-- Reads the items of a block up to its end. -/
def readBlockItems : Nat → Stream → Except Problem (List Node × Stream)
  | 0, _ => .error .unexpectedToken
  | fuel + 1, stream => do
    match ← stream.peek with
    | .blockEntry =>
      let stream := stream.next
      let token ← stream.peek
      let (item, stream) ←
        if token = .blockEntry || token = .blockEnd then pure (emptyNode, stream)
        else readNode fuel true false stream
      let (items, stream) ← readBlockItems fuel stream
      return (item :: items, stream)
    | .blockEnd => return ([], stream.next)
    | _ => throw .unexpectedToken

/-- Reads the items of a sequence that stands at the indentation of the mapping around it. -/
def readIndentless : Nat → Stream → Except Problem (List Node × Stream)
  | 0, _ => .error .unexpectedToken
  | fuel + 1, stream => do
    match ← stream.peek with
    | .blockEntry =>
      let stream := stream.next
      let token ← stream.peek
      let (item, stream) ←
        if token = .blockEntry || token = .key || token = .value || token = .blockEnd then
          pure (emptyNode, stream)
        else readNode fuel true false stream
      let (items, stream) ← readIndentless fuel stream
      return (item :: items, stream)
    | _ => return ([], stream)

/-- Reads the entries of a block up to its end. A key or a value may be left out. -/
def readBlockEntries : Nat → Stream → Except Problem (List (Node × Node) × Stream)
  | 0, _ => .error .unexpectedToken
  | fuel + 1, stream => do
    match ← stream.peek with
    | .key =>
      let stream := stream.next
      let token ← stream.peek
      let (key, stream) ←
        if token = .key || token = .value || token = .blockEnd then pure (emptyNode, stream)
        else readNode fuel true true stream
      let (value, stream) ← readBlockValue fuel stream
      let (entries, stream) ← readBlockEntries fuel stream
      return ((key, value) :: entries, stream)
    | .blockEnd => return ([], stream.next)
    | _ => throw .unexpectedToken

/-- Reads the value of an entry of a block. -/
def readBlockValue : Nat → Stream → Except Problem (Node × Stream)
  | 0, _ => .error .unexpectedToken
  | fuel + 1, stream => do
    match ← stream.peek with
    | .value =>
      let stream := stream.next
      let token ← stream.peek
      if token = .key || token = .value || token = .blockEnd then return (emptyNode, stream)
      else readNode fuel true true stream
    | _ => return (emptyNode, stream)

/-- Reads a node inside brackets, which is empty in front of one of some tokens. -/
def readFlowNode : Nat → (stops : List Token) → Stream → Except Problem (Node × Stream)
  | 0, _, _ => .error .unexpectedToken
  | fuel + 1, stops, stream => do
    let token ← stream.peek
    if stops.contains token then return (emptyNode, stream)
    else readNode fuel false false stream

/-- Reads the value of an entry inside brackets, which may be left out. -/
def readFlowValue : Nat → (close : Token) → Stream → Except Problem (Node × Stream)
  | 0, _, _ => .error .unexpectedToken
  | fuel + 1, close, stream => do
    match ← stream.peek with
    | .value => readFlowNode fuel [.flowEntry, close] stream.next
    | _ => return (emptyNode, stream)

/-- Reads the items of a sequence in brackets. A key makes a mapping of one entry. -/
def readFlowItems : Nat → (isFirst : Bool) → Stream → Except Problem (List Node × Stream)
  | 0, _, _ => .error .unexpectedToken
  | fuel + 1, isFirst, stream => do
    if (← stream.peek) = .flowSequenceEnd then return ([], stream.next)
    let stream ← if isFirst then pure stream else stream.expect .flowEntry
    match ← stream.peek with
    | .flowSequenceEnd => return ([], stream.next)
    | .key =>
      let (key, stream) ← readFlowNode fuel [.value, .flowEntry, .flowSequenceEnd] stream.next
      let (value, stream) ← readFlowValue fuel .flowSequenceEnd stream
      let (items, stream) ← readFlowItems fuel false stream
      return (.mapping .mapping [(key, value)] :: items, stream)
    | _ =>
      let (item, stream) ← readNode fuel false false stream
      let (items, stream) ← readFlowItems fuel false stream
      return (item :: items, stream)

/-- Reads the entries of a mapping in brackets. A node without a key mark is a key without value. -/
def readFlowEntries : Nat → (isFirst : Bool) → Stream →
    Except Problem (List (Node × Node) × Stream)
  | 0, _, _ => .error .unexpectedToken
  | fuel + 1, isFirst, stream => do
    if (← stream.peek) = .flowMappingEnd then return ([], stream.next)
    let stream ← if isFirst then pure stream else stream.expect .flowEntry
    match ← stream.peek with
    | .flowMappingEnd => return ([], stream.next)
    | .key =>
      let (key, stream) ← readFlowNode fuel [.value, .flowEntry, .flowMappingEnd] stream.next
      let (value, stream) ← readFlowValue fuel .flowMappingEnd stream
      let (entries, stream) ← readFlowEntries fuel false stream
      return ((key, value) :: entries, stream)
    | _ =>
      let (key, stream) ← readNode fuel false false stream
      let (entries, stream) ← readFlowEntries fuel false stream
      return ((key, emptyNode) :: entries, stream)

end

/-- Reads the directives in front of a document. -/
def readDirectives : List Token → Bool → List (String × String) →
    Except Problem (List (String × String))
  | .versionDirective major _ :: rest, hasVersion, handles =>
    if hasVersion || major != 1 then .error .invalidDirective
    else readDirectives rest true handles
  | .tagDirective handle start :: rest, hasVersion, handles =>
    if (handles.lookup handle).isSome then .error .invalidDirective
    else readDirectives rest hasVersion ((handle, start) :: handles)
  | .otherDirective :: rest, hasVersion, handles => readDirectives rest hasVersion handles
  | _, _, handles => .ok (handles ++ Stream.defaultHandles)

/-- Whether a token is a directive. -/
def isDirective : Token → Bool
  | .versionDirective _ _ | .tagDirective _ _ | .otherDirective => true
  | _ => false

/-- Reads the node behind the mark of a document's start, which may be missing. -/
def readMarkedContent (stream : Stream) : Except Problem (Node × Stream) := do
  let token ← stream.peek
  if isDirective token || token = .documentStart || token = .documentEnd || token = .streamEnd then
    return (emptyNode, stream)
  else readNode (4 * stream.tokens.length + 8) true false stream

/-- Reads the first document of a stream. -/
def readFirst (stream : Stream) : Except Problem (Node × Stream) := do
  let token ← stream.peek
  if isDirective token || token = .documentStart then
    let handles ← readDirectives stream.tokens false []
    let stream := { stream with handles, tokens := stream.tokens.dropWhile isDirective }
    let stream ← stream.expect .documentStart
    readMarkedContent stream
  else readNode (4 * stream.tokens.length + 8) true false stream

/-- Reads the only document of a stream, if it holds one. -/
def readSingle? (text : String) : Except Problem (Option Node) := do
  let (tokens, problem) := tokensOf text
  let stream : Stream := ⟨tokens, problem, Stream.defaultHandles, []⟩
  if (← stream.peek) = .streamEnd then return none
  let (node, stream) ← readFirst stream
  let rest := stream.tokens.dropWhile (· = .documentEnd)
  match rest with
  | [.streamEnd] => return some node
  | [] => throw ({ stream with tokens := rest }).stop
  | _ => throw .severalDocuments

end ModuleSystem.Yaml
