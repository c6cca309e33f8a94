import BoundReport.Yaml.Token

/-!
# Reading YAML

A text is read as one document, and the document as a JSON value. An alias stands for the node
that its anchor marks, which comes before it. The keys of a mapping are scalars and count by
their text; of several equal keys the last one counts.
-/

namespace BoundReport.Yaml

/-- A part of a document. -/
inductive Node
  | scalar (plain : Bool) (text : Text)
  | sequence (items : List Node)
  | mapping (members : List (Node × Node))

/-- A node that is not written: an empty plain scalar. -/
def Node.missing : Node := .scalar true []

/-- The nodes with anchors, the latest first. A node is not known as long as it is being read,
so that no node stands inside itself. -/
abbrev Anchors := List (Text × Option Node)

/-- Nodes of a kind that have been read, the anchors known after them, and the tokens left. -/
abbrev Parsed (α : Type) := α × Anchors × List Token

/-- Whether the tokens begin with one of these; the end of the text counts as any token. -/
def startsWith (tokens expected : List Token) : Bool :=
  match tokens with
  | [] => true
  | token :: _ => expected.contains token

/-- The anchor in front of a node. -/
def takeAnchor : List Token → Option Text × List Token
  | .anchor name :: rest => (some name, rest)
  | tokens => (none, tokens)

mutual

/-- Reads a node. A block collection may begin here only if `block` holds, and the dashes of a
sequence may stand at the column of their key if `indentless` holds. -/
def readNode? : (fuel : Nat) → (block indentless : Bool) → Anchors → List Token →
    Option (Parsed Node)
  | 0, _, _, _, _ => none
  | fuel + 1, block, indentless, anchors, tokens =>
    match tokens with
    | .alias name :: rest =>
      match anchors.lookup name with
      | some (some node) => some (node, anchors, rest)
      | _ => none
    | _ =>
      match takeAnchor tokens with
      | (some name, tokens) => do
        let known := (name, none) :: anchors
        let (node, anchors, rest) ← readContent? fuel block indentless true known tokens
        return (node, (name, some node) :: anchors, rest)
      | (none, tokens) => readContent? fuel block indentless false anchors tokens

/-- Reads a node after its anchor. -/
def readContent? : (fuel : Nat) → (block indentless anchored : Bool) → Anchors → List Token →
    Option (Parsed Node)
  | 0, _, _, _, _, _ => none
  | fuel + 1, block, indentless, anchored, anchors, tokens =>
    match tokens with
    | .scalar plain text :: rest => some (.scalar plain text, anchors, rest)
    | .flowSequenceStart :: rest => do
      let (items, anchors, rest) ← readFlowItems? fuel true anchors rest
      return (.sequence items, anchors, rest)
    | .flowMappingStart :: rest => do
      let (members, anchors, rest) ← readFlowMembers? fuel true anchors rest
      return (.mapping members, anchors, rest)
    | .blockEntry :: _ =>
      if indentless then do
        let (items, anchors, rest) ← readIndentless? fuel anchors tokens
        return (.sequence items, anchors, rest)
      else if anchored then some (.missing, anchors, tokens)
      else none
    | .blockSequenceStart :: rest =>
      if block then do
        let (items, anchors, rest) ← readBlockItems? fuel anchors rest
        return (.sequence items, anchors, rest)
      else if anchored then some (.missing, anchors, tokens)
      else none
    | .blockMappingStart :: rest =>
      if block then do
        let (members, anchors, rest) ← readBlockMembers? fuel anchors rest
        return (.mapping members, anchors, rest)
      else if anchored then some (.missing, anchors, tokens)
      else none
    | _ => if anchored then some (.missing, anchors, tokens) else none

/-- Reads the rest of a block sequence. -/
def readBlockItems? : (fuel : Nat) → Anchors → List Token → Option (Parsed (List Node))
  | 0, _, _ => none
  | fuel + 1, anchors, tokens =>
    match tokens with
    | .blockEnd :: rest => some ([], anchors, rest)
    | .blockEntry :: rest => do
      let (item, anchors, rest) ←
        if startsWith rest [.blockEntry, .blockEnd] then some (.missing, anchors, rest)
        else readNode? fuel true false anchors rest
      let (items, anchors, rest) ← readBlockItems? fuel anchors rest
      return (item :: items, anchors, rest)
    | _ => none

/-- Reads a sequence whose dashes stand at the column of the key before it. -/
def readIndentless? : (fuel : Nat) → Anchors → List Token → Option (Parsed (List Node))
  | 0, _, _ => none
  | fuel + 1, anchors, tokens =>
    match tokens with
    | .blockEntry :: rest => do
      let (item, anchors, rest) ←
        if startsWith rest [.blockEntry, .key, .value, .blockEnd] then
          some (.missing, anchors, rest)
        else readNode? fuel true false anchors rest
      let (items, anchors, rest) ← readIndentless? fuel anchors rest
      return (item :: items, anchors, rest)
    | _ => some ([], anchors, tokens)

/-- Reads the rest of a block mapping. -/
def readBlockMembers? : (fuel : Nat) → Anchors → List Token → Option (Parsed (List (Node × Node)))
  | 0, _, _ => none
  | fuel + 1, anchors, tokens =>
    match tokens with
    | .blockEnd :: rest => some ([], anchors, rest)
    | .key :: rest => do
      let (key, anchors, rest) ←
        if startsWith rest [.key, .value, .blockEnd] then some (.missing, anchors, rest)
        else readNode? fuel true true anchors rest
      let (value, anchors, rest) ← readBlockValue? fuel anchors rest
      let (members, anchors, rest) ← readBlockMembers? fuel anchors rest
      return ((key, value) :: members, anchors, rest)
    | _ => none

/-- Reads the value of a member of a block mapping, which may be missing. -/
def readBlockValue? : (fuel : Nat) → Anchors → List Token → Option (Parsed Node)
  | 0, _, _ => none
  | fuel + 1, anchors, tokens =>
    match tokens with
    | .value :: rest =>
      if startsWith rest [.key, .value, .blockEnd] then some (.missing, anchors, rest)
      else readNode? fuel true true anchors rest
    | _ => some (.missing, anchors, tokens)

/-- Reads the rest of a flow sequence. A comma stands before every item but the first, and may
stand before the closing bracket. An item may be a single member of a mapping; a question mark
that no key follows uses up the token that stands there instead. -/
def readFlowItems? : (fuel : Nat) → (first : Bool) → Anchors → List Token →
    Option (Parsed (List Node))
  | 0, _, _, _ => none
  | fuel + 1, first, anchors, tokens =>
    match tokens with
    | .flowSequenceEnd :: rest => some ([], anchors, rest)
    | _ => do
      let tokens ← if first then some tokens else
        match tokens with
        | .flowEntry :: rest => some rest
        | _ => none
      match tokens with
      | .flowSequenceEnd :: rest => return ([], anchors, rest)
      | .key :: rest =>
        let (key, anchors, rest) ←
          if startsWith rest [.value, .flowEntry, .flowSequenceEnd] then
            some (.missing, anchors, rest.drop 1)
          else readNode? fuel false false anchors rest
        let (value, anchors, rest) ← readFlowValue? fuel .flowSequenceEnd anchors rest
        let (items, anchors, rest) ← readFlowItems? fuel false anchors rest
        return (.mapping [(key, value)] :: items, anchors, rest)
      | tokens =>
        let (item, anchors, rest) ← readNode? fuel false false anchors tokens
        let (items, anchors, rest) ← readFlowItems? fuel false anchors rest
        return (item :: items, anchors, rest)

/-- Reads the rest of a flow mapping. A comma stands before every member but the first, and may
stand before the closing brace. -/
def readFlowMembers? : (fuel : Nat) → (first : Bool) → Anchors → List Token →
    Option (Parsed (List (Node × Node)))
  | 0, _, _, _ => none
  | fuel + 1, first, anchors, tokens =>
    match tokens with
    | .flowMappingEnd :: rest => some ([], anchors, rest)
    | _ => do
      let tokens ← if first then some tokens else
        match tokens with
        | .flowEntry :: rest => some rest
        | _ => none
      match tokens with
      | .flowMappingEnd :: rest => return ([], anchors, rest)
      | .key :: rest =>
        let (key, anchors, rest) ←
          if startsWith rest [.value, .flowEntry, .flowMappingEnd] then
            some (.missing, anchors, rest)
          else readNode? fuel false false anchors rest
        let (value, anchors, rest) ← readFlowValue? fuel .flowMappingEnd anchors rest
        let (members, anchors, rest) ← readFlowMembers? fuel false anchors rest
        return ((key, value) :: members, anchors, rest)
      | tokens =>
        let (key, anchors, rest) ← readNode? fuel false false anchors tokens
        let (members, anchors, rest) ← readFlowMembers? fuel false anchors rest
        return ((key, .missing) :: members, anchors, rest)

/-- Reads the value of a member of a flow mapping, which may be missing; `closing` is the
bracket that ends the collection. -/
def readFlowValue? : (fuel : Nat) → (closing : Token) → Anchors → List Token → Option (Parsed Node)
  | 0, _, _, _ => none
  | fuel + 1, closing, anchors, tokens =>
    match tokens with
    | .value :: rest =>
      if startsWith rest [.flowEntry, closing] then some (.missing, anchors, rest)
      else readNode? fuel false false anchors rest
    | _ => some (.missing, anchors, tokens)

end

/-- Reads the tokens of one document; nothing may follow it. No step of the reader takes more
than four calls for a token. -/
def readDocument? (tokens : List Token) : Option Node := do
  let content (tokens : List Token) : Option (Node × List Token) :=
    (readNode? (4 * tokens.length + 4) true false [] tokens).map fun (node, _, rest) =>
      (node, rest)
  let (node, rest) ← match tokens with
    | [] => some (Node.missing, [])
    | .documentStart :: rest =>
      if startsWith rest [.documentStart, .documentEnd] then some (Node.missing, rest)
      else content rest
    | _ => content tokens
  if rest.all (· = .documentEnd) then some node else none

/-! ### Nodes as JSON -/

/-- The text of a key. -/
def Node.keyText? : Node → Option Text
  | .scalar _ text => some text
  | _ => none

mutual

/-- The JSON value of a node; `depth` is the number of collections that may still be opened
around each other. -/
def Node.toJson? (depth : Nat) : Node → Option Json
  | .scalar true text => plainValue? text
  | .scalar false text => some (.string text)
  | .sequence items =>
    match depth with
    | 0 => none
    | depth + 1 => (itemsToJson? depth items).map .array
  | .mapping members =>
    match depth with
    | 0 => none
    | depth + 1 => (membersToJson? depth members).map .ofMembers

/-- The JSON values of the items of a sequence. -/
def itemsToJson? (depth : Nat) : List Node → Option (List Json)
  | [] => some []
  | item :: rest => do
    let value ← item.toJson? depth
    let values ← itemsToJson? depth rest
    return value :: values

/-- The JSON members of a mapping, in their order. -/
def membersToJson? (depth : Nat) : List (Node × Node) → Option (List (Text × Json))
  | [] => some []
  | (key, value) :: rest => do
    let key ← key.keyText?
    let value ← value.toJson? depth
    let values ← membersToJson? depth rest
    return (key, value) :: values

end

/-- The greatest depth to which collections nest. -/
def maxDepth : Nat := 128

/-- Reads a text as one YAML document. A text without a document is null. -/
def parse? (t : Text) : Option Json := do
  if t.all isAllowed then
    let tokens ← tokens? (uniformLineEnds t)
    let node ← readDocument? tokens
    node.toJson? maxDepth
  else none

end BoundReport.Yaml
