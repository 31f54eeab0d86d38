/-
Camouflage/Yaml/Node.lean

Documents as trees.  A node is a scalar, a sequence or a mapping; a mapping
keeps its entries in order and may hold a key twice, because what that means is
for the reader of the tree to say.

A document is read from its tokens by recursive descent.  Where a node is
missing (a key without a value, an empty document) the tree has an empty plain
scalar.
-/
import Camouflage.Yaml.Scalar
import Camouflage.Yaml.Token

namespace Camouflage.Yaml

/-- A document, or a part of one. -/
inductive Node
  | scalar (s : Scalar)
  | sequence (items : List Node)
  | mapping (entries : List (Node × Node))

namespace Node

/-- The node that stands where nothing is written. -/
def blank : Node := scalar (Scalar.plain [])

/-- Whether a token ends an entry of a block collection before its node has begun. -/
def endsBlockEntry : Token → Bool
  | .blockEntry | .key | .value | .blockEnd => true
  | _ => false

/-- Whether a token ends a key or a value of a block mapping before its node has begun. -/
def endsBlockPart : Token → Bool
  | .key | .value | .blockEnd => true
  | _ => false

/-- Whether a token ends a part of a flow mapping before its node has begun. -/
def endsFlowPart : Token → Bool
  | .value | .flowEntry | .flowMappingEnd => true
  | _ => false

/-- Whether a token ends a part of a single pair in a flow sequence before its node has begun. -/
def endsPairPart : Token → Bool
  | .value | .flowEntry | .flowSequenceEnd => true
  | _ => false

/-- Whether a token ends an entry of a flow mapping. -/
def endsFlowEntry : Token → Bool
  | .flowEntry | .flowMappingEnd => true
  | _ => false

/-- Whether a token ends a single pair in a flow sequence. -/
def endsPair : Token → Bool
  | .flowEntry | .flowSequenceEnd => true
  | _ => false

mutual

/-- A node.  In a block it may be a block collection; where `compact` holds, that may be a sequence
whose dashes stand under the key.  No four calls inside each other pass without taking a token,
which bounds the fuel. -/
def parseNode (block compact : Bool) : Nat → List Token → Except String (Node × List Token)
  | 0, _ => .error "the document is nested too deeply"
  | fuel + 1, tokens =>
    match tokens with
    | .scalar text plain :: rest =>
      .ok (scalar (if plain then Scalar.plain text else Scalar.string text), rest)
    | .flowSequenceStart :: rest => do
      let (items, rest) ← parseFlowItems true [] fuel rest
      return (sequence items, rest)
    | .flowMappingStart :: rest => do
      let (entries, rest) ← parseFlowEntries true [] fuel rest
      return (mapping entries, rest)
    | .blockSequenceStart :: rest =>
      if block then do
        let (items, rest) ← parseBlockItems [] fuel rest
        return (sequence items, rest)
      else .error "did not find expected node content"
    | .blockMappingStart :: rest =>
      if block then do
        let (entries, rest) ← parseBlockEntries [] fuel rest
        return (mapping entries, rest)
      else .error "did not find expected node content"
    | .blockEntry :: _ =>
      if compact then do
        let (items, rest) ← parseCompactItems [] fuel tokens
        return (sequence items, rest)
      else .error "did not find expected node content"
    | _ => .error "did not find expected node content"

/-- A node, or nothing if the next token ends the part it would be. -/
def parsePart (block compact : Bool) (ends : Token → Bool) :
    Nat → List Token → Except String (Node × List Token)
  | 0, _ => .error "the document is nested too deeply"
  | fuel + 1, tokens =>
    match tokens with
    | t :: _ => if ends t then .ok (blank, tokens) else parseNode block compact fuel tokens
    | [] => parseNode block compact fuel tokens

/-- The value of an entry: the part behind a colon, or nothing. -/
def parseValue (block : Bool) (ends : Token → Bool) :
    Nat → List Token → Except String (Node × List Token)
  | 0, _ => .error "the document is nested too deeply"
  | fuel + 1, .value :: rest => parsePart block block ends fuel rest
  | _ + 1, tokens => .ok (blank, tokens)

/-- The items of a block sequence. -/
def parseBlockItems (items : List Node) : Nat → List Token → Except String (List Node × List Token)
  | 0, _ => .error "the document is nested too deeply"
  | fuel + 1, .blockEntry :: rest => do
    let ends : Token → Bool := fun t => t = .blockEntry || t = .blockEnd
    let (item, rest) ← parsePart true false ends fuel rest
    parseBlockItems (item :: items) fuel rest
  | _ + 1, .blockEnd :: rest => .ok (items.reverse, rest)
  | _ + 1, _ => .error "did not find expected '-' indicator"

/-- The items of a sequence whose dashes stand under the key. -/
def parseCompactItems (items : List Node) :
    Nat → List Token → Except String (List Node × List Token)
  | 0, _ => .error "the document is nested too deeply"
  | fuel + 1, .blockEntry :: rest => do
    let (item, rest) ← parsePart true false endsBlockEntry fuel rest
    parseCompactItems (item :: items) fuel rest
  | _ + 1, tokens => .ok (items.reverse, tokens)

/-- The entries of a block mapping. -/
def parseBlockEntries (entries : List (Node × Node)) :
    Nat → List Token → Except String (List (Node × Node) × List Token)
  | 0, _ => .error "the document is nested too deeply"
  | fuel + 1, .key :: rest => do
    let (key, rest) ← parsePart true true endsBlockPart fuel rest
    let (value, rest) ← parseValue true endsBlockPart fuel rest
    parseBlockEntries ((key, value) :: entries) fuel rest
  | _ + 1, .blockEnd :: rest => .ok (entries.reverse, rest)
  | _ + 1, _ => .error "did not find expected key"

/-- The items of a flow sequence.  An item that begins with a key mark is a mapping of one entry. -/
def parseFlowItems (first : Bool) (items : List Node) :
    Nat → List Token → Except String (List Node × List Token)
  | 0, _ => .error "the document is nested too deeply"
  | _ + 1, .flowSequenceEnd :: rest => .ok (items.reverse, rest)
  | fuel + 1, tokens => do
    let tokens ←
      if first then .ok tokens
      else
        match tokens with
        | .flowEntry :: rest => .ok rest
        | _ => .error "did not find expected ',' or ']'"
    match tokens with
    | .flowSequenceEnd :: rest => return (items.reverse, rest)
    | .key :: t :: rest =>
      let (key, rest) ←
        if endsPairPart t then .ok (blank, rest) else parseNode false false fuel (t :: rest)
      let (value, rest) ← parseValue false endsPair fuel rest
      parseFlowItems false (mapping [(key, value)] :: items) fuel rest
    | _ =>
      let (item, rest) ← parseNode false false fuel tokens
      parseFlowItems false (item :: items) fuel rest

/-- The entries of a flow mapping.  An entry without a key mark is a key without a value. -/
def parseFlowEntries (first : Bool) (entries : List (Node × Node)) :
    Nat → List Token → Except String (List (Node × Node) × List Token)
  | 0, _ => .error "the document is nested too deeply"
  | _ + 1, .flowMappingEnd :: rest => .ok (entries.reverse, rest)
  | fuel + 1, tokens => do
    let tokens ←
      if first then .ok tokens
      else
        match tokens with
        | .flowEntry :: rest => .ok rest
        | _ => .error "did not find expected ',' or '\x7d'"
    match tokens with
    | .flowMappingEnd :: rest => return (entries.reverse, rest)
    | .key :: rest =>
      let (key, rest) ← parsePart false false endsFlowPart fuel rest
      let (value, rest) ← parseValue false endsFlowEntry fuel rest
      parseFlowEntries false ((key, value) :: entries) fuel rest
    | _ =>
      let (key, rest) ← parseNode false false fuel tokens
      parseFlowEntries false ((key, blank) :: entries) fuel rest

end

/-- The tokens behind document end markers. -/
def skipDocumentEnds : List Token → List Token
  | .documentEnd :: rest => skipDocumentEnds rest
  | tokens => tokens

/-- The content of a document behind its start marker. -/
def parseContent (fuel : Nat) (tokens : List Token) : Except String (Node × List Token) :=
  match tokens with
  | [] => .ok (blank, [])
  | .documentStart :: _ | .documentEnd :: _ => .ok (blank, tokens)
  | _ => parseNode true false fuel tokens

/-- The one document that tokens hold. -/
def ofTokens (tokens : List Token) : Except String Node := do
  let fuel := 4 * tokens.length + 4
  let (node, rest) ←
    match tokens with
    | [] => .ok (blank, [])
    | .documentStart :: rest => parseContent fuel rest
    | _ => parseNode true false fuel tokens
  match skipDocumentEnds rest with
  | [] => return node
  | .documentStart :: _ => .error "found more than one document"
  | _ => .error "did not find expected document start"

/-- Reads a document. -/
def parse (text : Word) : Except String Node :=
  match tokenize text with
  | .error fault => .error fault.message
  | .ok tokens => ofTokens tokens

end Node

end Camouflage.Yaml
