/-
Camouflage/Yaml/Token.lean

Tokens.  Block collections have no marks of their own in a document, so their
starts and ends are put in here: a collection starts where an entry or a key
stands further to the right than the indentation so far, and ends where a token
stands further to the left.

Whether a scalar is a key is known only when a colon follows, so the place of
every token that could begin one is kept (`Candidate`), one for each level of
flow collections, and the key mark is put there afterwards.  A key and its colon
stand in one line and at most 1024 bytes apart.  In a block mapping the
first thing in a line has to be a key.

Directives, anchors, aliases and tags are refused.
-/
import Camouflage.Yaml.Unquoted

namespace Camouflage.Yaml

/-- The tokens of a document. -/
inductive Token
  | documentStart
  | documentEnd
  | blockSequenceStart
  | blockMappingStart
  | blockEnd
  | flowSequenceStart
  | flowSequenceEnd
  | flowMappingStart
  | flowMappingEnd
  | blockEntry
  | flowEntry
  | key
  | value
  /-- a scalar, and whether it is plain -/
  | scalar (text : Word) (plain : Bool)
deriving DecidableEq

/-- A token that may turn out to begin a key. -/
structure Candidate where
  /-- whether it has to -/
  required : Bool
  /-- its place among the tokens -/
  index : Nat
  line : Nat
  column : Nat
  offset : Nat

/-- The state between two tokens. -/
structure Lexer where
  at_ : Cursor
  /-- the indentation of the innermost block collection, `-1` outside of all -/
  indent : Int := -1
  /-- the indentations around it, the innermost first -/
  indents : List Int := []
  /-- whether a key may begin here -/
  keyAllowed : Bool := true
  /-- the candidate of the innermost flow level -/
  candidate : Option Candidate := none
  /-- the candidates of the levels around it -/
  outer : List (Option Candidate) := []
  tokens : Array Token := #[]

namespace Lexer

/-- Whether the lexer is inside a flow collection. -/
def inFlow (s : Lexer) : Bool := !s.outer.isEmpty

/-- A fault at the place of the lexer. -/
def fail {α : Type} (s : Lexer) (problem : String) : Except Fault α := s.at_.fail problem

/-- Adds a token. -/
def emit (s : Lexer) (t : Token) : Lexer := { s with tokens := s.tokens.push t }

/-- Adds a token and goes on behind its mark of some characters. -/
def take (s : Lexer) (count : Nat) (t : Token) : Lexer :=
  { s with tokens := s.tokens.push t, at_ := s.at_.advance count }

/-! ### Gaps -/

/-- Skips blanks, comments and line ends, and a byte order mark at the beginning of a line, which
takes a column like any character.  A tab counts as a blank only where no key may begin.  Tells
whether a key may begin behind them: after a line end in a block, it may. -/
def gap (flow : Bool) (keyAllowed comment : Bool) (at_ : Cursor) : Bool × Cursor :=
  match _h : at_.rest with
  | [] => (keyAllowed, at_)
  | c :: rest =>
    if isBreak c then gap flow (keyAllowed || !flow) false (at_.past c rest)
    else if at_.column = 0 && c = '\ufeff' then gap flow keyAllowed false (at_.past c rest)
    else if comment || c = ' ' || (c = '\t' && (flow || !keyAllowed)) then
      gap flow keyAllowed comment (at_.past c rest)
    else if c = '#' then gap flow keyAllowed true (at_.past c rest)
    else (keyAllowed, at_)
termination_by at_.rest.length
decreasing_by
  all_goals simp only [_h, Cursor.rest_past, List.length_cons]
  all_goals omega

/-- The lexer in front of its next token. -/
def skipGap (s : Lexer) : Lexer :=
  let (keyAllowed, at_) := gap s.inFlow s.keyAllowed false s.at_
  { s with keyAllowed := keyAllowed, at_ := at_ }

/-! ### Indentation -/

/-- Ends block collections, given their indentations from the innermost on, down to a column. -/
def closeBlocks (column : Int) (indent : Int) (tokens : Array Token) :
    List Int → Int × List Int × Array Token
  | [] => (indent, [], tokens)
  | next :: rest =>
    if column < indent then closeBlocks column next (tokens.push .blockEnd) rest
    else (indent, next :: rest, tokens)

/-- Ends the block collections that a token at a column is not part of. -/
def unroll (s : Lexer) (column : Int) : Lexer :=
  if s.inFlow then s
  else
    let (indent, indents, tokens) := closeBlocks column s.indent s.tokens s.indents
    { s with indent := indent, indents := indents, tokens := tokens }

/-- Starts a block collection at a column, with its start at a place among the tokens, if the column
is further to the right than the indentation so far. -/
def roll (s : Lexer) (column : Nat) (index : Nat) (start : Token) : Lexer :=
  if s.inFlow || (column : Int) ≤ s.indent then s
  else
    { s with
      indents := s.indent :: s.indents
      indent := column
      tokens := s.tokens.insertIdxIfInBounds index start }

/-! ### Candidates -/

/-- Gives the candidate up; one that has to begin a key is a fault. -/
def dropCandidate (s : Lexer) : Except Fault Lexer :=
  match s.candidate with
  | some k =>
    if k.required then .error ⟨"could not find expected ':'", k.line, k.column⟩
    else .ok { s with candidate := none }
  | none => .ok s

/-- Makes the next token a candidate, where a key may begin. -/
def saveCandidate (s : Lexer) : Except Fault Lexer := do
  if s.keyAllowed then
    let s ← s.dropCandidate
    let required := !s.inFlow && s.indent = s.at_.column
    return { s with
      candidate := some ⟨required, s.tokens.size, s.at_.line, s.at_.column, s.at_.offset⟩ }
  else return s

/-- The candidate, if it can be the key of a colon here. -/
def validCandidate (s : Lexer) : Except Fault (Option Candidate) :=
  match s.candidate with
  | none => .ok none
  | some k =>
    if k.line < s.at_.line || k.offset + 1024 < s.at_.offset then
      if k.required then .error ⟨"could not find expected ':'", k.line, k.column⟩
      else .ok none
    else .ok (some k)

/-! ### Tokens -/

/-- A document marker. -/
def marker (s : Lexer) (t : Token) : Except Fault Lexer := do
  let s ← (s.unroll (-1)).dropCandidate
  return { s.take 3 t with keyAllowed := false }

/-- The start of a flow collection. -/
def openFlow (s : Lexer) (t : Token) : Except Fault Lexer := do
  let s ← s.saveCandidate
  return { s.take 1 t with outer := s.candidate :: s.outer, candidate := none, keyAllowed := true }

/-- The end of a flow collection. -/
def closeFlow (s : Lexer) (t : Token) : Except Fault Lexer := do
  let s ← s.dropCandidate
  let s := match s.outer with
    | k :: outer => { s with candidate := k, outer := outer }
    | [] => s
  return { s.take 1 t with keyAllowed := false }

/-- The comma between entries of a flow collection. -/
def comma (s : Lexer) : Except Fault Lexer := do
  let s ← s.dropCandidate
  return { s.take 1 .flowEntry with keyAllowed := true }

/-- The dash in front of an entry. -/
def dash (s : Lexer) : Except Fault Lexer := do
  if !s.inFlow && !s.keyAllowed then
    s.fail "block sequence entries are not allowed in this context"
  let s := s.roll s.at_.column s.tokens.size .blockSequenceStart
  let s ← s.dropCandidate
  return { s.take 1 .blockEntry with keyAllowed := true }

/-- The question mark in front of a key. -/
def question (s : Lexer) : Except Fault Lexer := do
  if !s.inFlow && !s.keyAllowed then s.fail "mapping keys are not allowed in this context"
  let s := s.roll s.at_.column s.tokens.size .blockMappingStart
  let s ← s.dropCandidate
  return { s.take 1 .key with keyAllowed := !s.inFlow }

/-- The colon in front of a value. -/
def colon (s : Lexer) : Except Fault Lexer := do
  match ← s.validCandidate with
  | some k =>
    let s := { s with tokens := s.tokens.insertIdxIfInBounds k.index .key }
    let s := s.roll k.column k.index .blockMappingStart
    return { s.take 1 .value with candidate := none, keyAllowed := false }
  | none =>
    if !s.inFlow && !s.keyAllowed then s.fail "mapping values are not allowed in this context"
    let s := s.roll s.at_.column s.tokens.size .blockMappingStart
    return { s.take 1 .value with candidate := none, keyAllowed := !s.inFlow }

/-- A block scalar. -/
def blockScalar (s : Lexer) (literal : Bool) : Except Fault Lexer := do
  let s ← s.dropCandidate
  let (text, at_) ← Block.scan literal s.indent (s.at_.advance 1)
  return { s.emit (.scalar text false) with at_ := at_, keyAllowed := true }

/-- A quoted scalar. -/
def quotedScalar (s : Lexer) (single : Bool) : Except Fault Lexer := do
  let s ← s.saveCandidate
  let (text, at_) ← Quoted.scan single [] .none (s.at_.advance 1)
  return { s.emit (.scalar text false) with at_ := at_, keyAllowed := false }

/-- A plain scalar. -/
def plainScalar (s : Lexer) : Except Fault Lexer := do
  let s ← s.saveCandidate
  let (text, at_, hadBreak) ← Plain.scan s.inFlow (s.indent + 1).toNat [] .none s.at_
  return { s.emit (.scalar text true) with at_ := at_, keyAllowed := hadBreak }

/-- The characters a plain scalar cannot begin with. -/
def indicators : Word := "-?:,[]{}#&*!|>'\x22%@\x60".toList

/-- Whether a plain scalar can begin with a character, given what follows it. -/
def beginsPlain (flow : Bool) (c : Char) (rest : Word) : Bool :=
  !(c ∈ indicators || isSpacing c || isBreak c) ||
    (c = '-' && !(rest.head?.any isSpacing)) ||
    (!flow && (c = '?' || c = ':') && !atGap rest)

/-- Reads the token at the first character of what is left. -/
def token (s : Lexer) (c : Char) (rest : Word) : Except Fault Lexer :=
  let flow := s.inFlow
  if s.at_.column = 0 && c = '%' then s.fail "directives are not supported"
  else if s.at_.isMarker '-' then s.marker .documentStart
  else if s.at_.isMarker '.' then s.marker .documentEnd
  else if c = '[' then s.openFlow .flowSequenceStart
  else if c = '{' then s.openFlow .flowMappingStart
  else if c = ']' then s.closeFlow .flowSequenceEnd
  else if c = '}' then s.closeFlow .flowMappingEnd
  else if c = ',' then s.comma
  else if c = '-' && atGap rest then s.dash
  else if c = '?' && (flow || atGap rest) then s.question
  else if c = ':' && (flow || atGap rest) then s.colon
  else if c = '*' || c = '&' || c = '!' then s.fail "aliases, anchors and tags are not supported"
  else if c = '|' && !flow then s.blockScalar true
  else if c = '>' && !flow then s.blockScalar false
  else if c = '\x27' then s.quotedScalar true
  else if c = '\x22' then s.quotedScalar false
  else if beginsPlain flow c rest then s.plainScalar
  else s.fail "found character that cannot start any token"

/-- The end of the document: nothing stays open. -/
def finish (s : Lexer) : Except Fault (Array Token) := do
  let s ← (s.unroll (-1)).dropCandidate
  return s.tokens

/-- Reads tokens up to the end; each takes at least one character, so the fuel is their number. -/
def run (s : Lexer) : Nat → Except Fault (Array Token)
  | 0 => s.finish
  | fuel + 1 =>
    let s := s.skipGap
    let s := s.unroll s.at_.column
    match s.at_.rest with
    | [] => s.finish
    | c :: rest => do
      let s ← s.token c rest
      run s fuel

end Lexer

/-- The tokens of a document. -/
def tokenize (text : Word) : Except Fault (List Token) :=
  match text.find? fun c => !isReadable c with
  | some _ => .error ⟨"control characters are not allowed", 0, 0⟩
  | none => do
    let rest := normalizeBreaks text
    let tokens ← Lexer.run { at_ := { rest := rest } } (rest.length + 1)
    return tokens.toList

end Camouflage.Yaml
