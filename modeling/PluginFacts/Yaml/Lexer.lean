/-
# Reading the tokens of YAML

Tokens are read one after another from the place that a `Lexer` has reached.  In block style the
column of a token says where collections start and end: `indents` holds the columns of the block
collections that are open.

That a node is a key is only seen at the colon after it.  Each node that may turn out to be one is
therefore kept in mind as a *candidate*, one for each pair of open brackets, and the colon puts the
token for the key before it.  A candidate has to stand on one line with its colon, and not more
than 1024 bytes before it.
-/
import PluginFacts.Yaml.Tag

namespace PluginFacts.Yaml

/-- A node that may turn out to be a key. -/
structure Candidate where
  /-- Only a key may stand here. -/
  required : Bool
  /-- The number of tokens before it. -/
  count : Nat
  /-- The line it starts on. -/
  line : Nat
  /-- The column it starts at. -/
  column : Nat
  /-- The number of bytes before it on the same line. -/
  bytes : Nat

/-- A place in a text, with what is known there. -/
structure Lexer where
  /-- The characters that follow. -/
  rest : List Char
  /-- The number of lines before. -/
  line : Nat := 0
  /-- The number of characters before on the same line. -/
  column : Nat := 0
  /-- The number of bytes that the characters before on the same line take in UTF-8. -/
  bytes : Nat := 0
  /-- The columns of the open block collections, innermost first. -/
  indents : List Nat := []
  /-- The candidate between the innermost brackets. -/
  candidate : Option Candidate := none
  /-- The candidates around the open brackets, innermost first. -/
  outer : List (Option Candidate) := []
  /-- A key may start here. -/
  keyAllowed : Bool := true
  /-- The tokens before, in reverse order. -/
  tokens : List Token := []
  /-- The number of tokens before. -/
  count : Nat := 0

namespace Lexer

/-- The place is inside brackets. -/
def inFlow (l : Lexer) : Bool := !l.outer.isEmpty

/-! ## Moving on -/

/-- The place after the next character. -/
def past (l : Lexer) (c : Char) (rest : List Char) : Lexer :=
  if isBreak c then { l with rest, line := l.line + 1, column := 0, bytes := 0 }
  else { l with rest, column := l.column + 1, bytes := l.bytes + c.utf8Size }

/-- The place after the next `n` characters. -/
def skip (l : Lexer) : Nat → Lexer
  | 0 => l
  | n + 1 =>
    match l.rest with
    | [] => l
    | c :: rest => skip (l.past c rest) n

/-- The place from which `rest` follows. -/
def goTo (l : Lexer) (rest : List Char) : Lexer :=
  l.skip (l.rest.length - rest.length)

/-- The place before the next token, after blanks, line ends and comments.  In block style a tab
is no blank where a key may start, and a key may start on each new line. -/
def toToken (inComment : Bool) (l : Lexer) : List Char → Lexer
  | [] => { l with rest := [] }
  | c :: rest =>
    if isBreak c then
      let l := l.past c rest
      toToken false { l with keyAllowed := l.keyAllowed || !l.inFlow } rest
    else if inComment then toToken true (l.past c rest) rest
    else if c = ' ' ∨ (c = '\t' ∧ (l.inFlow ∨ !l.keyAllowed)) ∨ (c = '\ufeff' ∧ l.column = 0) then
      toToken false (l.past c rest) rest
    else if c = '#' then toToken true (l.past c rest) rest
    else { l with rest := c :: rest }

/-! ## Tokens -/

/-- Adds a token. -/
def push (l : Lexer) (t : Token) : Lexer :=
  { l with tokens := t :: l.tokens, count := l.count + 1 }

/-- Puts a token after the first `position` tokens. -/
def insert (l : Lexer) (position : Nat) (t : Token) : Lexer :=
  let after := l.count - position
  { l with tokens := l.tokens.take after ++ t :: l.tokens.drop after, count := l.count + 1 }

/-! ## Block collections -/

/-- Ends the block collections that are indented further than a column. -/
def endBlocks (l : Lexer) (column : Nat) : Lexer :=
  if l.inFlow then l
  else
    let ended := l.indents.takeWhile (column < ·)
    { l with
      indents := l.indents.dropWhile (column < ·)
      tokens := List.replicate ended.length .blockEnd ++ l.tokens
      count := l.count + ended.length }

/-- Ends all block collections. -/
def endAllBlocks (l : Lexer) : Lexer :=
  if l.inFlow then l
  else
    { l with
      indents := []
      tokens := List.replicate l.indents.length .blockEnd ++ l.tokens
      count := l.count + l.indents.length }

/-- Starts a block collection after the first `position` tokens, unless one is open at this column
already. -/
def startBlock (l : Lexer) (column position : Nat) (t : Token) : Lexer :=
  if !l.inFlow && l.indents.head?.all (· < column) then
    { l.insert position t with indents := column :: l.indents }
  else l

/-! ## Candidates for keys -/

/-- Forgets the candidate, which must not be required. -/
def dropCandidate (l : Lexer) : Option Lexer :=
  if l.candidate.any (·.required) then none else some { l with candidate := none }

/-- Makes the next node a candidate, if a key may start here. -/
def addCandidate (l : Lexer) : Option Lexer :=
  if l.keyAllowed then do
    let required := !l.inFlow && l.indents.head? == some l.column
    let l ← l.dropCandidate
    return { l with
      candidate := some {
        required, count := l.count, line := l.line, column := l.column, bytes := l.bytes } }
  else some l

/-- A candidate is too far away to be a key: it stands on another line or more than 1024 bytes
before. -/
def isStale (l : Lexer) (c : Candidate) : Bool :=
  c.line < l.line || c.bytes + 1024 < l.bytes

/-- Forgets a candidate that is too far away, which must not be required. -/
def refresh (l : Lexer) : Option Candidate → Option (Option Candidate)
  | none => some none
  | some c => if l.isStale c then if c.required then none else some none else some (some c)

/-- Forgets the candidates that are too far away. -/
def dropStale (l : Lexer) : Option Lexer := do
  return { l with candidate := ← l.refresh l.candidate, outer := ← l.outer.mapM l.refresh }

/-! ## Reading a token -/

/-- Reads a directive. -/
def readDirective (l : Lexer) (rest : List Char) : Option Lexer := do
  let l ← l.endAllBlocks.dropCandidate
  let (t, rest) ← directive rest
  return { (l.goTo rest).push t with keyAllowed := false }

/-- Reads the mark of the start or end of a document. -/
def readMark (l : Lexer) (t : Token) : Option Lexer := do
  let l ← l.endAllBlocks.dropCandidate
  return { (l.skip 3).push t with keyAllowed := false }

/-- Reads an opening bracket. -/
def readOpening (l : Lexer) (t : Token) : Option Lexer := do
  let l ← l.addCandidate
  return { (l.skip 1).push t with
    candidate := none, outer := l.candidate :: l.outer, keyAllowed := true }

/-- Reads a closing bracket. -/
def readClosing (l : Lexer) (t : Token) : Option Lexer := do
  let l ← l.dropCandidate
  let l := { (l.skip 1).push t with keyAllowed := false }
  match l.outer with
  | [] => return l
  | c :: outer => return { l with candidate := c, outer }

/-- Reads a comma. -/
def readComma (l : Lexer) : Option Lexer := do
  let l ← l.dropCandidate
  return { (l.skip 1).push .flowEntry with keyAllowed := true }

/-- Reads a dash. -/
def readDash (l : Lexer) : Option Lexer := do
  if !l.inFlow && !l.keyAllowed then none
  else
    let l ← (l.startBlock l.column l.count .blockSeqStart).dropCandidate
    return { (l.skip 1).push .blockEntry with keyAllowed := true }

/-- Reads a question mark before a key. -/
def readKey (l : Lexer) : Option Lexer := do
  if !l.inFlow && !l.keyAllowed then none
  else
    let l ← (l.startBlock l.column l.count .blockMapStart).dropCandidate
    return { (l.skip 1).push .key with keyAllowed := !l.inFlow }

/-- Reads a colon before a value. -/
def readColon (l : Lexer) : Option Lexer :=
  match l.candidate with
  | some c =>
    let l := (l.insert c.count .key).startBlock c.column c.count .blockMapStart
    some { (l.skip 1).push .value with candidate := none, keyAllowed := false }
  | none =>
    if !l.inFlow && !l.keyAllowed then none
    else
      let l := l.startBlock l.column l.count .blockMapStart
      some { (l.skip 1).push .value with keyAllowed := !l.inFlow }

/-- Reads the name of an anchor, which must be followed by a gap or one of a few characters. -/
def readName (l : Lexer) (rest : List Char) (t : String → Token) : Option Lexer := do
  let l ← l.addCandidate
  let name := rest.takeWhile isNameChar
  let rest := rest.dropWhile isNameChar
  if name ≠ [] ∧ (atGap rest ∨ rest.head?.any ("?:,]\x7d%@`".toList.contains ·)) then
    return { (l.goTo rest).push (t (String.ofList name)) with keyAllowed := false }
  else none

/-- Reads a tag. -/
def readTag (l : Lexer) (rest : List Char) : Option Lexer := do
  let l ← l.addCandidate
  let (name, rest) ← tag l.inFlow rest
  return { (l.goTo rest).push (.tag name) with keyAllowed := false }

/-- Reads a block of lines. -/
def readBlock (l : Lexer) (rest : List Char) (folded : Bool) : Option Lexer := do
  let l ← l.dropCandidate
  let (text, rest) ← block folded l.indents.head? rest
  return { (l.goTo rest).push (.scalar false (String.ofList text)) with keyAllowed := true }

/-- Reads a scalar in quotes. -/
def readQuoted (l : Lexer) (scalar : Option (List Char × List Char)) : Option Lexer := do
  let l ← l.addCandidate
  let (text, rest) ← scalar
  return { (l.goTo rest).push (.scalar false (String.ofList text)) with keyAllowed := false }

/-- Reads a scalar without quotes. -/
def readPlain (l : Lexer) : Option Lexer := do
  let l ← l.addCandidate
  let p ← plain { inFlow := l.inFlow, indent := (l.indents.head?.map (· + 1)).getD 0 } [] {} l.rest
  return {
    (l.goTo p.rest).push (.scalar true (String.ofList p.text)) with keyAllowed := p.endsLine }

/-- Whether a scalar without quotes may start with a character, before what follows. -/
def startsPlain (l : Lexer) (c : Char) (rest : List Char) : Bool :=
  (isDark c && !("-?:,[]\x7b\x7d#&*!|>'\"%@`".toList.contains c)) ||
    (c = '-' && !rest.head?.any isBlank) || (!l.inFlow && (c = '?' || c = ':') && !atGap rest)

/-- Reads the next token, which starts with the given character. -/
def readToken (l : Lexer) (c : Char) (rest : List Char) : Option Lexer :=
  if l.column = 0 ∧ c = '%' then l.readDirective rest
  else if l.column = 0 ∧ atDocumentStart (c :: rest) then l.readMark .documentStart
  else if l.column = 0 ∧ atDocumentEnd (c :: rest) then l.readMark .documentEnd
  else if c = '[' then l.readOpening .flowSeqStart
  else if c = '\x7b' then l.readOpening .flowMapStart
  else if c = ']' then l.readClosing .flowSeqEnd
  else if c = '\x7d' then l.readClosing .flowMapEnd
  else if c = ',' then l.readComma
  else if c = '-' ∧ atGap rest then l.readDash
  else if c = '?' ∧ (l.inFlow ∨ atGap rest) then l.readKey
  else if c = ':' ∧ (l.inFlow ∨ atGap rest) then l.readColon
  else if c = '*' then l.readName rest .reference
  else if c = '&' then l.readName rest .anchor
  else if c = '!' then l.readTag rest
  else if c = '|' ∧ !l.inFlow then l.readBlock rest false
  else if c = '>' ∧ !l.inFlow then l.readBlock rest true
  else if c = '\'' then l.readQuoted (singleQuoted [] {} rest)
  else if c = '"' then l.readQuoted (doubleQuoted [] {} 0 [] rest)
  else if l.startsPlain c rest then l.readPlain
  else none

/-- Reads all tokens.  Each of them takes a character, so the bound need not be more than one
above the number of characters. -/
def readAll : (bound : Nat) → Lexer → Option (List Token)
  | 0, _ => none
  | bound + 1, l => do
    let l ← (l.toToken false l.rest).dropStale
    let l := l.endBlocks l.column
    match l.rest with
    | [] => return (← l.endAllBlocks.dropCandidate).tokens.reverse
    | c :: rest => readAll bound (← l.readToken c rest)

end Lexer

/-- The tokens of a text. -/
def tokens? (text : String) : Option (List Token) :=
  let s := text.toList
  if s.all isAllowed then
    let s := withLineFeeds s
    Lexer.readAll (s.length + 1) { rest := s }
  else none

end PluginFacts.Yaml
