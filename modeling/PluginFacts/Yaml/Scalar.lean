/-
# Scalars of YAML

A scalar is text without quotes, text in quotes, or a block of lines.  Where the text of the first
two kinds is broken into lines, the line breaks are folded: a single one becomes a blank, and of
several the first is dropped; blanks next to a line break do not count.
-/
import PluginFacts.Json.Reader
import PluginFacts.Yaml.Text

namespace PluginFacts.Yaml

/-! ## Gaps -/

/-- The blanks and line breaks between two words of a scalar, as far as they are read. -/
structure Gap where
  /-- The blanks, in reverse order, as long as there is no line break. -/
  blanks : List Char := []
  /-- There is a line break. -/
  broken : Bool := false
  /-- The first line break, unless it was escaped. -/
  first : Option Char := none
  /-- The other line breaks, in reverse order. -/
  further : List Char := []
  /-- The number of blanks after the last line break. -/
  column : Nat := 0

namespace Gap

/-- The gap with one more blank or line break. -/
def add (g : Gap) (c : Char) : Gap :=
  if isBreak c then
    if g.broken then { g with further := c :: g.further, column := 0 }
    else { blanks := [], broken := true, first := some c }
  else if g.broken then { g with column := g.column + 1 }
  else { g with blanks := c :: g.blanks }

/-- The gap that an escaped line break starts. -/
def escaped : Gap := { broken := true }

/-- Nothing was read. -/
def isEmpty (g : Gap) : Bool := g.blanks.isEmpty && !g.broken

/-- What the gap amounts to. -/
def text (g : Gap) : List Char :=
  if g.broken then
    match g.first, g.further with
    | some '\n', [] => [' ']
    | some '\n', further => further.reverse
    | some c, further => c :: further.reverse
    | none, further => further.reverse
  else g.blanks.reverse

/-- The gap ends at the start of a line. -/
def endsLine (g : Gap) : Bool := g.broken && g.column == 0

end Gap

/-! ## Scalars without quotes -/

/-- Where a scalar stands. -/
structure Place where
  /-- It is inside brackets. -/
  inFlow : Bool
  /-- The least column of its further lines. -/
  indent : Nat

/-- A scalar without quotes. -/
structure PlainScalar where
  /-- The text. -/
  text : List Char
  /-- A line break was read after the text. -/
  endsLine : Bool
  /-- What follows. -/
  rest : List Char

/-- Whether a character is a bracket or comma that ends a scalar in flow style. -/
def isFlowIndicator (c : Char) : Bool :=
  c = ',' || c = '[' || c = ']' || c = '\x7b' || c = '\x7d'

/-- Whether a word of a scalar cannot start here. -/
def endsScalar (p : Place) (g : Gap) (s : List Char) : Bool :=
  !g.isEmpty &&
    ((g.broken && !p.inFlow && g.column < p.indent) ||
      (g.endsLine && (atDocumentStart s || atDocumentEnd s)) || s.head? == some '#')

/-- Reads a scalar without quotes, given its text before, in reverse order, and the gap after that.
A tab must not take the place of indentation, and in flow style no bracket may follow a colon. -/
def plain (p : Place) (before : List Char) (g : Gap) : List Char → Option PlainScalar
  | [] => some ⟨before.reverse, g.broken, []⟩
  | c :: rest =>
    if !isDark c then
      if g.broken && g.column < p.indent && c = '\t' then none
      else plain p before (g.add c) rest
    else if endsScalar p g (c :: rest) then some ⟨before.reverse, g.broken, c :: rest⟩
    else if p.inFlow && c = ':' && rest.head?.any (fun d => isFlowIndicator d || d = '?') then none
    else if (c = ':' && atGap rest) || (p.inFlow && isFlowIndicator c) then
      some ⟨before.reverse, g.broken, c :: rest⟩
    else plain p (c :: (g.text.reverse ++ before)) {} rest

/-! ## Scalars in quotes -/

/-- Reads a scalar in single quotes after the opening one, given its text before, in reverse order,
and the gap after that.  Two quotes in a row stand for one. -/
def singleQuoted (before : List Char) (g : Gap) : List Char → Option (List Char × List Char)
  | [] => none
  | c :: rest =>
    if !isDark c then singleQuoted before (g.add c) rest
    else if g.endsLine && (atDocumentStart (c :: rest) || atDocumentEnd (c :: rest)) then none
    else
      let before := g.text.reverse ++ before
      if c = '\'' then
        match rest with
        | '\'' :: rest => singleQuoted ('\'' :: before) {} rest
        | rest => some (before.reverse, rest)
      else singleQuoted (c :: before) {} rest

/-- The character that a letter stands for after a backslash. -/
def unescape? : Char → Option Char
  | '0' => some '\x00'
  | 'a' => some '\x07'
  | 'b' => some '\x08'
  | 't' | '\t' => some '\t'
  | 'n' => some '\n'
  | 'v' => some '\x0b'
  | 'f' => some '\x0c'
  | 'r' => some '\r'
  | 'e' => some '\x1b'
  | ' ' => some ' '
  | '"' => some '"'
  | '/' => some '/'
  | '\\' => some '\\'
  | 'N' => some '\u0085'
  | '_' => some '\u00a0'
  | 'L' => some '\u2028'
  | 'P' => some '\u2029'
  | _ => none

/-- The number of hexadecimal digits after a letter that spells a character by its number. -/
def escapeWidth? : Char → Option Nat
  | 'x' => some 2
  | 'u' => some 4
  | 'U' => some 8
  | _ => none

/-- The character that hexadecimal digits spell. -/
def charOfHex? (digits : List Char) : Option Char := do
  let code ← digits.foldlM (fun n d => (n * 16 + ·) <$> Json.hexDigit? d) 0
  if h : code.isValidChar then some (Char.ofNatAux code h) else none

/-- Reads a scalar in double quotes after the opening one, given its text before, in reverse order,
the gap after that, and the hexadecimal digits that are still to come with those read, in reverse
order. -/
def doubleQuoted (before : List Char) (g : Gap) (missing : Nat) (digits : List Char) :
    List Char → Option (List Char × List Char)
  | [] => none
  | c :: rest =>
    if missing = 1 then do
      let d ← charOfHex? (c :: digits).reverse
      doubleQuoted (d :: before) {} 0 [] rest
    else if missing > 1 then doubleQuoted before {} (missing - 1) (c :: digits) rest
    else if !isDark c then doubleQuoted before (g.add c) 0 [] rest
    else if g.endsLine && (atDocumentStart (c :: rest) || atDocumentEnd (c :: rest)) then none
    else
      let before := g.text.reverse ++ before
      if c = '"' then some (before.reverse, rest)
      else if c = '\\' then
        match rest with
        | [] => none
        | e :: rest =>
          if isBreak e then doubleQuoted before .escaped 0 [] rest
          else match unescape? e, escapeWidth? e with
            | some d, _ => doubleQuoted (d :: before) {} 0 [] rest
            | none, some width => doubleQuoted before {} width [] rest
            | none, none => none
      else doubleQuoted (c :: before) {} 0 [] rest

/-! ## Blocks of lines -/

/-- What happens to the line breaks at the end of a block. -/
inductive Chomping where
  /-- All but the first are dropped. -/
  | clip
  /-- All are dropped. -/
  | strip
  /-- All are kept. -/
  | keep
deriving DecidableEq, Repr

/-- The head of a block. -/
structure BlockHead where
  /-- What happens to the line breaks at the end. -/
  chomping : Chomping := .clip
  /-- How much further than its surroundings the block is indented, if that is said. -/
  increment : Option Nat := none

/-- The way of chomping that a sign stands for. -/
def chomping? : List Char → Option (Chomping × List Char)
  | '+' :: rest => some (.keep, rest)
  | '-' :: rest => some (.strip, rest)
  | _ => none

/-- The increment that a digit stands for; zero is none. -/
def increment? : List Char → Option (Option Nat × List Char)
  | c :: rest =>
    if c = '0' then none
    else if c.isDigit then some (some (c.toNat - '0'.toNat), rest)
    else some (none, c :: rest)
  | [] => some (none, [])

/-- Reads the head of a block after its first sign: way of chomping and increment in any order. -/
def blockHead (s : List Char) : Option (BlockHead × List Char) :=
  match chomping? s with
  | some (chomping, rest) => do
    let (increment, rest) ← increment? rest
    return ({ chomping, increment }, rest)
  | none => do
    let (increment, rest) ← increment? s
    match increment, chomping? rest with
    | some _, some (chomping, rest) => return ({ chomping, increment }, rest)
    | _, _ => return ({ increment }, rest)

/-- The lines without text before a line of a block. -/
structure EmptyLines where
  /-- The line breaks, in reverse order. -/
  breaks : List Char := []
  /-- The column that was reached. -/
  column : Nat := 0
  /-- The greatest column that was reached on any of the lines. -/
  widest : Nat := 0
  /-- What follows. -/
  rest : List Char := []

/-- Reads lines without text, with blanks up to the given column, if it is known.  A tab must not
take the place of indentation. -/
def emptyLines (indent : Option Nat) (before : EmptyLines) : List Char → Option EmptyLines
  | [] => some { before with widest := max before.widest before.column }
  | c :: rest =>
    let inside := indent.all (before.column < ·)
    if inside && c = ' ' then
      emptyLines indent { before with column := before.column + 1 } rest
    else
      let before := { before with widest := max before.widest before.column }
      if inside && c = '\t' then none
      else if isBreak c then
        emptyLines indent { before with breaks := c :: before.breaks, column := 0 } rest
      else some { before with rest := c :: rest }

/-- A block of lines as far as it is read. -/
structure BlockText where
  /-- The text, in reverse order. -/
  text : List Char := []
  /-- The line break after the last line with text. -/
  lineBreak : List Char := []
  /-- The line breaks after that, in reverse order. -/
  further : List Char := []
  /-- The last line with text starts with a blank. -/
  indented : Bool := false

/-- The block with one more line that starts with the given character.  When lines are folded, a
line break between two lines that start with text becomes a blank if no further one follows. -/
def BlockText.join (b : BlockText) (folded : Bool) (c : Char) : List Char :=
  if folded && b.lineBreak == ['\n'] && !b.indented && !isBlank c then
    if b.further.isEmpty then ' ' :: b.text else b.further ++ b.text
  else b.further ++ b.lineBreak ++ b.text

/-- Reads the lines of a block that is indented as far as the given column.  Each line takes a
character, so the bound need not be more than the number of characters. -/
def blockLines (folded : Bool) (indent : Nat) :
    (bound : Nat) → BlockText → EmptyLines → Option (BlockText × List Char)
  | 0, b, e => some ({ b with further := e.breaks }, e.rest)
  | bound + 1, b, e =>
    let b := { b with further := e.breaks }
    match e.rest with
    | [] => some (b, [])
    | c :: rest =>
      if e.column = indent then do
        let line := (c :: rest).takeWhile fun d => !isBreak d
        let after := (c :: rest).dropWhile fun d => !isBreak d
        let next ← emptyLines (some indent) {} (after.drop 1)
        blockLines folded indent bound
          { text := line.reverse ++ b.join folded c
            lineBreak := after.take 1
            indented := isBlank c } next
      else some (b, c :: rest)

/-- The text of a block after chomping. -/
def BlockText.chomped (b : BlockText) : Chomping → List Char
  | .strip => b.text.reverse
  | .clip => (b.lineBreak ++ b.text).reverse
  | .keep => (b.further ++ b.lineBreak ++ b.text).reverse

/-- Reads a block after its first sign, where `parent` is the column of the surrounding block, if
there is one. -/
def block (folded : Bool) (parent : Option Nat) (s : List Char) :
    Option (List Char × List Char) := do
  let (head, rest) ← blockHead s
  let rest ← nextLine? rest
  let least := (parent.map (· + 1)).getD 0
  let given := head.increment.map fun n => parent.getD 0 + n
  let start ← emptyLines given {} rest
  let indent := given.getD (max start.widest (max least 1))
  let (b, rest) ← blockLines folded indent s.length {} start
  return (b.chomped head.chomping, rest)

end PluginFacts.Yaml
