/-
# Tags and directives of YAML

A tag is written as a handle with a suffix, as a local name after one exclamation mark, or in full
between angle brackets.  Directives at the start of a document name the version of the language and
say what handles stand for.  Names are strings of bytes, because any byte can be spelled by a
percent sign and two hexadecimal digits; a byte that is zero ends the name.
-/
import PluginFacts.Yaml.Scalar
import PluginFacts.Yaml.Token

namespace PluginFacts.Yaml

/-- The bytes of a text in which all characters are single bytes. -/
def asciiBytes (s : List Char) : List UInt8 :=
  s.map fun c => UInt8.ofNat c.toNat

/-- Whether a character may occur in the name of a tag. -/
def isTagChar (c : Char) : Bool :=
  isNameChar c || ";/?:@&=+$.%!~*'()".toList.contains c

/-- Whether a character may occur in the name of a tag that is written in full. -/
def isFullTagChar (c : Char) : Bool :=
  isTagChar c || c = ',' || c = '[' || c = ']'

/-- How many bytes of a character are to come after a leading byte. -/
def trailingBytes? (byte : Nat) : Option Nat :=
  if byte < 0x80 then some 0
  else if byte / 0x20 = 6 then some 1
  else if byte / 0x10 = 14 then some 2
  else if byte / 8 = 30 then some 3
  else none

/-- Reads the characters of a tag that satisfy `allowed`, given the bytes before, in reverse order,
and the number of bytes that are still missing from a character of several bytes. -/
def tagText (allowed : Char → Bool) (before : List UInt8) (missing : Nat) :
    List Char → Option (List UInt8 × List Char)
  | '%' :: a :: b :: rest => do
    let byte := (← Json.hexDigit? a) * 16 + (← Json.hexDigit? b)
    if missing > 0 then
      if byte / 0x40 = 2 then tagText allowed (.ofNat byte :: before) (missing - 1) rest else none
    else tagText allowed (.ofNat byte :: before) (← trailingBytes? byte) rest
  | c :: rest =>
    if missing = 0 then
      if c = '%' then none
      else if allowed c then tagText allowed (.ofNat c.toNat :: before) 0 rest
      else some (before.reverse, c :: rest)
    else none
  | [] => if missing = 0 then some (before.reverse, []) else none

/-- Reads the name of a tag, of which `head` was read already.  It must not be empty. -/
def tagName (allowed : Char → Bool) (head : List UInt8) (s : List Char) :
    Option (List UInt8 × List Char) := do
  let (name, rest) ← tagText allowed head.reverse 0 s
  return (name.takeWhile (· ≠ 0), rest)

/-- Reads a name that has to consist of at least one character. -/
def nonemptyTagName (allowed : Char → Bool) (s : List Char) : Option (List UInt8 × List Char) := do
  let (name, rest) ← tagName allowed [] s
  if rest.length = s.length then none else some (name, rest)

/-- Reads the characters of a handle after its exclamation mark, and a second mark if it has one. -/
def handle (s : List Char) : List Char × List Char :=
  match s.dropWhile isNameChar with
  | '!' :: rest => ('!' :: s.takeWhile isNameChar ++ ['!'], rest)
  | rest => ('!' :: s.takeWhile isNameChar, rest)

/-- Reads a tag after its exclamation mark. -/
def tagAfterMark (s : List Char) : Option (TagName × List Char) :=
  match s with
  | '<' :: s => do
    let (suffix, rest) ← nonemptyTagName isFullTagChar s
    match rest with
    | '>' :: rest => return (⟨[], suffix⟩, rest)
    | _ => none
  | s =>
    let (text, rest) := handle s
    if text.length > 1 ∧ text.getLast? = some '!' then do
      let (suffix, rest) ← nonemptyTagName isTagChar rest
      return (⟨asciiBytes text, suffix⟩, rest)
    else do
      let (suffix, rest) ← tagName isTagChar (asciiBytes (text.drop 1)) rest
      let mark := asciiBytes ['!']
      return (if suffix = [] then ⟨[], mark⟩ else ⟨mark, suffix⟩, rest)

/-- Reads a tag after its exclamation mark; a gap has to follow, or a comma in flow style. -/
def tag (inFlow : Bool) (s : List Char) : Option (TagName × List Char) := do
  let (name, rest) ← tagAfterMark s
  if atGap rest || (inFlow && rest.head? == some ',') then return (name, rest) else none

/-- Reads a number of at most nine digits. -/
def versionNumber (s : List Char) : Option (Nat × List Char) :=
  let digits := s.takeWhile Char.isDigit
  if digits = [] ∨ digits.length > 9 then none
  else some (Json.natOfDigits digits, s.dropWhile Char.isDigit)

/-- Reads the version of the language. -/
def versionDirective (s : List Char) : Option (Token × List Char) := do
  let (major, rest) ← versionNumber (s.dropWhile isBlank)
  match rest with
  | '.' :: rest =>
    let (minor, rest) ← versionNumber rest
    return (.version major minor, rest)
  | _ => none

/-- Reads a handle and what it stands for, with gaps before, between and after them. -/
def handleDirective (s : List Char) : Option (Token × List Char) :=
  match s.dropWhile isBlank with
  | '!' :: s =>
    let (text, rest) := handle s
    if text.length > 1 ∧ text.getLast? ≠ some '!' then none
    else if !(rest.head?.any isBlank) then none
    else do
      let (name, rest) ← nonemptyTagName isFullTagChar (rest.dropWhile isBlank)
      if atGap rest then return (.tagHandle (asciiBytes text) name, rest) else none
  | _ => none

/-- Reads a directive after its percent sign, up to the end of its line. -/
def directive (s : List Char) : Option (Token × List Char) := do
  let name := String.ofList (s.takeWhile isNameChar)
  let rest := s.dropWhile isNameChar
  if !atGap rest then none
  else
    let (token, rest) ← match name with
      | "YAML" => versionDirective rest
      | "TAG" => handleDirective rest
      | _ => none
    return (token, ← nextLine? rest)

end PluginFacts.Yaml
