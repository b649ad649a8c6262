/-
# Reading JSON text

The grammar is that of the standard, without extensions: no comma before a closing bracket, no
leading zero, no unescaped control character, and nothing but blanks after the value.

Each reading function is given a bound on the number of characters that are left and hands a
smaller one to what it calls, so a bound that has run out means that the text has.
-/
import PluginFacts.Json.Basic

namespace PluginFacts.Json

/-- Whether a character may stand between the symbols of a JSON text. -/
def isBlank (c : Char) : Bool :=
  c = ' ' || c = '\n' || c = '\t' || c = '\r'

/-- The value of a hexadecimal digit. -/
def hexDigit? (c : Char) : Option Nat :=
  if '0' ≤ c ∧ c ≤ '9' then some (c.toNat - '0'.toNat)
  else if 'a' ≤ c ∧ c ≤ 'f' then some (c.toNat - 'a'.toNat + 10)
  else if 'A' ≤ c ∧ c ≤ 'F' then some (c.toNat - 'A'.toNat + 10)
  else none

/-- The number that four hexadecimal digits spell. -/
def hex4? (a b c d : Char) : Option Nat := do
  return (((← hexDigit? a) * 16 + (← hexDigit? b)) * 16 + (← hexDigit? c)) * 16 + (← hexDigit? d)

/-- The character that a letter stands for after a backslash. -/
def unescape? : Char → Option Char
  | '"' => some '"'
  | '\\' => some '\\'
  | '/' => some '/'
  | 'b' => some '\x08'
  | 'f' => some '\x0c'
  | 'n' => some '\n'
  | 'r' => some '\r'
  | 't' => some '\t'
  | _ => none

/-- The first half of a surrogate pair. -/
def isLeading (code : Nat) : Bool := 0xD800 ≤ code && code < 0xDC00

/-- The second half of a surrogate pair. -/
def isTrailing (code : Nat) : Bool := 0xDC00 ≤ code && code < 0xE000

/-- A piece of a string as it is written. -/
inductive Piece where
  /-- A character. -/
  | char (c : Char)
  /-- A number of sixteen bits, which may be half of a surrogate pair. -/
  | unit (code : Nat)

/-- Reads a string after its opening quote, given the pieces before in reverse order, and gives
its pieces and what follows the closing quote. -/
def pieces (before : List Piece) : List Char → Option (List Piece × List Char)
  | '"' :: rest => some (before.reverse, rest)
  | '\\' :: 'u' :: a :: b :: c :: d :: rest => do
    let code ← hex4? a b c d
    pieces (.unit code :: before) rest
  | '\\' :: c :: rest => do
    let c ← unescape? c
    pieces (.char c :: before) rest
  | c :: rest => if c < ' ' then none else pieces (.char c :: before) rest
  | [] => none

/-- The characters that pieces spell, unless half of a surrogate pair stands alone. -/
def joined? : List Piece → Option (List Char)
  | [] => some []
  | .char c :: rest => (c :: ·) <$> joined? rest
  | .unit a :: .unit b :: rest =>
    if isLeading a && isTrailing b then
      (Char.ofNat (0x10000 + (a - 0xD800) * 0x400 + (b - 0xDC00)) :: ·) <$> joined? rest
    else if isLeading a || isTrailing a then none
    else (Char.ofNat a :: ·) <$> joined? (.unit b :: rest)
  | .unit a :: rest =>
    if isLeading a || isTrailing a then none else (Char.ofNat a :: ·) <$> joined? rest

/-- Reads a string after its opening quote and gives its text, if it has one, and what follows the
closing quote. -/
def stringTail (s : List Char) : Option (Option String × List Char) :=
  (pieces [] s).map fun (l, rest) => ((joined? l).map String.ofList, rest)

/-- Splits off the digits at the start. -/
def splitDigits (s : List Char) : List Char × List Char :=
  s.span Char.isDigit

/-- Reads the fraction of a number, if there is one. -/
def fraction : List Char → Option (List Char × List Char)
  | '.' :: rest =>
    match splitDigits rest with
    | ([], _) => none
    | (digits, rest) => some ('.' :: digits, rest)
  | s => some ([], s)

/-- Reads the digits of an exponent. -/
def exponentDigits (spelt rest : List Char) : Option (List Char × List Char) :=
  match splitDigits rest with
  | ([], _) => none
  | (digits, rest) => some (spelt ++ digits, rest)

/-- Reads the exponent of a number, if there is one. -/
def exponent : List Char → Option (List Char × List Char)
  | e :: sign :: rest =>
    if e = 'e' ∨ e = 'E' then
      if sign = '+' ∨ sign = '-' then exponentDigits [e, sign] rest
      else exponentDigits [e] (sign :: rest)
    else some ([], e :: sign :: rest)
  | [e] => if e = 'e' ∨ e = 'E' then none else some ([], [e])
  | [] => some ([], [])

/-- The natural number that decimal digits spell. -/
def natOfDigits (digits : List Char) : Nat :=
  digits.foldl (fun n c => n * 10 + (c.toNat - '0'.toNat)) 0

/-- Reads a number after its sign. -/
def unsigned (sign : List Char) (s : List Char) : Option (Json × List Char) := do
  let (whole, rest) := splitDigits s
  if whole = [] ∨ (whole.length > 1 ∧ whole.head? = some '0') then none
  else
    let (frac, rest) ← fraction rest
    let (exp, rest) ← exponent rest
    if sign = [] ∧ frac = [] ∧ exp = [] then return (nat (natOfDigits whole), rest)
    else return (number (String.ofList (sign ++ whole ++ frac ++ exp)), rest)

/-- Reads a value that is no object, array or string. -/
def scalar : List Char → Option (Json × List Char)
  | 'n' :: 'u' :: 'l' :: 'l' :: rest => some (null, rest)
  | 't' :: 'r' :: 'u' :: 'e' :: rest => some (bool true, rest)
  | 'f' :: 'a' :: 'l' :: 's' :: 'e' :: rest => some (bool false, rest)
  | '-' :: rest => unsigned ['-'] rest
  | s => unsigned [] s

/-- The object with these fields, or the value without text if a key has none. -/
def ofFields (fields : List (Option String × Json)) : Json :=
  match fields.mapM fun f => f.1.map (·, f.2) with
  | some fields => obj fields
  | none => illFormed

mutual

/-- Reads a value. -/
def value : Nat → List Char → Option (Json × List Char)
  | 0, _ => none
  | n + 1, s =>
    match s.dropWhile isBlank with
    | '\x7b' :: rest =>
      match rest.dropWhile isBlank with
      | '\x7d' :: rest => some (obj [], rest)
      | rest => (fields n rest).map fun (fields, rest) => (ofFields fields, rest)
    | '[' :: rest =>
      match rest.dropWhile isBlank with
      | ']' :: rest => some (arr [], rest)
      | rest => (elements n rest).map fun (elements, rest) => (arr elements, rest)
    | '"' :: rest => (stringTail rest).map fun (s, rest) => (s.elim illFormed str, rest)
    | s => scalar s

/-- Reads the elements of an array up to and including the closing bracket. -/
def elements : Nat → List Char → Option (List Json × List Char)
  | 0, _ => none
  | n + 1, s => do
    let (v, rest) ← value n s
    match rest.dropWhile isBlank with
    | ',' :: rest =>
      let (vs, rest) ← elements n rest
      return (v :: vs, rest)
    | ']' :: rest => return ([v], rest)
    | _ => none

/-- Reads the fields of an object up to and including the closing brace. -/
def fields : Nat → List Char → Option (List (Option String × Json) × List Char)
  | 0, _ => none
  | n + 1, s =>
    match s.dropWhile isBlank with
    | '"' :: rest => do
      let (key, rest) ← stringTail rest
      match rest.dropWhile isBlank with
      | ':' :: rest =>
        let (v, rest) ← value n rest
        match rest.dropWhile isBlank with
        | ',' :: rest =>
          let (fs, rest) ← fields n rest
          return ((key, v) :: fs, rest)
        | '\x7d' :: rest => return ([(key, v)], rest)
        | _ => none
      | _ => none
    | _ => none

end

/-- The value that a text spells. -/
def parse? (text : String) : Option Json :=
  let s := text.toList
  match value s.length s with
  | some (v, rest) => if rest.all isBlank then some v else none
  | none => none

end PluginFacts.Json
