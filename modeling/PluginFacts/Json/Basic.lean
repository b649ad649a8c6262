/-
# JSON values and their text

A JSON value keeps the order of the fields of an object.  Two constructors exist for the sake of
reading alone: a number that is not written as a plain natural number keeps its spelling, and a
string or key whose escapes name half of a surrogate pair has the syntax of a string but no text.

`Json.render` writes a value, either on one line or with one element to a line and two blanks for
each level.
-/
import PluginFacts.Text.Quoted

namespace PluginFacts

/-- A JSON value. -/
inductive Json where
  /-- The null value. -/
  | null
  /-- A truth value. -/
  | bool (b : Bool)
  /-- A natural number. -/
  | nat (n : Nat)
  /-- A number with a sign, a fraction or an exponent, by its spelling. -/
  | number (literal : String)
  /-- A string. -/
  | str (s : String)
  /-- A string, or an object with a key, that has no text. -/
  | illFormed
  /-- An array. -/
  | arr (elements : List Json)
  /-- An object, by its fields in order. -/
  | obj (fields : List (String × Json))

namespace Json

/-- How the elements of a value are set out. -/
inductive Layout where
  /-- On one line, without blanks. -/
  | compact
  /-- One to a line, at a depth of nesting. -/
  | indented (depth : Nat)
deriving DecidableEq, Repr

namespace Layout

/-- The layout of the elements inside. -/
def inner : Layout → Layout
  | compact => compact
  | indented depth => indented (depth + 1)

/-- What stands before an element, and before the bracket that closes a value. -/
def lineBreak : Layout → String
  | compact => ""
  | indented depth => String.ofList ('\n' :: List.replicate (2 * depth) ' ')

/-- What stands between a key and its value. -/
def colon : Layout → String
  | compact => ":"
  | indented _ => ": "

end Layout

/-- The spelling of a character inside a string. -/
def escape (c : Char) : String :=
  if c = '"' then "\\\""
  else if c = '\\' then "\\\\"
  else if c = '\x08' then "\\b"
  else if c = '\t' then "\\t"
  else if c = '\n' then "\\n"
  else if c = '\x0c' then "\\f"
  else if c = '\r' then "\\r"
  else if c < ' ' then "\\u" ++ Text.hexPadded 4 c.toNat
  else c.toString

/-- The text of a string. -/
def renderString (s : String) : String :=
  "\"" ++ String.join (s.toList.map escape) ++ "\""

mutual

/-- The text of a value. -/
def render (layout : Layout) : Json → String
  | null => "null"
  | bool true => "true"
  | bool false => "false"
  | nat n => toString n
  | number literal => literal
  | str s => renderString s
  | illFormed => "\"\""
  | arr [] => "[]"
  | arr (v :: vs) =>
    "[" ++ layout.inner.lineBreak ++ render layout.inner v ++ renderElements layout.inner vs
      ++ layout.lineBreak ++ "]"
  | obj [] => "\x7b\x7d"
  | obj ((key, v) :: fields) =>
    "\x7b" ++ layout.inner.lineBreak ++ renderString key ++ layout.inner.colon
      ++ render layout.inner v ++ renderFields layout.inner fields ++ layout.lineBreak ++ "\x7d"

/-- The text of the elements after the first. -/
def renderElements (layout : Layout) : List Json → String
  | [] => ""
  | v :: vs => "," ++ layout.lineBreak ++ render layout v ++ renderElements layout vs

/-- The text of the fields after the first. -/
def renderFields (layout : Layout) : List (String × Json) → String
  | [] => ""
  | (key, v) :: fields =>
    "," ++ layout.lineBreak ++ renderString key ++ layout.colon ++ render layout v
      ++ renderFields layout fields

end

/-- The text of a value with one element to a line. -/
def pretty (v : Json) : String :=
  v.render (.indented 0)

/-- A list of strings. -/
def strings (l : List String) : Json :=
  arr (l.map str)

/-- A string, or null for none. -/
def strOrNull (s : Option String) : Json :=
  s.elim null str

/-- A field that is written only when there is a value. -/
def optField (key : String) (v : Option Json) : List (String × Json) :=
  v.toList.map (key, ·)

end Json

end PluginFacts
