/-
# Styled text

A terminal shows text in a colour between an escape sequence that switches the colour on and one
that resets it.  A reset that the text itself contains switches the colour off too early, so the
colour is switched on again after it.
-/

namespace PluginFacts

/-- Whether text is coloured. -/
inductive Palette where
  /-- No colours. -/
  | plain
  /-- The colours of a terminal. -/
  | colored
deriving DecidableEq, Repr

/-- The palette that the environment asks for: `force` and `forbid` decide if they are set, and
otherwise there are colours on a terminal unless `allow` is zero. -/
def Palette.ofEnvironment (force forbid allow : Option String) (isTerminal : Bool) : Palette :=
  if force.any (· ≠ "0") then .colored
  else if forbid.isSome then .plain
  else if isTerminal && allow.all (· ≠ "0") then .colored
  else .plain

/-- How a part of a text stands out. -/
inductive Style where
  | brightWhite | boldBrightWhite | boldBrightRed | brightRed | brightGreen | brightYellow
  | yellow | cyan | dim
deriving DecidableEq, Repr

namespace Style

/-- The numbers of the escape sequence for a style. -/
def code : Style → String
  | brightWhite => "97"
  | boldBrightWhite => "1;97"
  | boldBrightRed => "1;91"
  | brightRed => "91"
  | brightGreen => "92"
  | brightYellow => "93"
  | yellow => "33"
  | cyan => "36"
  | dim => "2"

/-- The sequence that switches a style on. -/
def on (s : Style) : String := "\x1b[" ++ s.code ++ "m"

/-- The sequence that switches every style off. -/
def reset : String := "\x1b[0m"

/-- A text in which the characters `again` follow each reset. -/
def resume (again : List Char) : List Char → List Char
  | '\x1b' :: '[' :: '0' :: 'm' :: rest => reset.toList ++ again ++ resume again rest
  | c :: rest => c :: resume again rest
  | [] => []

/-- A text in a style. -/
def paint (s : Style) (p : Palette) (text : String) : String :=
  match p with
  | .plain => text
  | .colored => s.on ++ String.ofList (resume s.on.toList text.toList) ++ reset

end Style

end PluginFacts
