/-
# The characters of a YAML text

A YAML text consists of printable characters.  Lines end in a line feed, a carriage return, both
together or a next-line character; these are one kind of line break, while the line and paragraph
separators end a line but are text of their own.
-/

namespace PluginFacts.Yaml

/-- Whether a character may occur in a YAML text. -/
def isAllowed (c : Char) : Bool :=
  c = '\t' || c = '\n' || c = '\r' || (' ' ≤ c && c ≤ '~') || c = '\u0085' ||
    ('\u00a0' ≤ c && c ≤ '\ud7ff') || ('\ue000' ≤ c && c ≤ '\ufffd') || 0x10000 ≤ c.toNat

/-- The text with every line break of the first kind written as a line feed. -/
def withLineFeeds : List Char → List Char
  | '\r' :: '\n' :: rest => '\n' :: withLineFeeds rest
  | '\r' :: rest => '\n' :: withLineFeeds rest
  | '\u0085' :: rest => '\n' :: withLineFeeds rest
  | c :: rest => c :: withLineFeeds rest
  | [] => []

/-- Whether a character ends a line, once line breaks are line feeds. -/
def isBreak (c : Char) : Bool :=
  c = '\n' || c = '\u2028' || c = '\u2029'

/-- Whether a character is a blank or tab. -/
def isBlank (c : Char) : Bool :=
  c = ' ' || c = '\t'

/-- Whether a character is neither a blank, a tab nor the end of a line. -/
def isDark (c : Char) : Bool :=
  !isBlank c && !isBreak c

/-- The text that follows is at an end, a blank, a tab or the end of a line. -/
def atGap : List Char → Bool
  | [] => true
  | c :: _ => !isDark c

/-- Whether a character may occur in the name of an anchor, directive or tag handle. -/
def isNameChar (c : Char) : Bool :=
  c.isAlphanum || c = '_' || c = '-'

/-- A line that starts like this marks the start of a document. -/
def atDocumentStart : List Char → Bool
  | '-' :: '-' :: '-' :: rest => atGap rest
  | _ => false

/-- A line that starts like this marks the end of a document. -/
def atDocumentEnd : List Char → Bool
  | '.' :: '.' :: '.' :: rest => atGap rest
  | _ => false

/-- What follows the blanks and the comment at the end of a line. -/
def afterComment (s : List Char) : List Char :=
  match s.dropWhile isBlank with
  | '#' :: rest => rest.dropWhile fun c => !isBreak c
  | rest => rest

/-- What follows the blanks and the comment at the end of a line and the end of the line itself,
unless there is something else on the line. -/
def nextLine? (s : List Char) : Option (List Char) :=
  match afterComment s with
  | [] => some []
  | c :: rest => if isBreak c then some rest else none

end PluginFacts.Yaml
