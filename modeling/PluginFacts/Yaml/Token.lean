/-
# Tokens of YAML

A YAML text is read as a list of tokens.  Besides what is written, some tokens stand for what is
only visible in the layout: where a block collection starts and ends, and that a node is a key.
-/

namespace PluginFacts.Yaml

/-- The name of a tag as it is written. -/
structure TagName where
  /-- The handle that stands for the first part, with its exclamation marks; none if the name is
  written out. -/
  handle : List UInt8
  /-- The rest of the name. -/
  suffix : List UInt8
deriving DecidableEq, Repr

/-- A token. -/
inductive Token where
  /-- The version of the language. -/
  | version (major minor : Nat)
  /-- What the handle of a tag stands for. -/
  | tagHandle (handle prefixed : List UInt8)
  /-- The mark of the start of a document. -/
  | documentStart
  /-- The mark of the end of a document. -/
  | documentEnd
  /-- The start of a list in block style. -/
  | blockSeqStart
  /-- The start of a mapping in block style. -/
  | blockMapStart
  /-- The end of a collection in block style. -/
  | blockEnd
  /-- An opening square bracket. -/
  | flowSeqStart
  /-- A closing square bracket. -/
  | flowSeqEnd
  /-- An opening curly bracket. -/
  | flowMapStart
  /-- A closing curly bracket. -/
  | flowMapEnd
  /-- The dash before an element of a list in block style. -/
  | blockEntry
  /-- The comma between elements in flow style. -/
  | flowEntry
  /-- A key follows. -/
  | key
  /-- A value follows. -/
  | value
  /-- A reference to a node. -/
  | reference (name : String)
  /-- The name by which a node is referred to. -/
  | anchor (name : String)
  /-- The tag of a node. -/
  | tag (name : TagName)
  /-- A scalar, and whether it is written without quotes and as part of a line. -/
  | scalar (plain : Bool) (text : String)
deriving DecidableEq, Repr

end PluginFacts.Yaml
