/-
# Values from YAML

What a node means depends on what is asked for: any scalar is a text, a list or mapping may be left
empty, and a value that may be missing is missing where the node is null.  Aliases are followed
wherever they stand; since a short text can refer to the same nodes very often, the number of times
is limited by the size of the document.
-/
import PluginFacts.Text.Utf8
import PluginFacts.Yaml.Document

namespace PluginFacts.Yaml

/-- What aliases stand for. -/
structure Aliases where
  /-- The nodes with anchors, the last one first. -/
  nodes : List (Nat × Node Nat)
  /-- How many aliases may be followed. -/
  limit : Nat

/-- A step that takes a value from a node; it counts the aliases that are followed. -/
abbrev Decode := ReaderT Aliases (StateT Nat Option)

namespace Decode

variable {α : Type}

/-- Takes a value from the outermost node of a document. -/
def run? (d : Node Nat → Decode α) (root : Node Nat) : Option α :=
  let aliases := { nodes := root.anchored.reverse, limit := 100 * root.weight }
  ((d root).run aliases).run' 0

/-- The node that an alias stands for, or the node itself if it is no alias. -/
def target : Node Nat → Decode (Node Nat)
  | .reference id => do
    let followed ← get
    let aliases ← read
    if followed < aliases.limit then
      set (followed + 1)
      match aliases.nodes.lookup id with
      | some n => return n
      | none => failure
    else failure
  | n => return n

/-- The text of a scalar. -/
def text (n : Node Nat) : Decode String := do
  match ← target n with
  | .scalar _ _ s => return s
  | _ => failure

/-- The elements of a list. -/
def list (read : Node Nat → Decode α) (n : Node Nat) : Decode (List α) := do
  match ← target n with
  | .seq _ ns => ns.mapM read
  | .scalar _ true "" => return []
  | _ => failure

/-- The entries of a mapping. -/
def entries (n : Node Nat) : Decode (List (Node Nat × Node Nat)) := do
  match ← target n with
  | .map _ es => return es
  | .scalar _ true "" => return []
  | _ => failure

/-- Whether a text spells null. -/
def isNull (s : String) : Bool :=
  s == "null" || s == "Null" || s == "NULL" || s == "~"

/-- The tag of null. -/
def nullTag : List UInt8 :=
  asciiBytes "tag:yaml.org,2002:null".toList

/-- A value that may be missing.  It is missing where a scalar without quotes is empty or spells
null, but a tag decides first: any other than that of null says that there is a value, and under
that of null the text has to spell it. -/
def option (read : Node Nat → Decode α) (n : Node Nat) : Decode (Option α) := do
  match ← target n with
  | .scalar p true s =>
    let missing ← match p.tag with
      | some t => if t = nullTag then if isNull s then pure true else failure else pure false
      | none => pure (s.isEmpty || isNull s)
    if missing then return none else some <$> read (.scalar p true s)
  | n => some <$> read n

/-- The name that a tag gives: what follows its exclamation mark, if there is anything. -/
def tagName? (p : Properties Nat) : Option String :=
  match p.tag with
  | some (0x21 :: name) => Text.Utf8.decode? (if name = [] then [0x21] else name)
  | _ => none

/-- One of the names that `ofName?` knows, as the text of a scalar or as the tag of an empty one. -/
def name (ofName? : String → Option α) (n : Node Nat) : Decode α := do
  match ← target n with
  | .scalar p plain s =>
    let known ← match tagName? p with
      | some t => if plain && (s.isEmpty || isNull s) then pure (ofName? t) else failure
      | none => pure (ofName? s)
    match known with
    | some a => return a
    | none => failure
  | _ => failure

/-- The parts of a record, by name. -/
abbrev Record := List (String × Node Nat)

/-- The parts of a record, where `part?` gives the part that a key stands for.  Other keys are
passed over, but no part may occur twice. -/
def record (part? : String → Option String) (n : Node Nat) : Decode Record := do
  let named ← (← entries n).mapM fun e => do return (part? (← text e.1), e.2)
  let parts := named.filterMap fun e => e.1.map (·, e.2)
  if (parts.map Prod.fst).Nodup then return parts else failure

/-- A part that has to be present. -/
def Record.required (r : Record) (key : String) (read : Node Nat → Decode α) : Decode α :=
  match r.lookup key with
  | some n => read n
  | none => failure

/-- A part that has a default. -/
def Record.defaulted (r : Record) (key : String) (read : Node Nat → Decode α) (d : α) : Decode α :=
  match r.lookup key with
  | some n => read n
  | none => return d

end Decode

end PluginFacts.Yaml
