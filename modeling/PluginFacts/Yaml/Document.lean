/-
# Documents of YAML

A document is put together from its tokens.  Where a node is expected and the token that follows
cannot start one, an empty scalar stands for it.

The reading functions take a bound, of which every call passes on one less.  Of three calls inside
one another at least one takes a token, so three times the number of tokens is enough.
-/
import PluginFacts.Yaml.Lexer
import PluginFacts.Yaml.Node

namespace PluginFacts.Yaml

/-- What the handles of tags stand for. -/
abbrev Handles := List (List UInt8 × List UInt8)

namespace Handles

/-- What the usual handles stand for, unless a document says otherwise. -/
def default : Handles :=
  [(asciiBytes ['!'], asciiBytes ['!']),
   (asciiBytes ['!', '!'], asciiBytes "tag:yaml.org,2002:".toList)]

/-- The full name of a tag. -/
def expand (handles : Handles) (name : TagName) : Option (List UInt8) :=
  if name.handle = [] then some name.suffix
  else (handles.lookup name.handle).map (· ++ name.suffix)

end Handles

namespace Document

/-- A node with the tokens after it. -/
abbrev Reading := Option (Node String × List Token)

/-- Reads the anchor and the tag before a node, in any order. -/
def properties (handles : Handles) : List Token → Option (Properties String × List Token)
  | .anchor a :: .tag t :: rest => do return ({ anchor := some a, tag := ← handles.expand t }, rest)
  | .tag t :: .anchor a :: rest => do return ({ anchor := some a, tag := ← handles.expand t }, rest)
  | .anchor a :: rest => some ({ anchor := some a }, rest)
  | .tag t :: rest => do return ({ tag := ← handles.expand t }, rest)
  | rest => some ({}, rest)

/-- Where a node stands, which decides how it may start. -/
inductive Context where
  /-- Between brackets. -/
  | flow
  /-- In a list or at the start of a document. -/
  | block
  /-- In a mapping, where a list need not be indented. -/
  | entry
deriving DecidableEq

/-- Whether the next token is one of those in a list. -/
def nextIn (stop : List Token) : List Token → Bool
  | [] => false
  | t :: _ => stop.contains t

mutual

/-- Reads a node. -/
def node (handles : Handles) (context : Context) : Nat → List Token → Reading
  | 0, _ => none
  | _ + 1, .reference name :: rest => some (.reference name, rest)
  | bound + 1, tokens => do
    let (p, rest) ← properties handles tokens
    match rest, context with
    | .blockEntry :: _, .entry => do
      let (elements, rest) ← unindented handles bound rest
      return (.seq p elements, rest)
    | .scalar plain text :: rest, _ => return (.scalar p plain text, rest)
    | .flowSeqStart :: rest, _ => do
      let (elements, rest) ← flowSeq handles bound true rest
      return (.seq p elements, rest)
    | .flowMapStart :: rest, _ => do
      let (entries, rest) ← flowMap handles bound true rest
      return (.map p entries, rest)
    | .blockSeqStart :: rest, .block | .blockSeqStart :: rest, .entry => do
      let (elements, rest) ← blockSeq handles bound rest
      return (.seq p elements, rest)
    | .blockMapStart :: rest, .block | .blockMapStart :: rest, .entry => do
      let (entries, rest) ← blockMap handles bound rest
      return (.map p entries, rest)
    | rest, _ => if rest.length < tokens.length then return (.empty p, rest) else none

/-- Reads a node, or an empty one before one of the tokens in `stop`. -/
def nodeUnless (handles : Handles) (context : Context) (stop : List Token) :
    Nat → List Token → Reading
  | 0, _ => none
  | bound + 1, tokens =>
    if nextIn stop tokens then some (.empty {}, tokens) else node handles context bound tokens

/-- Reads the value after a key, or an empty one if there is none. -/
def valueUnless (handles : Handles) (context : Context) (stop : List Token) :
    Nat → List Token → Reading
  | 0, _ => none
  | bound + 1, .value :: rest => nodeUnless handles context stop bound rest
  | _ + 1, rest => some (.empty {}, rest)

/-- Reads the elements of an indented list. -/
def blockSeq (handles : Handles) : Nat → List Token → Option (List (Node String) × List Token)
  | bound + 1, .blockEntry :: rest => do
    let (n, rest) ← nodeUnless handles .block [.blockEntry, .blockEnd] bound rest
    let (ns, rest) ← blockSeq handles bound rest
    return (n :: ns, rest)
  | _ + 1, .blockEnd :: rest => some ([], rest)
  | _, _ => none

/-- Reads the elements of a list that is not indented. -/
def unindented (handles : Handles) : Nat → List Token → Option (List (Node String) × List Token)
  | 0, _ => none
  | bound + 1, .blockEntry :: rest => do
    let (n, rest) ← nodeUnless handles .block [.blockEntry, .key, .value, .blockEnd] bound rest
    let (ns, rest) ← unindented handles bound rest
    return (n :: ns, rest)
  | _ + 1, rest => some ([], rest)

/-- Reads the entries of a mapping in block style. -/
def blockMap (handles : Handles) :
    Nat → List Token → Option (List (Node String × Node String) × List Token)
  | bound + 1, .key :: rest => do
    let stop := [.key, .value, .blockEnd]
    let (k, rest) ← nodeUnless handles .entry stop bound rest
    let (v, rest) ← valueUnless handles .entry stop bound rest
    let (es, rest) ← blockMap handles bound rest
    return ((k, v) :: es, rest)
  | _ + 1, .blockEnd :: rest => some ([], rest)
  | _, _ => none

/-- Reads the elements of a list in flow style, with a comma before each of them but the first. -/
def flowSeq (handles : Handles) :
    Nat → (first : Bool) → List Token → Option (List (Node String) × List Token)
  | 0, _, _ => none
  | _ + 1, _, .flowSeqEnd :: rest => some ([], rest)
  | _ + 1, false, .flowEntry :: .flowSeqEnd :: rest => some ([], rest)
  | bound + 1, false, .flowEntry :: rest => flowElement handles bound rest
  | bound + 1, true, rest => flowElement handles bound rest
  | _ + 1, false, _ => none

/-- Reads an element of a list in flow style and the elements after it. -/
def flowElement (handles : Handles) : Nat → List Token → Option (List (Node String) × List Token)
  | 0, _ => none
  | bound + 1, .key :: rest => do
    let (e, rest) ← pair handles bound rest
    let (ns, rest) ← flowSeq handles bound false rest
    return (.map {} [e] :: ns, rest)
  | bound + 1, rest => do
    let (n, rest) ← node handles .flow bound rest
    let (ns, rest) ← flowSeq handles bound false rest
    return (n :: ns, rest)

/-- Reads a key with its value as an element of a list.  Where the key is empty, the token that
shows this is passed over. -/
def pair (handles : Handles) :
    Nat → List Token → Option ((Node String × Node String) × List Token)
  | 0, _ => none
  | bound + 1, tokens => do
    let (k, rest) ←
      if nextIn [.value, .flowEntry, .flowSeqEnd] tokens then some (.empty {}, tokens.drop 1)
      else node handles .flow bound tokens
    let (v, rest) ← valueUnless handles .flow [.flowEntry, .flowSeqEnd] bound rest
    return ((k, v), rest)

/-- Reads the entries of a mapping in flow style, with a comma before each of them but the first. -/
def flowMap (handles : Handles) :
    Nat → (first : Bool) → List Token → Option (List (Node String × Node String) × List Token)
  | 0, _, _ => none
  | _ + 1, _, .flowMapEnd :: rest => some ([], rest)
  | _ + 1, false, .flowEntry :: .flowMapEnd :: rest => some ([], rest)
  | bound + 1, false, .flowEntry :: rest => flowItem handles bound rest
  | bound + 1, true, rest => flowItem handles bound rest
  | _ + 1, false, _ => none

/-- Reads an entry of a mapping in flow style and the entries after it. -/
def flowItem (handles : Handles) :
    Nat → List Token → Option (List (Node String × Node String) × List Token)
  | 0, _ => none
  | bound + 1, .key :: rest => do
    let (k, rest) ← nodeUnless handles .flow [.value, .flowEntry, .flowMapEnd] bound rest
    let (v, rest) ← valueUnless handles .flow [.flowEntry, .flowMapEnd] bound rest
    let (es, rest) ← flowMap handles bound false rest
    return ((k, v) :: es, rest)
  | bound + 1, rest => do
    let (k, rest) ← node handles .flow bound rest
    let (es, rest) ← flowMap handles bound false rest
    return ((k, .empty {}) :: es, rest)

end

/-- Reads the directives before a document: at most one version, and each handle once. -/
def directives (version : Bool) (handles : Handles) : List Token → Option (Handles × List Token)
  | .version major minor :: rest =>
    if version || major != 1 || (minor != 1 && minor != 2) then none
    else directives true handles rest
  | .tagHandle handle text :: rest =>
    if (handles.lookup handle).isSome then none
    else directives version (handles ++ [(handle, text)]) rest
  | rest => some (handles, rest)

/-- Reads the content of a document after its mark, which may be empty. -/
def content (handles : Handles) (bound : Nat) (tokens : List Token) : Reading :=
  match tokens with
  | [] | .version _ _ :: _ | .tagHandle _ _ :: _ | .documentStart :: _ | .documentEnd :: _ =>
    some (.empty {}, tokens)
  | tokens => node handles .block bound tokens

/-- Reads a document.  The mark at its start is required after directives only. -/
def document (bound : Nat) (tokens : List Token) : Reading := do
  let (handles, rest) ← directives false [] tokens
  match rest with
  | .documentStart :: rest => content (handles ++ .default) bound rest
  | rest => if rest.length < tokens.length then none else node .default .block bound rest

/-- The outermost node of the document that a text holds, which is an empty scalar if there is no
document; there must not be several. -/
def ofText? (text : String) : Option (Node Nat) := do
  let tokens ← tokens? text
  if tokens.isEmpty then return .empty {}
  else
    let (n, rest) ← document (3 * tokens.length + 3) tokens
    if rest.all (· == .documentEnd) then return (← n.resolve []).2 else none

end Document

end PluginFacts.Yaml
