/-
# Inputs

An input is the content of one file that should hold a compiled class, with a label that says where
it came from.  Reading an input gives the class it declares or says why it was refused.
-/
import PluginFacts.ClassFile.Basic
import PluginFacts.Files.Error

namespace PluginFacts

/-- A file that should hold a compiled class. -/
structure ClassInput where
  /-- Where the bytes came from. -/
  origin : String
  /-- The content. -/
  bytes : List UInt8
deriving DecidableEq, Repr

/-- Why an input was refused. -/
inductive Rejection where
  /-- The bytes are no class file. -/
  | notClassFile (fault : ClassFile.Fault)
  /-- The file is larger than the limit, both in bytes. -/
  | tooLarge (size limit : Nat)
  /-- The size of the file at a path cannot be found out. -/
  | unmeasured (path : String) (e : FileError)
  /-- The file at a path cannot be read. -/
  | unreadable (path : String) (e : FileError)
deriving DecidableEq, Repr

/-- The wording of a rejection. -/
def Rejection.message : Rejection → String
  | notClassFile fault => fault.message
  | tooLarge size limit => s!"File too large: {size} bytes exceeds limit of {limit} bytes"
  | unmeasured path e => s!"Failed to stat {path}: {e.message}"
  | unreadable path e => s!"Failed to read {path}: {e.message}"

/-- An input that was refused. -/
structure Malformed where
  /-- Where the input came from. -/
  origin : String
  /-- Why it was refused. -/
  cause : Rejection
deriving DecidableEq, Repr

/-- The wording of the report on a refused input. -/
def Malformed.message (m : Malformed) : String :=
  s!"malformed class {m.origin}: {m.cause.message}"

/-- The class that an input declares. -/
def ClassInput.read (i : ClassInput) : Except Malformed Class :=
  match ClassFile.decode i.bytes with
  | .ok f => .ok (f.toClass i.origin)
  | .error fault => .error ⟨i.origin, .notClassFile fault⟩

end PluginFacts
