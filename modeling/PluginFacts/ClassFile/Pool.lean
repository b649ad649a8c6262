/-
# The constant pool

The pool is a table of slots that the rest of the file refers to by index.  Only texts and class
references matter here; of all other constants only the size is looked at.  Index `0` is never
used, and a constant of eight bytes takes two indices, the second of which refers to nothing.
-/
import PluginFacts.ClassFile.Cursor
import PluginFacts.Text.Utf8

namespace PluginFacts.ClassFile

/-- What an index of the constant pool refers to. -/
inductive Slot where
  /-- Nothing: index `0`, and the second index of a wide constant. -/
  | unused
  /-- A text. -/
  | text (s : String)
  /-- A class, by the index of its name. -/
  | classRef (name : Nat)
  /-- Any other constant. -/
  | other
deriving DecidableEq, Repr

/-- The slots of a constant pool, by index. -/
structure Pool where
  /-- The slots in order, starting with the unused index `0`. -/
  slots : Array Slot

namespace Pool

/-- The constant at an index, and whether it takes the next index too. -/
def entry (index : Nat) : Decode (Slot × Bool) := do
  match ← Decode.u8 .slotTag with
  | 1 =>
    let length ← Decode.u16 .textLength
    let raw ← Decode.bytes .text length
    return (.text (Text.Utf8.decodeLossy raw), false)
  | 7 => return (.classRef (← Decode.u16 .classEntry), false)
  -- strings, method types, modules and packages
  | 8 | 16 | 19 | 20 => Decode.skip .plainEntry 2; return (.other, false)
  | 15 => Decode.skip .handleEntry 3; return (.other, false)
  -- integers, floats, references to members, names with types, and dynamic constants
  | 3 | 4 | 9 | 10 | 11 | 12 | 17 | 18 => Decode.skip .plainEntry 4; return (.other, false)
  -- longs and doubles
  | 5 | 6 => Decode.skip .wideEntry 8; return (.other, true)
  | tag => throw (.unknownSlotTag tag index)

/-- Reads constants until `n` more indices are taken, the next one being `index`.  A wide constant
at the last index is read as any other. -/
def entries : (n index : Nat) → Array Slot → Decode (Array Slot)
  | 0, _, before => pure before
  | 1, index, before => do
    let (slot, _) ← entry index
    return before.push slot
  | n + 2, index, before => do
    let (slot, wide) ← entry index
    if wide then entries n (index + 2) ((before.push slot).push .unused)
    else entries (n + 1) (index + 1) (before.push slot)

/-- Reads a constant pool: the number of its indices, then its constants. -/
def decode : Decode Pool := do
  let count ← Decode.u16 .poolCount
  return ⟨← entries (count - 1) 1 #[.unused]⟩

/-- The text at an index. -/
def text (p : Pool) (index : Nat) : Except Fault String :=
  match p.slots[index]? with
  | some (.text s) => .ok s
  | some _ => .error (.notText index)
  | none => .error (.noSlot index)

/-- The name of the class at an index, with slashes between its parts. -/
def className (p : Pool) (index : Nat) : Except Fault String :=
  match p.slots[index]? with
  | some (.classRef name) => p.text name
  | some _ => .error (.notClass index)
  | none => .error (.noSlot index)

/-- The name of the class at an index, where index `0` stands for no class. -/
def className? (p : Pool) (index : Nat) : Except Fault (Option String) :=
  if index = 0 then .ok none else some <$> p.className index

end Pool

end PluginFacts.ClassFile
