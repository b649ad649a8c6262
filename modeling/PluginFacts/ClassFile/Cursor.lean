/-
# Reading bytes in order

A `Cursor` stands somewhere in a string of bytes; a `Decode` step reads on from there or says why
it cannot.  All numbers in a class file are written with the most significant byte first.
-/
import PluginFacts.ClassFile.Fault

namespace PluginFacts.ClassFile

/-- A position in a string of bytes. -/
structure Cursor where
  /-- The bytes still to be read. -/
  rest : List UInt8
  /-- How many bytes were read before. -/
  offset : Nat := 0

/-- A step that reads on from a position or fails. -/
abbrev Decode := StateT Cursor (Except Fault)

namespace Decode

variable {α : Type}

/-- Runs a step on a string of bytes from its start, whatever it leaves unread. -/
def onBytes (d : Decode α) (bytes : List UInt8) : Except Fault α :=
  (d.run { rest := bytes }).map (·.1)

/-- Names the place of a fault. -/
def within (place : Place) (d : Decode α) : Decode α :=
  fun c => (d c).mapError (.within place)

/-- The next byte. -/
def u8 (item : Item) : Decode Nat
  | ⟨a :: rest, offset⟩ => .ok (a.toNat, ⟨rest, offset + 1⟩)
  | ⟨_, offset⟩ => .error (.truncated item offset)

/-- The next two bytes, as a number. -/
def u16 (item : Item) : Decode Nat
  | ⟨a :: b :: rest, offset⟩ => .ok (a.toNat * 0x100 + b.toNat, ⟨rest, offset + 2⟩)
  | ⟨_, offset⟩ => .error (.truncated item offset)

/-- The next four bytes, as a number. -/
def u32 (item : Item) : Decode Nat
  | ⟨a :: b :: c :: d :: rest, offset⟩ =>
    .ok (((a.toNat * 0x100 + b.toNat) * 0x100 + c.toNat) * 0x100 + d.toNat, ⟨rest, offset + 4⟩)
  | ⟨_, offset⟩ => .error (.truncated item offset)

/-- The next `n` bytes. -/
def bytes (item : Item) (n : Nat) : Decode (List UInt8)
  | ⟨rest, offset⟩ =>
    let taken := rest.take n
    if taken.length = n then .ok (taken, ⟨rest.drop n, offset + n⟩)
    else .error (.truncated item offset)

/-- Passes over the next `n` bytes. -/
def skip (item : Item) (n : Nat) : Decode Unit := do
  let _ ← bytes item n

/-- What `n` runs of a step read, in order. -/
def times (d : Decode α) (n : Nat) : Decode (List α) :=
  go n []
where
  /-- Reads on, with what was read before in reverse order. -/
  go : Nat → List α → Decode (List α)
    | 0, before => pure before.reverse
    | n + 1, before => do
      let a ← d
      go n (a :: before)

end Decode

end PluginFacts.ClassFile
