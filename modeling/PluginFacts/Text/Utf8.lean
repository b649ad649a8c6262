/-
# Reading bytes as UTF-8

A well-formed sequence is one of one to four bytes whose lead byte fixes how many bytes follow
and in which range the first of them lies; that range is what rules out overlong forms and
surrogates.  Where the bytes break a sequence off, the part read so far counts as one unreadable
unit and reading goes on at the byte that broke it.

* `Utf8.units` reads any byte string as a list of characters and unreadable units;
* `Utf8.decode?` asks for characters only;
* `Utf8.decodeLossy` puts U+FFFD for each unreadable unit.
-/

namespace PluginFacts.Text.Utf8

/-- What a lead byte announces: the bits of the character that it holds itself, the number of
bytes that follow, and the bounds of the first of these. -/
structure Lead where
  /-- The leading bits of the code point. -/
  bits : Nat
  /-- How many bytes follow. -/
  tail : Nat
  /-- The least value of the next byte. -/
  low : Nat := 0x80
  /-- The greatest value of the next byte. -/
  high : Nat := 0xBF

/-- The announcement of a byte, if a sequence can start with it. -/
def lead? (b : Nat) : Option Lead :=
  if b < 0x80 then some { bits := b, tail := 0 }
  else if b < 0xC2 then none
  else if b < 0xE0 then some { bits := b - 0xC0, tail := 1 }
  else if b = 0xE0 then some { bits := 0, tail := 2, low := 0xA0 }
  else if b = 0xED then some { bits := 0xD, tail := 2, high := 0x9F }
  else if b < 0xF0 then some { bits := b - 0xE0, tail := 2 }
  else if b = 0xF0 then some { bits := 0, tail := 3, low := 0x90 }
  else if b < 0xF4 then some { bits := b - 0xF0, tail := 3 }
  else if b = 0xF4 then some { bits := 4, tail := 3, high := 0x8F }
  else none

/-- Reads `n` further bytes of a sequence, the first of them between `low` and `high`, and gives
the finished code point, or `none` if a byte is missing or out of range, with what was not used. -/
def continued (code : Nat) : Nat → Nat → Nat → List UInt8 → Option Nat × List UInt8
  | 0, _, _, bytes => (some code, bytes)
  | _ + 1, _, _, [] => (none, [])
  | n + 1, low, high, b :: rest =>
    if low ≤ b.toNat ∧ b.toNat ≤ high then
      continued (code * 64 + (b.toNat - 0x80)) n 0x80 0xBF rest
    else (none, b :: rest)

theorem length_continued_le (code n low high : Nat) (bytes : List UInt8) :
    (continued code n low high bytes).2.length ≤ bytes.length := by
  induction n generalizing code low high bytes with
  | zero => simp [continued]
  | succ n ih =>
    cases bytes with
    | nil => simp [continued]
    | cons b rest =>
      simp only [continued]
      split
      · exact Nat.le_trans (ih ..) (by simp)
      · simp

/-- The first unit of a byte string that starts with `b`, and the bytes after it. -/
def unit (b : UInt8) (rest : List UInt8) : Option Char × List UInt8 :=
  match lead? b.toNat with
  | none => (none, rest)
  | some l =>
    let (code?, rest) := continued l.bits l.tail l.low l.high rest
    (code?.map Char.ofNat, rest)

theorem length_unit_le (b : UInt8) (rest : List UInt8) : (unit b rest).2.length ≤ rest.length := by
  simp only [unit]
  split
  · simp
  · exact length_continued_le ..

/-- The characters of a byte string, with `none` for each unreadable unit. -/
def units (bytes : List UInt8) : List (Option Char) :=
  go [] bytes
where
  /-- Reads on, with the units before in reverse order. -/
  go (before : List (Option Char)) : List UInt8 → List (Option Char)
    | [] => before.reverse
    | b :: rest => go ((unit b rest).1 :: before) (unit b rest).2
  termination_by bytes => bytes.length
  decreasing_by
    have := length_unit_le b rest
    simp only [List.length_cons]
    omega

/-- The text of a byte string that is well-formed UTF-8 throughout. -/
def decode? (bytes : List UInt8) : Option String :=
  ((units bytes).mapM id).map String.ofList

/-- The text of a byte string, with U+FFFD for each unreadable unit. -/
def decodeLossy (bytes : List UInt8) : String :=
  String.ofList ((units bytes).map (·.getD '\uFFFD'))

end PluginFacts.Text.Utf8
