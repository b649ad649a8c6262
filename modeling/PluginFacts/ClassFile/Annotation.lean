/-
# Annotations

Only the type of an annotation is kept.  Its element values are trees of constants, enumeration
constants, annotations and arrays, and are passed over; the types of the annotations in them are
still looked up, so that a reference to no text is found wherever it stands.

A value nested in another one starts at least one byte after it, so the number of bytes bounds the
depth.  `value` counts that bound down, and where it has run out there are no bytes left.
-/
import PluginFacts.ClassFile.Pool
import PluginFacts.ClassFile.TypeName

namespace PluginFacts.ClassFile

/-- Reads an annotation, whose element values `value` passes over, and gives its type if that is a
class. -/
def annotationWith (value : Decode Unit) (p : Pool) : Decode (Option String) := do
  let type ← p.text (← Decode.u16 .annotationType)
  let pairs ← Decode.u16 .pairCount
  let _ ← Decode.times (do Decode.skip .elementName 2; value) pairs
  return annotationType? type

/-- Passes over an element value that is nested at most `depth` deep. -/
def value (p : Pool) : (depth : Nat) → Decode Unit
  | 0 => fun c => .error (.truncated .valueTag c.offset)
  | depth + 1 => do
    let tag ← Decode.u8 .valueTag
    match Char.ofNat tag with
    | 'B' | 'C' | 'D' | 'F' | 'I' | 'J' | 'S' | 'Z' | 's' | 'c' => Decode.skip .plainValue 2
    | 'e' => Decode.skip .enumValue 4
    | '@' => do
      let _ ← annotationWith (value p depth) p
    | '[' => do
      let length ← Decode.u16 .arrayLength
      let _ ← Decode.times (value p depth) length
    | _ => throw (.unknownValueTag tag)

/-- Reads an annotation whose values are nested at most `depth` deep. -/
def annotationEntry (p : Pool) (depth : Nat) : Decode (Option String) :=
  annotationWith (value p depth) p

/-- The types of a table of annotations that fills the given bytes, as far as they are classes. -/
def annotations (p : Pool) (body : List UInt8) : Except Fault (List String) :=
  table.onBytes body
where
  /-- Reads the number of annotations, then the annotations. -/
  table : Decode (List String) := do
    let count ← Decode.u16 .annotationCount
    let types ← Decode.times (annotationEntry p body.length) count
    return types.filterMap id

end PluginFacts.ClassFile
