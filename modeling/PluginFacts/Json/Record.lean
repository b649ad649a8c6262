/-
# Reading records

A record is written as an object with one field for each of its parts, or as an array of its parts
in order.  In an object, other fields are passed over, but no part may occur twice, and an optional
part may be absent.  Parts that have a default stand last; they may be absent in either form.
-/
import PluginFacts.Json.Reader

namespace PluginFacts.Json

/-- The parts of a record that are present. -/
abbrev Record := List (String × Json)

/-- What a value gives for the parts of a record: those with the names `parts`, then those with a
default. -/
def record? (parts defaults : List String) : Json → Option Record
  | obj fields =>
    let present := fields.filter fun f => (parts ++ defaults).contains f.1
    if (present.map Prod.fst).Nodup then some present else none
  | arr elements =>
    if parts.length ≤ elements.length ∧ elements.length ≤ parts.length + defaults.length then
      some ((parts ++ defaults).zip elements)
    else none
  | _ => none

variable {α : Type}

/-- A part that has to be present. -/
def Record.required (r : Record) (key : String) (read : Json → Option α) : Option α :=
  (r.lookup key).bind read

/-- A part that may be absent or null. -/
def Record.optional (r : Record) (key : String) (read : Json → Option α) : Option (Option α) :=
  match r.lookup key with
  | none | some null => some none
  | some v => some <$> read v

/-- A part that has a default. -/
def Record.defaulted (r : Record) (key : String) (read : Json → Option α) (default : α) :
    Option α :=
  match r.lookup key with
  | none => some default
  | some v => read v

/-- The text of a string. -/
def string? : Json → Option String
  | str s => some s
  | _ => none

/-- A truth value. -/
def bool? : Json → Option Bool
  | bool b => some b
  | _ => none

/-- A number of at most sixteen bits. -/
def word? : Json → Option UInt16
  | nat n => if n < 0x10000 then some (.ofNat n) else none
  | _ => none

/-- The elements of an array. -/
def list? (read : Json → Option α) : Json → Option (List α)
  | arr elements => elements.mapM read
  | _ => none

/-- One of the names that `ofName?` knows: a string, or an object whose only field has that name
and is null. -/
def name? (ofName? : String → Option α) : Json → Option α
  | str s => ofName? s
  | obj [(s, null)] => ofName? s
  | _ => none

end PluginFacts.Json
