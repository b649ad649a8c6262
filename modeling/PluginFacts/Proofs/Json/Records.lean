/-
# Records are read back from what is written for them

A record is written as an object with its parts in order, where parts that say nothing may be left
out. Such an object names no part twice and names nothing else (`record?_obj`), and a part that is
left out is read as what it was left out for (`optional_of_lookup`, `defaulted_optField`).  So every
manifest, class, member and shape of a member is read back from its value, and, as these values are
plain, from its text in every layout.
-/
import Mathlib.Data.List.Sublists
import PluginFacts.Class.Json
import PluginFacts.Manifest
import PluginFacts.Proofs.Json.Values
import PluginFacts.Rule.Predicate

namespace PluginFacts

namespace Json

/-! ## The parts of a record -/

/-- An object whose keys are names of parts in their order gives all its fields. -/
lemma record?_obj {parts defaults : List String} {fields : List (String × Json)}
    (hkeys : (fields.map Prod.fst).Sublist (parts ++ defaults))
    (hnodup : (parts ++ defaults).Nodup) : record? parts defaults (obj fields) = some fields := by
  have hall : fields.filter (fun f => (parts ++ defaults).contains f.1) = fields := by
    refine List.filter_eq_self.2 fun f hf => List.contains_iff_mem.2 ?_
    exact hkeys.subset (List.mem_map_of_mem hf)
  rw [record?, hall, if_pos (hnodup.sublist hkeys)]

lemma keys_optField_sublist (key : String) (v : Option Json) :
    ((optField key v).map Prod.fst).Sublist [key] := by
  cases v <;> simp [optField]

/-- The last part may be left out. -/
lemma record?_obj_append_optField {parts : List String} {key : String}
    {fields : List (String × Json)} (hkeys : fields.map Prod.fst = parts)
    (hnodup : (parts ++ [key]).Nodup) (v : Option Json) :
    record? parts [key] (obj (fields ++ optField key v)) = some (fields ++ optField key v) := by
  refine record?_obj ?_ hnodup
  rw [List.map_append, hkeys]
  exact .append (List.Sublist.refl _) (keys_optField_sublist ..)

/-- A field that is left out in one case is an optional field. -/
lemma ite_eq_optField (p : Prop) [Decidable p] (key : String) (v : Json) :
    (if p then [] else [(key, v)]) = optField key (if p then none else some v) := by
  split_ifs <;> rfl

variable {α : Type} {r : Record} {key k : String} {v : Json}
variable {read : Json → Option α} {write : α → Json}

lemma lookup_cons_of_ne (h : key ≠ k) : ((k, v) :: r).lookup key = r.lookup key := by
  rw [List.lookup_cons, beq_false_of_ne h]

@[simp] lemma lookup_optField_self (v : Option Json) : (optField key v).lookup key = v := by
  cases v <;> simp [optField]

@[simp] lemma lookup_optField_of_ne {v : Option Json} (h : key ≠ k) :
    (optField k v).lookup key = none := by
  cases v with
  | none => rfl
  | some v => exact lookup_cons_of_ne h

namespace Record

@[simp] lemma optional_cons_of_ne (h : key ≠ k) :
    optional ((k, v) :: r) key read = optional r key read := by
  rw [optional, optional, lookup_cons_of_ne h]

@[simp] lemma defaulted_cons_of_ne {default : α} (h : key ≠ k) :
    defaulted ((k, v) :: r) key read default = defaulted r key read default := by
  rw [defaulted, defaulted, lookup_cons_of_ne h]

/-- A part that is null when there is none is read as it is. -/
@[simp] lemma optional_strOrNull (x : Option String) :
    optional ((key, strOrNull x) :: r) key string? = some x := by
  cases x <;> simp [optional, strOrNull, string?]

/-- A part that is left out when there is none is read as it is. -/
lemma optional_of_lookup (hread : ∀ x, read (write x) = some x) (hnull : ∀ x, write x ≠ null)
    {x : Option α} (h : r.lookup key = x.map write) : r.optional key read = some x := by
  rw [optional, h]
  cases x with
  | none => rfl
  | some x => simp [hread, hnull]

/-- A part that is left out when it is the default is read as it is. -/
lemma defaulted_optField (hread : ∀ x, read (write x) = some x) {x default : α} {p : Prop}
    [Decidable p] (hp : p → x = default) :
    defaulted (optField key (if p then none else some (write x))) key read default = some x := by
  split_ifs with h
  · simp [defaulted, hp h]
  · simp [defaulted, hread]

end Record

/-! ## Readers of parts -/

@[simp] lemma string?_str (s : String) : string? (str s) = some s := rfl

@[simp] lemma bool?_bool (b : Bool) : bool? (bool b) = some b := rfl

@[simp] lemma word?_nat (w : UInt16) : word? (nat w.toNat) = some w := by
  rw [word?, if_pos w.toNat_lt, UInt16.ofNat_toNat]

lemma list?_arr_map (hread : ∀ x, read (write x) = some x) (l : List α) :
    list? read (arr (l.map write)) = some l := by
  rw [list?]
  induction l with
  | nil => rfl
  | cons x l ih => simp [hread, ih]

@[simp] lemma list?_strings (l : List String) : list? string? (strings l) = some l :=
  list?_arr_map string?_str l

/-- What is read back is determined by what is written for it. -/
lemma injective_of_read {β : Type} {read : β → Option α} {write : α → β}
    (hread : ∀ x, read (write x) = some x) : Function.Injective write := by
  intro x y h
  have hx := hread x
  rwa [h, hread, Option.some_inj, eq_comm] at hx

lemma strings_injective : Function.Injective strings :=
  injective_of_read list?_strings

end Json

open Json

@[simp] lemma MemberKind.name?_str_name (k : MemberKind) :
    name? MemberKind.ofName? (str k.name) = some k :=
  MemberKind.ofName?_name k

lemma Capability.name?_str_name (k : Capability) :
    name? Capability.ofName? (str k.name) = some k :=
  Capability.ofName?_name k

/-! ## The records -/

theorem Manifest.ofJson?_toJson (m : Manifest) : Manifest.ofJson? m.toJson = some m := by
  rw [ofJson?, toJson, record?_obj (List.Sublist.refl _) (by decide)]
  simp [Record.required, List.lookup_cons]

theorem Member.ofJson?_toJson (m : Member) : Member.ofJson? m.toJson = some m := by
  rw [ofJson?, toJson, ite_eq_optField, record?_obj_append_optField (by rfl) (by decide)]
  have hannotations : Record.defaulted (optField "annotations"
      (if m.annotations = [] then none else some (strings m.annotations)))
        "annotations" (list? string?) [] = some m.annotations :=
    Record.defaulted_optField list?_strings id
  simp [Record.required, List.lookup_cons, hannotations]

theorem Class.ofJson?_toJson (c : Class) : Class.ofJson? c.toJson = some c := by
  rw [ofJson?, toJson, ite_eq_optField, record?_obj_append_optField (by rfl) (by decide)]
  have horigin : Record.defaulted
      (optField "origin" (if c.origin = "" then none else some (str c.origin)))
        "origin" string? "" = some c.origin :=
    Record.defaulted_optField string?_str id
  simp [Record.required, List.lookup_cons, list?_arr_map Member.ofJson?_toJson, horigin]

namespace MemberPredicate

/-- The parts that a predicate mentions. -/
def record (p : MemberPredicate) : Record :=
  optField "kind" (p.kind.map fun k => str k.name) ++ optField "name" (p.name.map str) ++
    optField "descriptor" (p.descriptor.map str) ++ optField "annotation" (p.annotated.map str)

lemma keys_record_sublist (p : MemberPredicate) :
    (p.record.map Prod.fst).Sublist ["kind", "name", "descriptor", "annotation"] := by
  simp only [record, List.map_append]
  exact (((keys_optField_sublist ..).append (keys_optField_sublist ..)).append
    (keys_optField_sublist ..)).append (keys_optField_sublist ..)

theorem ofJson?_toJson (p : MemberPredicate) : ofJson? p.toJson = some p := by
  have hkind : p.record.optional "kind" (name? MemberKind.ofName?) = some p.kind :=
    Record.optional_of_lookup MemberKind.name?_str_name (by simp)
      (by simp [record, List.lookup_append])
  have hname : p.record.optional "name" string? = some p.name :=
    Record.optional_of_lookup string?_str (by simp) (by simp [record, List.lookup_append])
  have hdescriptor : p.record.optional "descriptor" string? = some p.descriptor :=
    Record.optional_of_lookup string?_str (by simp) (by simp [record, List.lookup_append])
  have hannotation : p.record.optional "annotation" string? = some p.annotated :=
    Record.optional_of_lookup string?_str (by simp) (by simp [record, List.lookup_append])
  have hrecord : p.toJson.record? [] ["kind", "name", "descriptor", "annotation"] =
      some p.record := record?_obj p.keys_record_sublist (by decide)
  simp [ofJson?, hrecord, hkind, hname, hdescriptor, hannotation]

end MemberPredicate

/-! ## The texts of records -/

lemma Manifest.plain_toJson (m : Manifest) : m.toJson.Plain :=
  PlainFields.plain_obj (by simp)

lemma Member.plain_toJson (m : Member) : m.toJson.Plain := by
  refine PlainFields.plain_obj ?_
  split_ifs <;> simp

lemma Class.plain_toJson (c : Class) : c.toJson.Plain := by
  have hmembers : (arr (c.members.map Member.toJson)).Plain := plain_arr_map Member.plain_toJson _
  refine PlainFields.plain_obj ?_
  split_ifs <;> simp [hmembers]

lemma MemberPredicate.plain_toJson (p : MemberPredicate) : p.toJson.Plain :=
  PlainFields.plain_obj (by simp)

/-- **What is written is read back.**  Manifests, classes, members, shapes of members and
capabilities are read from the text that is written for them, whichever way it is set out. -/
theorem ofJson?_bind_parse?_render_toJson (layout : Layout) :
    (∀ m : Manifest, (parse? (m.toJson.render layout)).bind Manifest.ofJson? = some m) ∧
    (∀ c : Class, (parse? (c.toJson.render layout)).bind Class.ofJson? = some c) ∧
    (∀ m : Member, (parse? (m.toJson.render layout)).bind Member.ofJson? = some m) ∧
    (∀ p : MemberPredicate,
      (parse? (p.toJson.render layout)).bind MemberPredicate.ofJson? = some p) ∧
    (∀ k : Capability,
      (parse? ((str k.name).render layout)).bind (name? Capability.ofName?) = some k) := by
  refine ⟨fun m => ?_, fun c => ?_, fun m => ?_, fun p => ?_, fun k => ?_⟩
  · rw [parse?_render m.plain_toJson, Option.bind_some, Manifest.ofJson?_toJson]
  · rw [parse?_render c.plain_toJson, Option.bind_some, Class.ofJson?_toJson]
  · rw [parse?_render m.plain_toJson, Option.bind_some, Member.ofJson?_toJson]
  · rw [parse?_render p.plain_toJson, Option.bind_some, MemberPredicate.ofJson?_toJson]
  · rw [parse?_render (.str k.name), Option.bind_some, Capability.name?_str_name]

end PluginFacts
