/-
# Members of a class

A field or method as its class file declares it, with the types of the annotations it carries.
-/

namespace PluginFacts

/-- Whether a member is a method or a field. -/
inductive MemberKind where
  /-- A method. -/
  | method
  /-- A field. -/
  | field
deriving DecidableEq, Repr

namespace MemberKind

/-- The name of a kind in rule files and reports. -/
def name : MemberKind → String
  | method => "method"
  | field => "field"

instance : ToString MemberKind := ⟨name⟩

/-- The kind with the given name. -/
def ofName? (s : String) : Option MemberKind :=
  [method, field].find? (·.name == s)

@[simp] theorem ofName?_name (k : MemberKind) : ofName? k.name = some k := by
  cases k <;> decide

end MemberKind

/-- A field or method declared by a class. -/
structure Member where
  /-- The name. -/
  name : String
  /-- Whether it is a method or a field. -/
  kind : MemberKind
  /-- The type in the notation of class files, such as `()V` or `Lorg/bukkit/Server;`. -/
  descriptor : String
  /-- The access flags. -/
  access : UInt16
  /-- The dotted names of the annotation types on the member. -/
  annotations : List String := []
deriving DecidableEq, Repr

/-- Whether the member carries an annotation of the given type. -/
def Member.hasAnnotation (m : Member) (type : String) : Bool :=
  m.annotations.contains type

end PluginFacts
