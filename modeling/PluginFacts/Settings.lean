/-
# Settings

What the user chooses for a run: which classes may have capabilities at all, which classes have the
roles in any case, and whether the module is a plugin, which has to have a main class.
-/
import PluginFacts.Capability
import PluginFacts.Class.Basic
import PluginFacts.Text.Blank

namespace PluginFacts

/-- The classes that have roles because the user says so. -/
structure Pins where
  /-- The main class. -/
  entryPoint : Option String := none
  /-- The bootstrap hook. -/
  bootstrapHook : Option String := none
  /-- The loader. -/
  pluginLoader : Option String := none
deriving DecidableEq, Repr

namespace Pins

/-- The class that has a role. -/
def get? (p : Pins) : Role → Option String
  | .entryPoint => p.entryPoint
  | .bootstrapHook => p.bootstrapHook
  | .pluginLoader => p.pluginLoader

/-- The pins with a class for one role. -/
def set (p : Pins) (name : String) : Role → Pins
  | .entryPoint => { p with entryPoint := some name }
  | .bootstrapHook => { p with bootstrapHook := some name }
  | .pluginLoader => { p with pluginLoader := some name }

end Pins

/-- What the user chooses for a run. -/
structure Settings where
  /-- The module is a plugin and has to have a main class. -/
  plugin : Bool := true
  /-- Prefixes of the names of classes that may have capabilities; without any, all may. -/
  scope : List String := []
  /-- Prefixes of the names of classes that may not. -/
  exclude : List String := []
  /-- Abstract classes and interfaces may have capabilities too. -/
  includeAbstract : Bool := false
  /-- Classes that the compiler made up may have capabilities too. -/
  includeSynthetic : Bool := false
  /-- Nested classes may not have capabilities. -/
  skipNested : Bool := false
  /-- Names of types that are expected outside the analysed classes. -/
  externalTypes : List String := []
  /-- The greatest size of a class file in bytes. -/
  maxClassSize : Nat := 16 * 1024 * 1024
  /-- The classes that have roles in any case. -/
  pins : Pins := {}
deriving DecidableEq, Repr

/-- What is wrong with settings. -/
inductive SettingsFault where
  /-- No class file is small enough. -/
  | noClassSize
  /-- A prefix is blank. -/
  | blankPrefix
  /-- A prefix has a slash. -/
  | slashedPrefix (text : String)
  /-- A pinned class has no name or one with a slash. -/
  | unnamedPin (role : Role) (name : String)
deriving DecidableEq, Repr

/-- The wording of a fault in settings. -/
def SettingsFault.message : SettingsFault → String
  | noClassSize => "max_class_size must be greater than 0"
  | blankPrefix => "scope prefixes must not be empty"
  | slashedPrefix text => s!"scope prefix '{text}' must use dotted class names"
  | unnamedPin role name => s!"configured {role.capability} '{name}' must be a dotted class name"

namespace Settings

/-- The settings for a module that is no plugin. -/
def library : Settings := { plugin := false }

/-- The settings with one more prefix in scope. -/
def withScope (s : Settings) (text : String) : Settings :=
  { s with scope := s.scope ++ [text] }

/-- The settings with one more prefix excluded. -/
def withExclude (s : Settings) (text : String) : Settings :=
  { s with exclude := s.exclude ++ [text] }

/-- The class that has a capability because the user says so. -/
def pinned (s : Settings) (k : Capability) : Option String :=
  k.role?.bind s.pins.get?

/-- The settings with a class pinned to a capability, if that is a role. -/
def withPinned (s : Settings) (k : Capability) (name : String) : Settings :=
  match k.role? with
  | some role => { s with pins := s.pins.set name role }
  | none => s

/-- Whether a name has slashes between its parts. -/
def isSlashed (name : String) : Bool := name.toList.contains '/'

/-- What is wrong with a prefix. -/
def prefixFault? (text : String) : Option SettingsFault :=
  if Text.isBlankText text then some .blankPrefix
  else if isSlashed text then some (.slashedPrefix text)
  else none

/-- What is wrong with the pin of a role. -/
def pinFault? (p : Pins) (role : Role) : Option SettingsFault := do
  let name ← p.get? role
  if Text.isBlankText name || isSlashed name then some (.unnamedPin role name) else none

/-- The first thing that is wrong with settings. -/
def fault? (s : Settings) : Option SettingsFault :=
  if s.maxClassSize = 0 then some .noClassSize
  else (s.scope ++ s.exclude).findSome? prefixFault? <|> Role.all.findSome? (pinFault? s.pins)

/-- Whether a name starts with a text. -/
def startsWith (name text : String) : Bool :=
  text.toList.isPrefixOf name.toList

/-- Whether a name is in scope. -/
def inScope (s : Settings) (name : String) : Bool :=
  (s.scope.isEmpty || s.scope.any (startsWith name)) && !s.exclude.any (startsWith name)

/-- Whether a class may have capabilities.  A class that may not still passes on what it inherits
and declares. -/
def isSubject (s : Settings) (c : Class) : Bool :=
  s.inScope c.name && (s.includeAbstract || c.isConcrete) && (s.includeSynthetic || !c.synthetic) &&
    !(s.skipNested && c.isNested)

end Settings

end PluginFacts
