/-
# Command lines

A command line names a command and gives options to it.  An option has a long name after two dashes
and may have a short one after a single dash; its value follows as the next argument or in the same
one, and short options may share an argument.  Two dashes alone end the options.

The general options may stand before and after the command, where the later place counts.  Within
one place an option may be given once only, unless it collects several values.
-/

namespace PluginFacts.CommandLine

/-- What the user asks to be done. -/
inductive Verb where
  /-- Work out the manifest of a directory of classes. -/
  | analyze
  /-- List the classes of a directory. -/
  | classes
  /-- List the rules. -/
  | rules
deriving DecidableEq, Repr

/-- The verb with the given name. -/
def Verb.ofName? : String → Option Verb
  | "analyze" => some .analyze
  | "classes" => some .classes
  | "rules" => some .rules
  | _ => none

/-- An option. -/
inductive Flag where
  | format | output | verbose | help | version
  | module | rules | scope | exclude | library | includeAbstract | skipNested
  | main | bootstrapper | loader
deriving DecidableEq, Repr

namespace Flag

/-- The long name of an option. -/
def longName : Flag → String
  | format => "format"
  | output => "output"
  | verbose => "verbose"
  | help => "help"
  | version => "version"
  | module => "module"
  | rules => "rules"
  | scope => "scope"
  | exclude => "exclude"
  | library => "library"
  | includeAbstract => "include-abstract"
  | skipNested => "skip-nested"
  | main => "main"
  | bootstrapper => "bootstrapper"
  | loader => "loader"

/-- The short name of an option, if it has one. -/
def shortName? : Flag → Option Char
  | format => some 'f'
  | output => some 'o'
  | verbose => some 'v'
  | help => some 'h'
  | version => some 'V'
  | module => some 'm'
  | rules => some 'r'
  | _ => none

/-- Whether an option has a value. -/
def takesValue : Flag → Bool
  | verbose | help | version | library | includeAbstract | skipNested => false
  | _ => true

/-- Whether an option collects several values. -/
def isRepeatable : Flag → Bool
  | scope | exclude => true
  | _ => false

/-- The options before the command. -/
def beforeVerb : List Flag := [format, output, verbose, help, version]

/-- The options after a command. -/
def afterVerb : Verb → List Flag
  | .analyze => [format, output, verbose, help, module, rules, scope, exclude, library,
      includeAbstract, skipNested, main, bootstrapper, loader]
  | .classes => [format, output, verbose, help]
  | .rules => [format, output, verbose, help, rules]

end Flag

/-- How many directories a command works on. -/
def Verb.operands : Verb → Nat
  | analyze | classes => 1
  | rules => 0

/-- The options of one place, with their values. -/
abbrev Options := List (Flag × String)

/-- Why a command line is not carried out. -/
inductive Halt where
  /-- It asks for help. -/
  | help
  /-- It asks for the version of the program. -/
  | version
  /-- It cannot be understood. -/
  | misuse
deriving DecidableEq, Repr

/-- How a report is written. -/
inductive Format where
  /-- For other programs. -/
  | json
  /-- For people. -/
  | terminal
deriving DecidableEq, Repr

/-- The format with the given name. -/
def Format.ofName? : String → Option Format
  | "json" => some .json
  | "terminal" => some .terminal
  | _ => none

namespace Options

/-- The options with one more. -/
def add (o : Options) (f : Flag) (value : String) : Except Halt Options :=
  if f = .help then .error .help
  else if f = .version then .error .version
  else if !f.isRepeatable && (o.lookup f).isSome then .error .misuse
  else if f = .format ∧ (Format.ofName? value).isNone then .error .misuse
  else .ok (o ++ [(f, value)])

/-- The values of an option, in order. -/
def values (o : Options) (f : Flag) : List String :=
  o.filterMap fun (g, value) => if g = f then some value else none

end Options

/-- What an argument with options leads to. -/
inductive Step where
  /-- The options are complete. -/
  | done (o : Options)
  /-- The value of an option is the next argument. -/
  | pending (o : Options) (f : Flag)

/-- Reads an argument after two dashes. -/
def long (known : List Flag) (o : Options) (arg : List Char) : Except Halt Step :=
  let name := String.ofList (arg.takeWhile (· ≠ '='))
  match known.find? (·.longName == name), arg.dropWhile (· ≠ '=') with
  | none, _ => .error .misuse
  | some f, [] => if f.takesValue then .ok (.pending o f) else Step.done <$> o.add f ""
  | some f, _ :: value =>
    if f.takesValue then Step.done <$> o.add f (String.ofList value) else .error .misuse

/-- Reads an argument after a single dash. -/
def short (known : List Flag) (o : Options) : List Char → Except Halt Step
  | [] => .ok (.done o)
  | c :: rest =>
    match known.find? (·.shortName? == some c) with
    | none => .error .misuse
    | some f =>
      if f.takesValue then
        match rest with
        | [] => .ok (.pending o f)
        | '=' :: value => Step.done <$> o.add f (String.ofList value)
        | value => Step.done <$> o.add f (String.ofList value)
      else do short known (← o.add f "") rest

/-- What an argument is by its dashes. -/
inductive Shape where
  /-- Two dashes. -/
  | separator
  /-- Two dashes and a text. -/
  | long (text : List Char)
  /-- A dash and a text. -/
  | short (text : List Char)
  /-- Anything else. -/
  | operand

/-- What an argument is by its dashes. -/
def Shape.of (arg : String) : Shape :=
  match arg.toList with
  | ['-', '-'] => separator
  | '-' :: '-' :: text => long text
  | '-' :: c :: text => short (c :: text)
  | _ => operand

/-- Reads the arguments after a command, given the options and operands before and the option that
waits for its value. -/
def afterVerb (verb : Verb) (o : Options) (operands : List String) (waiting : Option Flag) :
    List String → Except Halt (Options × List String)
  | [] =>
    if waiting.isSome || operands.length != verb.operands then .error .misuse
    else .ok (o, operands)
  | arg :: rest =>
    match waiting, Shape.of arg with
    | some f, .operand => do afterVerb verb (← o.add f arg) operands none rest
    | some _, _ => .error .misuse
    | none, .operand =>
      if operands.length < verb.operands then afterVerb verb o (operands ++ [arg]) none rest
      else .error .misuse
    | none, .separator =>
      if (operands ++ rest).length = verb.operands then .ok (o, operands ++ rest)
      else .error .misuse
    | none, .long text => do
      match ← long (Flag.afterVerb verb) o text with
      | .done o => afterVerb verb o operands none rest
      | .pending o f => afterVerb verb o operands (some f) rest
    | none, .short text => do
      match ← short (Flag.afterVerb verb) o text with
      | .done o => afterVerb verb o operands none rest
      | .pending o f => afterVerb verb o operands (some f) rest

/-- What a request for help leads to: help may be asked for one command. -/
def helpWith : List String → Halt
  | [] => .help
  | [name] => if name = "help" ∨ (Verb.ofName? name).isSome then .help else .misuse
  | _ => .misuse

/-- A command line that is understood. -/
structure Command where
  /-- What is to be done. -/
  verb : Verb
  /-- The options before the command. -/
  general : Options
  /-- The options after it. -/
  options : Options
  /-- The directories it works on. -/
  operands : List String
deriving DecidableEq, Repr

/-- Reads a command line, given the options before and the option that waits for its value. -/
def beforeVerb (o : Options) (waiting : Option Flag) : List String → Except Halt Command
  | [] => .error .misuse
  | arg :: rest =>
    match waiting, Shape.of arg with
    | some f, .operand => do beforeVerb (← o.add f arg) none rest
    | some _, _ | none, .separator => .error .misuse
    | none, .operand =>
      if arg = "help" then .error (helpWith rest)
      else match Verb.ofName? arg with
        | none => .error .misuse
        | some verb => do
          let (options, operands) ← afterVerb verb [] [] none rest
          return { verb, general := o, options, operands }
    | none, .long text => do
      match ← long Flag.beforeVerb o text with
      | .done o => beforeVerb o none rest
      | .pending o f => beforeVerb o (some f) rest
    | none, .short text => do
      match ← short Flag.beforeVerb o text with
      | .done o => beforeVerb o none rest
      | .pending o f => beforeVerb o (some f) rest

/-- The command that arguments spell. -/
def Command.ofArguments (args : List String) : Except Halt Command :=
  beforeVerb [] none args

namespace Command

/-- The value of an option: the one after the command, or else the one before it. -/
def value? (c : Command) (f : Flag) : Option String :=
  c.options.lookup f <|> c.general.lookup f

/-- Whether an option is given. -/
def has (c : Command) (f : Flag) : Bool := (c.value? f).isSome

/-- How the report is to be written. -/
def format (c : Command) : Format :=
  ((c.value? .format).bind Format.ofName?).getD .terminal

end Command

end PluginFacts.CommandLine
