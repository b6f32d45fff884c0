import QueryExpr.Outline.Format

/-!
# Command line arguments

A command line names a command. Switches stand anywhere; those that every command knows also stand
before its name. A switch has a long name, as in `--config`, and most have a letter, as in `-c`.
Letters can be joined. A value follows as the next argument, after an equals sign, or directly after
the letter. After `--` there are no more switches. Giving a switch twice at one place is an error.
-/

namespace QueryExpr.CommandLine

/-- A switch. -/
inductive Switch where
  | verbose
  | color
  | version
  | source
  | config
  | predicate
  | format
  deriving DecidableEq

namespace Switch

/-- The long name of a switch. -/
def name : Switch → String
  | verbose => "verbose"
  | color => "color"
  | version => "version"
  | source => "source"
  | config => "config"
  | predicate => "predicate"
  | format => "format"

/-- The letter of a switch. -/
def letter? : Switch → Option Char
  | verbose => some 'v'
  | color => none
  | version => some 'V'
  | source => some 's'
  | config => some 'c'
  | predicate => some 'p'
  | format => some 'f'

/-- Whether a switch comes with a value. -/
def takesValue : Switch → Bool
  | color | source | config | format => true
  | verbose | version | predicate => false

end Switch

/-- Why there is no command to run. -/
inductive Stop where
  /-- The version is asked for. -/
  | version
  /-- The arguments make no command. -/
  | usage
  deriving DecidableEq

/-- What is known at one place of a command line. -/
structure Level where
  switches : List Switch
  /-- Whether the first operand is the name of a command. -/
  hasCommands : Bool

/-- What was given at one place of a command line. -/
structure Given where
  /-- The switches with their values, which are empty where a switch takes none. -/
  settings : List (Switch × String)
  operands : List String

namespace Given

/-- Nothing. -/
def empty : Given :=
  ⟨[], []⟩

/-- The value of a switch. -/
def value? (given : Given) (switch : Switch) : Option String :=
  given.settings.lookup switch

/-- Whether a switch was given. -/
def has (given : Given) (switch : Switch) : Bool :=
  (given.value? switch).isSome

/-- One more switch. A switch must not be given twice, and the version ends the work. -/
def set (given : Given) (switch : Switch) (value : String) : Except Stop Given :=
  if given.has switch then .error .usage
  else if switch = .version then .error .version
  else .ok { given with settings := given.settings ++ [(switch, value)] }

/-- Some more switches in order. -/
def setAll (given : Given) (settings : List (Switch × String)) : Except Stop Given :=
  settings.foldlM (fun given setting => given.set setting.1 setting.2) given

/-- Some more operands. -/
def addOperands (given : Given) (operands : List String) : Given :=
  { given with operands := given.operands ++ operands }

end Given

/-- What a single argument is. -/
inductive Argument where
  | operand (text : String)
  /-- Switches with their values, and a last one whose value is the next argument. -/
  | switches (complete : List (Switch × String)) (pending : Option Switch)

namespace Argument

/-- An argument that gives one switch. -/
def single (switch : Switch) (value : String) : Argument :=
  switches [(switch, value)] none

/-- An argument with one more switch in front. -/
def withFlag (switch : Switch) : Argument → Argument
  | switches complete pending => switches ((switch, "") :: complete) pending
  | operand text => operand text

/-- The switches of joined letters. A letter that takes a value takes all that follows it, without
an equals sign in front. Nothing is read after the letter of the version. -/
def ofLetters? (known : List Switch) : List Char → Option Argument
  | [] => some (switches [] none)
  | c :: rest =>
    match known.find? fun switch => switch.letter? == some c with
    | none => none
    | some switch =>
      if switch.takesValue then
        match rest with
        | [] => some (switches [] (some switch))
        | '=' :: value => some (single switch (String.ofList value))
        | value => some (single switch (String.ofList value))
      else if switch = .version then some (single switch "")
      else (ofLetters? known rest).map (withFlag switch)

/-- The switch of a long name with what follows an equals sign. -/
def ofName? (known : List Switch) (text : List Char) : Option Argument :=
  let name := String.ofList (text.takeWhile (· != '='))
  match known.find? fun switch => switch.name == name with
  | none => none
  | some switch =>
    match text.dropWhile (· != '='), switch.takesValue with
    | _ :: value, true => some (single switch (String.ofList value))
    | [], true => some (switches [] (some switch))
    | [], false => some (single switch "")
    | _ :: _, false => none

/-- What an argument is, if its switches are known. A single dash is an operand. -/
def read? (known : List Switch) (text : String) : Option Argument :=
  match text.toList with
  | '-' :: '-' :: name => ofName? known name
  | '-' :: c :: letters => ofLetters? known (c :: letters)
  | _ => some (operand text)

/-- Whether an argument can be the value of a switch before it. -/
def isValue (text : String) : Bool :=
  match text.toList with
  | '-' :: _ :: _ => false
  | _ => true

end Argument

/-- What the arguments at one place give, on top of what was given before. Where commands are known,
the name of a command ends the place, and all that follows it is kept. -/
def scan (level : Level) (given : Given) : List String → Except Stop Given
  | [] => .ok given
  | "--" :: rest => if level.hasCommands then .error .usage else .ok (given.addOperands rest)
  | text :: rest =>
    match Argument.read? level.switches text with
    | none => .error .usage
    | some (.operand text) =>
      if level.hasCommands then .ok (given.addOperands (text :: rest))
      else scan level (given.addOperands [text]) rest
    | some (.switches complete none) =>
      match given.setAll complete with
      | .error stop => .error stop
      | .ok given => scan level given rest
    | some (.switches complete (some switch)) =>
      match given.setAll complete, rest with
      | .error stop, _ => .error stop
      | .ok _, [] => .error .usage
      | .ok given, value :: rest =>
        if Argument.isValue value then
          match given.set switch value with
          | .error stop => .error stop
          | .ok given => scan level given rest
        else .error .usage

/-- Before the name of the command. -/
def Level.root : Level :=
  ⟨[.verbose, .color, .version], true⟩

/-- After the command that builds. -/
def Level.build : Level :=
  ⟨[.verbose, .color, .source, .config, .predicate, .format], false⟩

/-- After the command that lists functions. -/
def Level.functions : Level :=
  ⟨[.verbose, .color, .config], false⟩

/-- What to do. -/
inductive Command where
  /-- Build the parse tree in a file and print the result. -/
  | build (tree : String) (source config : Option String) (predicate : Bool) (format : Format)
  /-- List the functions. -/
  | functions (config : Option String)

/-- A command and how it is shown. -/
structure Request where
  command : Command
  /-- Whether the used macros are reported. -/
  verbose : Bool
  /-- When output is coloured. -/
  color : String

/-- The path that a switch gives. -/
def Given.path? (given : Given) (switch : Switch) : Except Stop (Option String) :=
  match given.value? switch with
  | some "" => .error .usage
  | path => .ok path

/-- The command that builds. -/
def Command.ofBuild (given : Given) : Except Stop Command := do
  let [tree] := given.operands | .error .usage
  if tree = "" then .error .usage
  let format ← match given.value? .format with
    | none => pure Format.indented
    | some tag =>
      match Tagged.ofTag? tag with
      | some format => pure format
      | none => .error .usage
  return .build tree (← given.path? .source) (← given.path? .config) (given.has .predicate) format

/-- The command that lists functions. -/
def Command.ofFunctions (given : Given) : Except Stop Command := do
  let [] := given.operands | .error .usage
  return .functions (← given.path? .config)

/-- The request that some arguments make. What stands after the command wins. -/
def Request.ofArguments (arguments : List String) : Except Stop Request := do
  let outer ← scan .root .empty arguments
  let (inner, command) ← match outer.operands with
    | "build" :: rest => do
      let inner ← scan .build .empty rest
      pure (inner, ← Command.ofBuild inner)
    | "functions" :: rest => do
      let inner ← scan .functions .empty rest
      pure (inner, ← Command.ofFunctions inner)
    | _ => .error .usage
  return {
    command
    verbose := outer.has .verbose || inner.has .verbose
    color := ((inner.value? .color).or (outer.value? .color)).getD "auto" }

end QueryExpr.CommandLine
