import QueryExpr.CommandLine.Arguments
import QueryExpr.Config
import QueryExpr.Expression.Outline
import QueryExpr.Registry.Listing
import QueryExpr.Session
import QueryExpr.Syntax.Decode

/-!
# Running commands

What a command prints and the status it ends with. Files are read through a given function, and in a
fixed order: the tree, which has to hold a parse tree before anything else is read, then the query
text, then the configuration.
-/

namespace QueryExpr.CommandLine

open Terminal (paint)

/-- What a run leaves behind. -/
structure Output where
  status : Nat
  stdout : String
  stderr : String

/-- Why a command fails. -/
inductive Failure where
  | unreadableTree (path reason : String)
  | malformedTree (path : String)
  | unreadableSource (path reason : String)
  | unreadableConfig (path reason : String)
  | malformedConfig (path : String)
  | build (error : BuildError)

/-- What is said of JSON that has not the expected form. -/
def malformed : String := "not of the expected form"

namespace Failure

/-- A failure that is not about the query, for a terminal. -/
def plain (color : Bool) (text : String) : String :=
  paint color .boldRed "Error:" ++ " " ++ text

/-- A failure for a terminal. The reason for a configuration is given twice: by what failed to load
and as the cause of it. -/
def render (color : Bool) : Failure → String
  | unreadableTree path reason => plain color ("Failed to read tree: " ++ path ++ ": " ++ reason)
  | malformedTree path => plain color ("Invalid syntax tree: " ++ path ++ ": " ++ malformed)
  | unreadableSource path reason =>
    plain color ("Failed to read source: " ++ path ++ ": " ++ reason)
  | unreadableConfig path reason =>
    plain color ("Failed to load config: " ++ path ++ ": failed to read config file: " ++ reason
      ++ ": " ++ reason)
  | malformedConfig path =>
    plain color ("Failed to load config: " ++ path ++ ": invalid config: " ++ malformed ++ ": "
      ++ malformed)
  | build error => error.diagnostic.render color

end Failure

/-- Whether output is coloured where it is not shown on a terminal. -/
def wantsColor (mode : String) : Bool :=
  Case.lower mode == "always"

section

variable {m : Type → Type} [Monad m] (readFile : String → m (Except String ByteArray))

/-- The text of a file, or why it cannot be read. -/
def readText (path : String) : m (Except String String) := do
  match ← readFile path with
  | .error reason => return .error reason
  | .ok bytes =>
    match String.fromUTF8? bytes with
    | some text => return .ok text
    | none => return .error "stream did not contain valid UTF-8"

/-- The parse tree in a file. -/
def readTree (path : String) : m (Except Failure Syntax.Node) := do
  match ← readText readFile path with
  | .error reason => return .error (.unreadableTree path reason)
  | .ok text =>
    match Syntax.Node.ofText? text with
    | some tree => return .ok tree
    | none => return .error (.malformedTree path)

/-- The query text in a file; it is empty without a file. -/
def readSource : Option String → m (Except Failure String)
  | none => return .ok ""
  | some path => do
    match ← readText readFile path with
    | .error reason => return .error (.unreadableSource path reason)
    | .ok text => return .ok text

/-- The configuration in a file, or the standard one without a file. -/
def readConfig : Option String → m (Except Failure Config)
  | none => return .ok .standard
  | some path => do
    match ← readText readFile path with
    | .error reason => return .error (.unreadableConfig path reason)
    | .ok text =>
      match Config.ofText? text with
      | some config => return .ok config
      | none => return .error (.malformedConfig path)

/-- The printed result of a build, and the macros it used. -/
def buildText (session : Session) (tree : Syntax.Node) (predicate : Bool) (format : Format) :
    Except Failure (String × UsedMacros) :=
  if predicate then
    let (result, session) := session.buildPredicate tree
    (result.map fun built => (format.render built.outline, session.used)).mapError .build
  else
    let (result, session) := session.build tree
    (result.map fun built => (format.render built.outline, session.used)).mapError .build

/-- What a command prints, with the macros it used. -/
def Command.text (color : Bool) : Command → m (Except Failure (String × UsedMacros))
  | .build treePath sourcePath configPath predicate format => ExceptT.run do
    let tree ← ExceptT.mk (readTree readFile treePath)
    let source ← ExceptT.mk (readSource readFile sourcePath)
    let config ← ExceptT.mk (readConfig readFile configPath)
    let session := Session.start config.context source
    let (text, used) ← ExceptT.mk (pure (buildText session tree predicate format))
    return (text ++ "\n", used)
  | .functions configPath => ExceptT.run do
    let config ← ExceptT.mk (readConfig readFile configPath)
    return (config.functionRegistry.listing color, .empty)

/-- The note on the used macros, if there are any. -/
def macroNote (color : Bool) (used : UsedMacros) : String :=
  if used.names.isEmpty then ""
  else renderNote color ("used macros: "
    ++ String.ofList (List.intercalate [',', ' '] (used.names.map String.toList))) ++ "\n"

/-- What a request leaves behind. -/
def Request.run (request : Request) : m Output := do
  let color := wantsColor request.color
  match ← request.command.text readFile color with
  | .ok (text, used) => return ⟨0, text, if request.verbose then macroNote color used else ""⟩
  | .error failure => return ⟨1, "", failure.render color ++ "\n"⟩

end

/-- The name and the version of the program. -/
def versionLine : String := "jpql 0.1.0\n"

/-- What a command line leaves behind. -/
def run {m : Type → Type} [Monad m] (readFile : String → m (Except String ByteArray))
    (arguments : List String) : m Output :=
  match Request.ofArguments arguments with
  | .ok request => request.run readFile
  | .error .version => return ⟨0, versionLine, ""⟩
  | .error .usage => return ⟨2, "", "usage: jpql [-v] [--color MODE] (build TREE | functions)\n"⟩

end QueryExpr.CommandLine
