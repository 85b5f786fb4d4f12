import FieldConfig.Compilation
import FieldConfig.FileStore
import FieldConfig.Topology.Reader

set_option autoImplicit false

/-!
The command line: its options, and what a run writes. A run first reads both of its inputs and
compiles; only then does it make the output directory and write one file after the other.
-/
namespace FieldConfig

structure Options where
  config : Option String := none
  topology : String
  output : String := "otsim"
  format : Format := .xml
  logLevel : Option String := none
deriving DecidableEq, Repr

inductive Request where
  | version
  | help
  | run (options : Options)
deriving DecidableEq, Repr

namespace Request

structure Draft where
  config : Option String := none
  topology : Option String := none
  output : Option String := none
  format : Option Format := none
  logLevel : Option String := none
deriving DecidableEq, Repr

inductive OptionName where
  | config
  | topology
  | output
  | format
  | logLevel
deriving DecidableEq, Repr

def option? : String → Option OptionName
  | "config" => some .config
  | "topology" => some .topology
  | "output" => some .output
  | "format" => some .format
  | "log-level" => some .logLevel
  | _ => none

def request? : String → Option Request
  | "version" => some .version
  | "help" => some .help
  | _ => none

def longName : Char → String
  | 'c' => "config"
  | 't' => "topology"
  | 'o' => "output"
  | 'f' => "format"
  | 'V' => "version"
  | 'h' => "help"
  | _ => ""

inductive Flag where
  | taking (option : OptionName) (value : Option String)
  | showing (request : Request)

def setOnce {α : Type} (known : Option α) (value : Option α) : Option (Option α) :=
  match known, value with
  | none, some value => some (some value)
  | _, _ => none

def path? (value : String) : Option String := if value = "" then none else some value

def Draft.set? (draft : Draft) (value : String) : OptionName → Option Draft
  | .config => do return { draft with config := ← setOnce draft.config (path? value) }
  | .topology => do return { draft with topology := ← setOnce draft.topology (path? value) }
  | .output => do return { draft with output := ← setOnce draft.output (path? value) }
  | .format => do return { draft with format := ← setOnce draft.format (Format.ofName? value) }
  | .logLevel => do return { draft with logLevel := ← setOnce draft.logLevel (some value) }

def Draft.finish? (draft : Draft) : Option Request :=
  draft.topology.map fun topology =>
    .run
      { config := draft.config
        topology
        output := draft.output.getD "otsim"
        format := draft.format.getD .xml
        logLevel := draft.logLevel }

def isValue (arg : String) : Bool :=
  match arg.toList with
  | '-' :: _ :: _ => false
  | _ => true

-- A value stands behind the equals sign of a long name, or right behind a letter.
def flag? (arg : String) : Option Flag :=
  match arg.toList with
  | '-' :: '-' :: name =>
    match Text.cut? '=' name with
    | some (name, value) =>
      (option? (String.ofList name)).map fun option => .taking option (some (String.ofList value))
    | none =>
      ((option? (String.ofList name)).map fun option => .taking option none).or
        ((request? (String.ofList name)).map .showing)
  | '-' :: letter :: value =>
    let value? :=
      match value with
      | [] => none
      | '=' :: value => some (String.ofList value)
      | value => some (String.ofList value)
    ((option? (longName letter)).map fun option => .taking option value?).or
      ((request? (longName letter)).map .showing)
  | _ => none

def collect? (draft : Draft) : List String → Option Request
  | [] => draft.finish?
  | arg :: rest =>
    match flag? arg, rest with
    | none, [] => if arg = "--" then draft.finish? else none
    | none, _ :: _ => none
    | some (.showing request), _ => some request
    | some (.taking option (some value)), rest =>
      match draft.set? value option with
      | none => none
      | some draft => collect? draft rest
    | some (.taking _ none), [] => none
    | some (.taking option none), value :: rest =>
      match if isValue value then draft.set? value option else none with
      | none => none
      | some draft => collect? draft rest

def ofArgs? (args : List String) : Option Request := collect? {} args

end Request

structure Failure where
  context : String
  cause : String
deriving DecidableEq, Repr

def Failure.message (failure : Failure) : String :=
  "Error: " ++ failure.context ++ "\n\nCaused by:\n    " ++
    String.ofList
      (failure.cause.toList.flatMap fun c => if c = '\n' then "\n    ".toList else [c])

inductive Action where
  | makeDirectories (path : String)
  | write (path : String) (content : Content)
deriving DecidableEq, Repr

def Action.context : Action → String
  | .makeDirectories path => "Failed to create output directory " ++ Text.quoted path
  | .write path _ => "Failed to write " ++ Text.quoted path

def Inject.tree (inject : Inject) : Tree :=
  .object
    [("hostname", .text inject.hostname), ("src", .text inject.source),
     ("dst", .text inject.destination)]

namespace Options

abbrev Input := Except String String

def readSettings (path : String) (input : Input) : Except Failure Settings :=
  let settings : Except CompileError Settings := do
    Settings.ofText (some path) (← input.mapError (.unopened path))
  settings.mapError fun fault =>
    ⟨"Failed to load config from " ++ Text.quoted path, fault.message⟩

def readTopology (path : String) (input : Input) : Except Failure Topology := do
  let text ← input.mapError fun reason =>
    ⟨"Failed to read topology from " ++ Text.quoted path, reason⟩
  (Topology.ofText text).mapError fun fault =>
    ⟨"Failed to parse topology " ++ Text.quoted path, fault.message⟩

def writes (options : Options) (compilation : Compilation) : List (String × Content) :=
  let injects := compilation.injects options.output options.format
  (compilation.devices.map fun device =>
      (joinPath options.output (device.fileName options.format),
        options.format.render device.document)) ++
    [(joinPath options.output "injects.json",
      .text (Tree.array (injects.map Inject.tree)).toJson)] ++
    if compilation.brokers = [] then []
    else
      [(joinPath options.output "brokers.json",
        .text (Tree.array (compilation.brokers.map BrokerHost.tree)).toJson)]

def actions (options : Options) (compilation : Compilation) : List Action :=
  .makeDirectories options.output ::
    (options.writes compilation).map fun (path, content) => .write path content

def plan (options : Options) (config : Option Input) (topology : Input) :
    Except Failure (List Action) := do
  let settings ←
    match options.config, config with
    | some path, some input => readSettings path input
    | _, _ => pure {}
  let topology ← readTopology options.topology topology
  let compilation ← (compile settings topology).mapError fun fault =>
    ⟨"Compilation failed", fault.message⟩
  return options.actions compilation

end Options

namespace FileStore

def perform (store : FileStore) (action : Action) : Except FileFault FileStore :=
  match action with
  | .makeDirectories path => store.makeDirectories path
  | .write path content => store.write path content

def performAll (store : FileStore) : List Action → FileStore × Except Failure Unit
  | [] => (store, .ok ())
  | action :: rest =>
    match store.perform action with
    | .error fault => (store, .error ⟨action.context, fault.reason⟩)
    | .ok store => store.performAll rest

def input (store : FileStore) (path : String) : Options.Input :=
  match store.read path with
  | .ok (.text text) => .ok text
  | .ok (.bytes _) => .error "stream did not contain valid UTF-8"
  | .error fault => .error fault.reason

def run (store : FileStore) (options : Options) : FileStore × Except Failure Unit :=
  match options.plan (options.config.map store.input) (store.input options.topology) with
  | .error failure => (store, .error failure)
  | .ok actions => store.performAll actions

end FileStore

def versionText : String := "otsim-compiler 0.2.0\n"

end FieldConfig
