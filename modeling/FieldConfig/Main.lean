import FieldConfig.CommandLine

set_option autoImplicit false

namespace FieldConfig

def reason : IO.Error → String
  | .noFileOrDirectory .. => FileFault.notFound.reason
  | .alreadyExists .. => FileFault.alreadyThere.reason
  | .inappropriateType .. => FileFault.isDirectory.reason
  | .permissionDenied .. => "Permission denied (os error 13)"
  | fault => toString fault

def readInput (path : String) : IO Options.Input := do
  try
    return .ok (← IO.FS.readFile path)
  catch fault => return .error (reason fault)

def perform : Action → IO Unit
  | .makeDirectories path => IO.FS.createDirAll path
  | .write path (.text text) => IO.FS.writeFile path text
  | .write path (.bytes bytes) => IO.FS.writeBinFile path bytes.toByteArray

def performAll : List Action → IO (Except Failure Unit)
  | [] => return .ok ()
  | action :: rest => do
    let fault? ← try perform action; pure none catch fault => pure (some (reason fault))
    match fault? with
    | some cause => return .error ⟨action.context, cause⟩
    | none => performAll rest

def run (options : Options) : IO (Except Failure Unit) := do
  let config ← options.config.mapM fun path => readInput path
  let topology ← readInput options.topology
  match options.plan config topology with
  | .error failure => return .error failure
  | .ok actions => performAll actions

def usage : String :=
  "\n".intercalate
    ["Usage: otsim-compiler [OPTIONS] --topology <TOPOLOGY>",
     "",
     "Options:",
     "  -c, --config <CONFIG>        App configuration (JSON5)",
     "  -t, --topology <TOPOLOGY>    Topology (JSON5)",
     "  -o, --output <OUTPUT>        Directory of the documents [default: otsim]",
     "  -f, --format <FORMAT>        xml, json or cbor [default: xml]",
     "      --log-level <LOG_LEVEL>  Log level",
     "  -h, --help                   Print help",
     "  -V, --version                Print version",
     ""]

end FieldConfig

def main (args : List String) : IO UInt32 := do
  match FieldConfig.Request.ofArgs? args with
  | none =>
    IO.eprint FieldConfig.usage
    return 2
  | some .version =>
    IO.print FieldConfig.versionText
    return 0
  | some .help =>
    IO.print FieldConfig.usage
    return 0
  | some (.run options) =>
    match ← FieldConfig.run options with
    | .ok () => return 0
    | .error failure =>
      IO.eprintln failure.message
      return 1
