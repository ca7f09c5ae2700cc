import Datapack.Event.Basic

namespace Datapack

structure Options where
  input : Option Text
  output : Option Text
  verbosity : Nat
  deriving DecidableEq, Repr

inductive Stop
  | help | version
  | unknownArgument | tooManyValues | invalidValue
  deriving DecidableEq, Repr

namespace Stop

def isRefusal : Stop → Bool
  | .help | .version => false
  | .unknownArgument | .tooManyValues | .invalidValue => true

def text : Stop → Text
  | .help =>
      Text.unlines ["Compile a .mc script into a datapack".toList, [],
        "Usage: mcpack [OPTIONS] [INPUT] [OUTPUT]".toList, [],
        "Arguments:".toList,
        "  [INPUT]   Input .mc source file (prompted for when omitted)".toList,
        "  [OUTPUT]  Datapack export directory (prompted for when omitted)".toList, [],
        "Options:".toList,
        "  -v, --verbose...  More log output (-v info, -vv debug, -vvv trace)".toList,
        "  -h, --help        Print help".toList,
        "  -V, --version     Print version".toList]
  | .version => "mcpack 0.1.0\n".toList
  | .unknownArgument => "error: unexpected argument\n".toList
  | .tooManyValues => "error: unexpected value for a flag\n".toList
  | .invalidValue => "error: a path cannot be empty\n".toList

end Stop

namespace Options

def start : Options := ⟨none, none, 0⟩

/-- An empty path is noticed when the next argument has been recognised, or at
the end, so an argument that is not recognised is reported first. -/
def settled (o : Options) : Except Stop Options :=
  if o.input = some [] || o.output = some [] then .error .invalidValue else .ok o

def louder (o : Options) : Options := { o with verbosity := min 255 (o.verbosity + 1) }

def addPath (o : Options) (argument : Text) : Except Stop Options :=
  match o.input, o.output with
  | none, _ => .ok { o with input := some argument }
  | some _, none => do
      let o ← o.settled
      .ok { o with output := some argument }
  | some _, some _ => .error .unknownArgument

def addFlags (o : Options) : Text → Except Stop Options
  | [] => .ok o
  | c :: letters =>
      if c = 'v' then do
        let o ← o.settled
        o.louder.addFlags letters
      else if c = 'h' then do
        let _ ← o.settled
        .error .help
      else if c = 'V' then do
        let _ ← o.settled
        .error .version
      else .error .unknownArgument

def addLongFlag (o : Options) (argument : Text) : Except Stop Options :=
  let name := argument.takeWhile (· ≠ '=')
  if name = "verbose".toList || name = "help".toList || name = "version".toList then
    if argument.contains '=' then .error .tooManyValues
    else do
      let o ← o.settled
      if name = "help".toList then .error .help
      else if name = "version".toList then .error .version
      else .ok o.louder
  else .error .unknownArgument

/-- After two dashes alone every argument is a path. One dash alone always is. -/
def addAll (o : Options) (onlyPaths : Bool) : List Text → Except Stop Options
  | [] => o.settled
  | argument :: rest =>
      if onlyPaths then do
        let o ← o.addPath argument
        o.addAll true rest
      else
        match argument with
        | ['-', '-'] => o.addAll true rest
        | '-' :: '-' :: t => do
            let o ← o.addLongFlag t
            o.addAll false rest
        | '-' :: c :: t => do
            let o ← o.addFlags (c :: t)
            o.addAll false rest
        | t => do
            let o ← o.addPath t
            o.addAll false rest

def ofArguments (arguments : List Text) : Except Stop Options := start.addAll false arguments

def limit (o : Options) : Level :=
  match o.verbosity with
  | 0 => .warn
  | 1 => .info
  | 2 => .debug
  | _ => .trace

end Options

end Datapack
