import Datapack.CommandLine.Console
import Datapack.Compile
import Datapack.Event.Setting

namespace Datapack

structure World (m : Type → Type) where
  console : Console m
  files : FileSystem m

inductive Stage
  | resolving
  | compiling (source : Path)
  deriving DecidableEq, Repr

def Stage.text : Stage → Text
  | .resolving => "Resolving input/output paths".toList
  | .compiling source => "Compiling ".toList ++ source.text

inductive Ending
  | stopped (stop : Stop)
  | failed (stage : Stage) (failure : Failure)
  | created (target : Path)
  deriving DecidableEq, Repr

namespace Ending

def exitCode : Ending → Nat
  | .created _ => 0
  | .failed _ _ => 1
  | .stopped stop => if stop.isRefusal then 2 else 0

def output : Ending → Text
  | .created target => "Datapack created successfully at: ".toList ++ target.text ++ ['\n']
  | .failed _ _ => []
  | .stopped stop => if stop.isRefusal then [] else stop.text

def complaint : Ending → Text
  | .created _ => []
  | .failed stage failure =>
      "Error creating datapack: ".toList ++ stage.text ++ ": ".toList ++ failure.chain ++ ['\n']
  | .stopped stop => if stop.isRefusal then stop.text else []

end Ending

namespace Session

variable {m : Type → Type} [Monad m]

def start (world : World m) (options : Options) : m (Ending × List Event) := do
  match ← world.console.resolve options with
  | .error failure => pure (.failed .resolving failure, [])
  | .ok (source, target) =>
      let compilation ← Compilation.onFiles world.files source target
      match compilation.result with
      | .error failure => pure (.failed (.compiling source) failure, compilation.events)
      | .ok _ => pure (.created target, compilation.events)

/-- A log setting that can be read goes before the verbosity flags. -/
def filter (options : Options) (setting : Option Text) : Event.Filter :=
  (setting.bind Event.Filter.ofSetting?).getD (.ofLimit options.limit)

def run (world : World m) (arguments : List Text) (setting : Option Text) :
    m (Ending × List Event) :=
  match Options.ofArguments arguments with
  | .error stop => pure (.stopped stop, [])
  | .ok options => do
      let (ending, events) ← start world options
      pure (ending, (filter options setting).apply events)

end Session

end Datapack
