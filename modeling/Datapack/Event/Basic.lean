import Datapack.Pack.Layout
import Datapack.Statement.Basic
import Datapack.Text.Escape

namespace Datapack

inductive Level
  | error | warn | info | debug | trace
  deriving DecidableEq, Repr

namespace Level

/-- Smaller is more severe. -/
def rank : Level → Nat
  | .error => 1
  | .warn => 2
  | .info => 3
  | .debug => 4
  | .trace => 5

def all : List Level := [.error, .warn, .info, .debug, .trace]

def word : Level → Text
  | .error => "error".toList
  | .warn => "warn".toList
  | .info => "info".toList
  | .debug => "debug".toList
  | .trace => "trace".toList

def label : Level → Text
  | .error => "ERROR".toList
  | .warn => "WARN".toList
  | .info => "INFO".toList
  | .debug => "DEBUG".toList
  | .trace => "TRACE".toList

end Level

inductive Event
  | sourceRead (size : Nat)
  | linesFound (count : Nat)
  | lineRead (number : Nat) (kind : Kind)
  | lineDropped (number : Nat) (text : Text)
  | bodyOpened (name : Text)
  | bodyClosed (name : Text) (commands : Nat)
  | bodyReplaced (name : Text)
  | loadReplaced (commands : Nat)
  | tagUndeclared (tag : Text)
  | packRendered (files functions : Nat)
  | packCompiled (functions lines : Nat)
  | fileWritten (path : Path)
  deriving DecidableEq, Repr

namespace Event

def level : Event → Level
  | .lineDropped _ _ | .bodyReplaced _ | .loadReplaced _ | .tagUndeclared _ => .warn
  | .bodyClosed _ _ | .packRendered _ _ | .packCompiled _ _ | .fileWritten _ => .info
  | .sourceRead _ | .linesFound _ | .lineRead _ _ | .bodyOpened _ => .debug

def target : Event → Text
  | .sourceRead _ | .linesFound _ => "mcpack::parser".toList
  | .lineRead _ _ | .lineDropped _ _ | .bodyOpened _ | .bodyClosed _ _ | .bodyReplaced _ =>
      "mcpack::processor::block_parser".toList
  | .loadReplaced _ | .tagUndeclared _ | .packRendered _ _ =>
      "mcpack::processor::assembler".toList
  | .packCompiled _ _ => "mcpack".toList
  | .fileWritten _ => "mcpack::writer".toList

def quoted (t : Text) : Text := '`' :: t ++ ['`']

def message : Event → Text
  | .sourceRead size => "source loaded, size: ".toList ++ Text.ofNat size ++ " bytes".toList
  | .linesFound count => "found ".toList ++ Text.ofNat count ++ " source lines".toList
  | .lineRead number kind => "line ".toList ++ Text.ofNat number ++ ": ".toList ++ kind.label
  | .lineDropped number text =>
      "line ".toList ++ Text.ofNat number ++ ": dropping unrecognised line ".toList ++ quoted text
  | .bodyOpened name => "opening function ".toList ++ quoted name
  | .bodyClosed name commands =>
      "function ".toList ++ quoted name ++ " has ".toList ++ Text.ofNat commands ++
        " commands".toList
  | .bodyReplaced name =>
      "function ".toList ++ quoted name ++
        " declared more than once, keeping the last body".toList
  | .loadReplaced commands =>
      "function ".toList ++ quoted Layout.loadName ++ " body (".toList ++ Text.ofNat commands ++
        " commands) replaced by the load message".toList
  | .tagUndeclared tag =>
      "tag ".toList ++ quoted tag ++ " references ".toList ++ Layout.functionId tag ++
        ", which was never declared".toList
  | .packRendered files functions =>
      "rendered ".toList ++ Text.ofNat files ++ " files for ".toList ++ Text.ofNat functions ++
        " functions".toList
  | .packCompiled functions lines =>
      Text.ofNat functions ++ " functions compiled from ".toList ++ Text.ofNat lines ++
        " lines".toList
  | .fileWritten path => "wrote ".toList ++ path.text

def shown (event : Event) : Text := event.message.escapeControls

end Event

end Datapack
