import Datapack.Path

namespace Datapack

inductive Cause
  | notFound | alreadyExists | notDirectory | isDirectory | nameTooLong
  | nulInName | notUtf8
  | other (words : Text)
  deriving DecidableEq, Repr

namespace Cause

def message : Cause → Text
  | .notFound => "No such file or directory (os error 2)".toList
  | .alreadyExists => "File exists (os error 17)".toList
  | .notDirectory => "Not a directory (os error 20)".toList
  | .isDirectory => "Is a directory (os error 21)".toList
  | .nameTooLong => "File name too long (os error 36)".toList
  | .nulInName => "file name contained an unexpected NUL byte".toList
  | .notUtf8 => "stream did not contain valid UTF-8".toList
  | .other words => words

end Cause

inductive Question
  | source | target
  deriving DecidableEq, Repr

namespace Question

def text : Question → Text
  | .source => "Enter the path to the .mc file: ".toList
  | .target => "Enter the export path for the Minecraft datapack: ".toList

def subject : Question → Text
  | .source => "source path".toList
  | .target => "export path".toList

end Question

/-- How a run can fail. Reading a script as a pack never does. -/
inductive Failure
  | readSource (path : Path) (cause : Cause)
  | createDirectory (path : Path) (cause : Cause)
  | writeFile (path : Path) (cause : Cause)
  | prompt (cause : Cause)
  | noAnswer (question : Question)
  deriving DecidableEq, Repr

namespace Failure

def message : Failure → Text
  | .readSource path _ => "cannot read source file ".toList ++ path.text
  | .createDirectory path _ => "cannot create directory ".toList ++ path.text
  | .writeFile path _ => "cannot write ".toList ++ path.text
  | .prompt _ => "failed to read from stdin".toList
  | .noAnswer question => "no ".toList ++ question.subject ++ " given".toList

def cause? : Failure → Option Cause
  | .readSource _ cause | .createDirectory _ cause | .writeFile _ cause | .prompt cause =>
      some cause
  | .noAnswer _ => none

def isInput : Failure → Bool
  | .readSource _ _ | .prompt _ | .noAnswer _ => true
  | .createDirectory _ _ | .writeFile _ _ => false

def chain (failure : Failure) : Text :=
  match failure.cause? with
  | none => failure.message
  | some cause => failure.message ++ ": ".toList ++ cause.message

end Failure

end Datapack
