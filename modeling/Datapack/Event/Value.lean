import Datapack.Pattern.Reader

namespace Datapack.Event

namespace Value

def withoutSign : Text → Text
  | '+' :: t | '-' :: t => t
  | t => t

def isDigits (t : Text) : Bool := !t.isEmpty && t.all Char.isDigit

def isMantissa (t : Text) : Bool :=
  let whole := t.takeWhile Char.isDigit
  match t.drop whole.length with
  | '.' :: fraction => fraction.all Char.isDigit && !(whole ++ fraction).isEmpty
  | rest => rest.isEmpty && !whole.isEmpty

def isExponentMark (c : Char) : Bool := c = 'e' || c = 'E'

def isDecimal (t : Text) : Bool :=
  let mantissa := t.takeWhile (fun c => !isExponentMark c)
  isMantissa mantissa &&
    match t.drop mantissa.length with
    | [] => true
    | _ :: exponent => isDigits (withoutSign exponent)

def specialWords : List Text := ["inf", "infinity", "nan"].map String.toList

def isNumber (t : Text) : Bool :=
  let magnitude := withoutSign t
  isDecimal magnitude || specialWords.contains (magnitude.map Char.toLower)

end Value

/-- The value that a field is to have is a number or else a pattern. No pattern
begins with a plus sign, but a number may. -/
def isValue (t : Text) : Bool := Value.isNumber t || Pattern.isUsable t

end Datapack.Event
