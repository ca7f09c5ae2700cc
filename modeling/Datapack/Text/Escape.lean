import Datapack.Text.Basic

namespace Datapack.Text

def hexDigits (n : Nat) : Text := [Nat.digitChar (n / 16 % 16), Nat.digitChar (n % 16)]

/-- Bell, backspace, form feed, escape and delete, and the controls above ASCII,
are what a terminal may take for an order. Other controls are left alone. -/
def escapeChar (c : Char) : Text :=
  if c ∈ ['\x07', '\x08', '\x0c', '\x1b', '\x7f'] then '\\' :: 'x' :: hexDigits c.toNat
  else if '\u0080' ≤ c && c ≤ '\u009f' then '\\' :: 'u' :: '{' :: hexDigits c.toNat ++ ['}']
  else [c]

def escapeControls (t : Text) : Text := t.flatMap escapeChar

end Datapack.Text
