import RestartCoordinator.Text.Visible
/-!
# Quoted text

A text between double quotes in which every hidden character is written by an escape, so that the
quoted form shows exactly what the text holds.
-/
namespace RestartCoordinator.Text

/-- The digits of a number in base sixteen, in lower case and without leading zeros. -/
def hex (n : Nat) : List Char :=
  Nat.toDigits 16 n

/-- The escape of one character: five have a short form, the other hidden ones show their code
point, and visible characters stand for themselves. -/
def escape (c : Char) : List Char :=
  if c = '\t' then ['\\', 't']
  else if c = '\n' then ['\\', 'n']
  else if c = '\r' then ['\\', 'r']
  else if c.toNat = 0 then ['\\', '0']
  else if c = '\\' then ['\\', '\\']
  else if c = '"' then ['\\', '"']
  else if isHidden c then ['\\', 'u', '\x7b'] ++ hex c.toNat ++ ['\x7d']
  else [c]

/-- The text between double quotes, hidden characters escaped. -/
def quote (s : String) : String :=
  String.ofList ('"' :: s.toList.flatMap escape ++ ['"'])

end RestartCoordinator.Text
