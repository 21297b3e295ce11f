import RestartCoordinator.Text.Digits
/-!
# Readers

A reader takes the rest of a text and gives back what it read together with what is left, or nothing
if the text does not begin with what it reads.
-/
namespace RestartCoordinator.Text

abbrev Reader (α : Type) := List Char → Option (α × List Char)

/-- The text after a word at its beginning. -/
def after? (word : String) (s : List Char) : Option (List Char) :=
  let w := word.toList
  if s.take w.length = w then some (s.drop w.length) else none

/-- The character of a code point, unless that is a surrogate or too great. -/
def charOf? (n : Nat) : Option Char :=
  if n < 0xd800 ∨ (0xdfff < n ∧ n ≤ 0x10ffff) then some (Char.ofNat n) else none

/-- The number of so many hexadecimal digits. -/
def hexDigits? (width : Nat) : Reader Nat := fun s => do
  let digits := s.take width
  if digits.length < width then none
  return (← valueIn? 16 digits, s.drop width)

/-- The character of so many hexadecimal digits. -/
def codePoint? (width : Nat) : Reader Char := fun s => do
  let (n, r) ← hexDigits? width s
  return (← charOf? n, r)

/-- The character of four hexadecimal digits, or of two groups of them that make a pair of
surrogates, with a backslash and `u` before the second one. -/
def surrogates? : Reader Char := fun s => do
  let (unit, r) ← hexDigits? 4 s
  if 0xd800 ≤ unit ∧ unit < 0xdc00 then
    let (low, r) ← hexDigits? 4 (← after? "\\u" r)
    if 0xdc00 ≤ low ∧ low < 0xe000 then
      return (Char.ofNat (0x10000 + (unit - 0xd800) * 0x400 + (low - 0xdc00)), r)
    else none
  else return (← charOf? unit, r)

end RestartCoordinator.Text
