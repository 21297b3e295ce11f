import RestartCoordinator.Binary64
import RestartCoordinator.Text.Reader
/-!
# Reading numbers

`Binary64.ofText?` reads a decimal: perhaps a sign, digits with perhaps a point among them or at one
end, and perhaps an exponent. The numbers that have no digits are read by their names.
-/
namespace RestartCoordinator.Binary64
open Text

/-- Whether a number is negative, by its sign. -/
def sign : List Char → Bool × List Char
  | '-' :: r => (true, r)
  | '+' :: r => (false, r)
  | s => (false, s)

/-- The exponent with its mark, or zero where there is none. -/
def exponent? : Reader Int
  | c :: r =>
    if c = 'e' || c = 'E' then
      let (negative, r) := sign r
      let n : Int := digitsValue (r.takeWhile isDigit)
      if (r.takeWhile isDigit).isEmpty then none
      else some (if negative then -n else n, r.dropWhile isDigit)
    else some (0, c :: r)
  | [] => some (0, [])

/-- A number that is written by a name. -/
def named? (negative : Bool) (name : List Char) : Option Binary64 :=
  let name := String.ofList (name.map Char.toLower)
  if name = "inf" ∨ name = "infinity" then some (.infinite negative)
  else if name = "nan" then some .nan
  else none

/-- A number that is written in digits. -/
def written? (negative : Bool) (s : List Char) : Option Binary64 := do
  let whole := s.takeWhile isDigit
  let (fraction, r) := match s.dropWhile isDigit with
    | '.' :: r => (r.takeWhile isDigit, r.dropWhile isDigit)
    | r => ([], r)
  let (e, r) ← exponent? r
  if (whole.isEmpty && fraction.isEmpty) || !r.isEmpty then none
  return ofDecimal negative (digitsValue (whole ++ fraction)) (e - fraction.length)

/-- The number that is all of a text. -/
def ofText? (s : List Char) : Option Binary64 :=
  let (negative, r) := sign s
  written? negative r <|> named? negative r

end RestartCoordinator.Binary64
