import RestartCoordinator.Toml
import RestartCoordinator.Toml.Lexical
/-!
# Numbers and times of TOML

Whole numbers are those of 64 bits with a sign, and other numbers are those of `Binary64`. An
underscore may stand between two digits. Times are checked and written anew in one form.
-/
namespace RestartCoordinator.Toml
open Text

/-- Digits with single underscores between them, the first of which was read before. -/
def moreDigits (ok : Char → Bool) : List Char → List Char × List Char
  | '_' :: c :: r =>
    if ok c then
      let (ds, r) := moreDigits ok r
      (c :: ds, r)
    else ([], '_' :: c :: r)
  | c :: r =>
    if ok c then
      let (ds, r) := moreDigits ok r
      (c :: ds, r)
    else ([], c :: r)
  | [] => ([], [])

/-- One or more digits with single underscores between them. -/
def digits? (ok : Char → Bool) : Reader (List Char)
  | c :: r =>
    if ok c then
      let (ds, r) := moreDigits ok r
      some (c :: ds, r)
    else none
  | [] => none

/-- Whether a number is negative, by its sign. -/
def sign : List Char → Bool × List Char
  | '-' :: r => (true, r)
  | '+' :: r => (false, r)
  | s => (false, s)

/-- Digits without a needless zero in front. -/
def whole? : Reader (List Char)
  | '0' :: r => some (['0'], r)
  | s => digits? isDigit s

/-- A value if it fits in 64 bits with a sign. -/
def int64? (n : Int) : Option Toml :=
  if Int64.minValue.toInt ≤ n ∧ n ≤ Int64.maxValue.toInt then some (.int n) else none

/-- A number in another base, after its mark. -/
def based? (base : Nat) (s : List Char) : Option (Toml × List Char) := do
  let (ds, r) ← digits? (fun c => ((hexValue? c).any (· < base))) s
  let n ← valueIn? base ds
  return (← int64? n, r)

def integer? : Reader Toml
  | '0' :: 'x' :: r => based? 16 r
  | '0' :: 'o' :: r => based? 8 r
  | '0' :: 'b' :: r => based? 2 r
  | s => do
    let (negative, r) := sign s
    let (ds, r) ← whole? r
    let n : Int := digitsValue ds
    return (← int64? (if negative then -n else n), r)

/-- A fraction, if there is one. -/
def fraction? : Reader (List Char)
  | '.' :: r => digits? isDigit r
  | r => some ([], r)

/-- The exponent, if there is one. -/
def exponent? : Reader (Option Int)
  | c :: r =>
    if c = 'e' || c = 'E' then do
      let (negative, r) := sign r
      let (ds, r) ← digits? isDigit r
      let n : Int := digitsValue ds
      return (some (if negative then -n else n), r)
    else some (none, c :: r)
  | [] => some (none, [])

/-- A number with a fraction or an exponent. One that is too great is refused, unless it is
negative. -/
def decimal? (s : List Char) : Option (Toml × List Char) := do
  let (negative, r) := sign s
  let (ds, r) ← whole? r
  let (fs, r) ← fraction? r
  let (e, r) ← exponent? r
  if fs.isEmpty && e.isNone then none
  let x := Binary64.ofDecimal negative (digitsValue (ds ++ fs)) (e.getD 0 - fs.length)
  if x = .infinite false then none else return (.float x, r)

/-- The names of the numbers that have no digits. -/
def special? (s : List Char) : Option (Toml × List Char) :=
  match sign s with
  | (negative, 'i' :: 'n' :: 'f' :: r) => some (.float (.infinite negative), r)
  | (_, 'n' :: 'a' :: 'n' :: r) => some (.float .nan, r)
  | _ => none

/-- So many digits that write a number between two bounds, ends included. -/
def counted? (width low high : Nat) (s : List Char) : Option (Nat × List Char) :=
  let ds := s.take width
  let n := digitsValue ds
  if ds.length = width ∧ ds.all isDigit ∧ low ≤ n ∧ n ≤ high then some (n, s.drop width) else none

/-- The number of days of a month. -/
def daysIn (year month : Nat) : Nat :=
  if month = 2 then if (year % 4 = 0 ∧ year % 100 ≠ 0) ∨ year % 400 = 0 then 29 else 28
  else if month ∈ [4, 6, 9, 11] then 30
  else 31

def expect (c : Char) : List Char → Option (List Char)
  | d :: r => if d = c then some r else none
  | [] => none

def date? (s : List Char) : Option (List Char × List Char) := do
  let (year, r) ← counted? 4 0 9999 s
  let r ← expect '-' r
  let (month, r) ← counted? 2 1 12 r
  let r ← expect '-' r
  let (day, r) ← counted? 2 1 (daysIn year month) r
  return (padded 4 year ++ '-' :: padded 2 month ++ '-' :: padded 2 day, r)

/-- The fraction of a second in the form in which it is written anew: nine digits at most and no
zeros at the end. -/
def subsecond? : Reader (List Char)
  | '.' :: r =>
    let ds := r.takeWhile isDigit
    if ds.isEmpty then none
    else
      let kept := ((ds.take 9).reverse.dropWhile (· = '0')).reverse
      some (if kept.isEmpty then [] else '.' :: kept, r.dropWhile isDigit)
  | r => some ([], r)

/-- How far times may go. -/
structure TimeBounds where
  lastHour : Nat
  /-- The distances from universal time, in hours and minutes, that are taken. -/
  takesDistance : Nat → Nat → Bool

/-- The bounds for times that stand for themselves. -/
def TimeBounds.strict : TimeBounds := ⟨23, fun hour minute => hour ≤ 23 && minute ≤ 59⟩

def time? (b : TimeBounds) (s : List Char) : Option (List Char × List Char) := do
  let (hour, r) ← counted? 2 0 b.lastHour s
  let r ← expect ':' r
  let (minute, r) ← counted? 2 0 59 r
  let r ← expect ':' r
  let (second, r) ← counted? 2 0 60 r
  let (fraction, r) ← subsecond? r
  return (padded 2 hour ++ ':' :: padded 2 minute ++ ':' :: padded 2 second ++ fraction, r)

/-- The distance from universal time, if it is told. -/
def offset? (b : TimeBounds) : Reader (List Char)
  | c :: r =>
    if c = 'Z' || c = 'z' then some (['Z'], r)
    else if c = '+' || c = '-' then do
      let (hour, r) ← counted? 2 0 99 r
      let r ← expect ':' r
      let (minute, r) ← counted? 2 0 99 r
      if !b.takesDistance hour minute then none
      let total := hour * 60 + minute
      let c := if total = 0 then '+' else c
      return (c :: padded 2 (total / 60) ++ ':' :: padded 2 (total % 60), r)
    else some ([], c :: r)
  | [] => some ([], [])

/-- What follows a date: a mark and a time, or nothing. -/
def afterDate? (b : TimeBounds) : Reader (List Char)
  | c :: r =>
    if c = 'T' || c = 't' || c = ' ' then
      match time? b r with
      | none => some ([], c :: r)
      | some (time, r) => do
        let (offset, r) ← offset? b r
        return ('T' :: time ++ offset, r)
    else some ([], c :: r)
  | [] => some ([], [])

/-- A date, a time or both. -/
def moment? (b : TimeBounds) (s : List Char) : Option (Toml × List Char) :=
  match date? s with
  | some (date, r) =>
    (afterDate? b r).map fun (time, r) => (.moment (String.ofList (date ++ time)), r)
  | none => (time? b s).map fun (time, r) => (.moment (String.ofList time), r)

/-- A number or a time. -/
def number? (s : List Char) : Option (Toml × List Char) :=
  moment? .strict s <|> decimal? s <|> special? s <|> integer? s

end RestartCoordinator.Toml
