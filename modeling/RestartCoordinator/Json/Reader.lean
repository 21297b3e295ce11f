import RestartCoordinator.Binary64.Reader
import RestartCoordinator.Json
/-!
# Reading JSON

`Json.parse?` reads a text that holds one value and nothing after it but blanks. A step on the text
never gives back more than it got, so the length of the text bounds the depth of the recursion. A
value that is nested too deep is refused, and so is a number that `Binary64` cannot hold.
-/
namespace RestartCoordinator.Json
open Text (isDigit digitsValue surrogates?)

/-- The blanks that may stand between the parts of a value. -/
def skip (s : List Char) : List Char :=
  s.dropWhile fun c => c = ' ' || c = '\n' || c = '\r' || c = '\t'

/-- The characters that a backslash and one more character stand for. -/
def shortEscape? (c : Char) : Option Char :=
  if c = '"' then some '"'
  else if c = '\\' then some '\\'
  else if c = '/' then some '/'
  else if c = 'b' then some (Char.ofNat 8)
  else if c = 'f' then some (Char.ofNat 12)
  else if c = 'n' then some '\n'
  else if c = 'r' then some '\r'
  else if c = 't' then some '\t'
  else none

/-- The rest of a string after its opening quote; `read` holds what was read, last first. -/
def stringTail? : Nat → List Char → List Char → Option (String × List Char)
  | 0, _, _ => none
  | _ + 1, _, [] => none
  | fuel + 1, read, c :: s =>
    if c = '"' then some (String.ofList read.reverse, s)
    else if c = '\\' then
      match s with
      | 'u' :: s => do
        let (c, s) ← surrogates? s
        stringTail? fuel (c :: read) s
      | e :: s => do
        let c ← shortEscape? e
        stringTail? fuel (c :: read) s
      | [] => none
    else if c.toNat < 32 then none
    else stringTail? fuel (c :: read) s

/-- A number: an optional sign, digits without a needless zero in front, and perhaps a fraction and
an exponent. -/
def number? (s : List Char) : Option (Json × List Char) := do
  let (sign, body) := match s with
    | '-' :: r => (['-'], r)
    | r => ([], r)
  let whole := body.takeWhile isDigit
  let rest := body.dropWhile isDigit
  if whole.isEmpty ∨ (whole.length > 1 ∧ whole.head? = some '0') then none
  let (fraction, rest) ← match rest with
    | '.' :: r =>
      let digits := r.takeWhile isDigit
      if digits.isEmpty then none else some ('.' :: digits, r.dropWhile isDigit)
    | r => some ([], r)
  let (exponent, rest) ← match rest with
    | c :: r =>
      if c = 'e' ∨ c = 'E' then
        let (mark, r) := match r with
          | '+' :: r => (['+'], r)
          | '-' :: r => (['-'], r)
          | r => ([], r)
        let digits := r.takeWhile isDigit
        if digits.isEmpty then none else some (c :: mark ++ digits, r.dropWhile isDigit)
      else some ([], rest)
    | [] => some ([], [])
  let text := sign ++ whole ++ fraction ++ exponent
  if (Binary64.ofText? text) matches some (.infinite _) then none
  else if fraction.isEmpty ∧ exponent.isEmpty ∧ ¬ (sign = ['-'] ∧ digitsValue whole = 0) then
    let n : Int := digitsValue whole
    return (.int (if sign.isEmpty then n else -n), rest)
  else return (.decimal (String.ofList text), rest)

/-- The fields of an object; of a repeated key only the last one is left. -/
def lastOfEach : List (String × Json) → List (String × Json)
  | [] => []
  | f :: rest => if rest.any (·.1 == f.1) then lastOfEach rest else f :: lastOfEach rest

mutual

def value? : Nat → List Char → Option (Json × List Char)
  | 0, _ => none
  | fuel + 1, s =>
    match skip s with
    | 'n' :: 'u' :: 'l' :: 'l' :: r => some (.null, r)
    | 't' :: 'r' :: 'u' :: 'e' :: r => some (.bool true, r)
    | 'f' :: 'a' :: 'l' :: 's' :: 'e' :: r => some (.bool false, r)
    | '"' :: r => (stringTail? (r.length + 1) [] r).map fun (t, r) => (.str t, r)
    | '[' :: r =>
      match skip r with
      | ']' :: r => some (.arr [], r)
      | r => (items? fuel r).map fun (vs, r) => (.arr vs, r)
    | '\x7b' :: r =>
      match skip r with
      | '\x7d' :: r => some (.obj [], r)
      | r => (fields? fuel r).map fun (fs, r) => (.obj (lastOfEach fs), r)
    | r => number? r

/-- One or more values, and the bracket that closes them. -/
def items? : Nat → List Char → Option (List Json × List Char)
  | 0, _ => none
  | fuel + 1, s => do
    let (v, r) ← value? fuel s
    match skip r with
    | ',' :: r => do
      let (vs, r) ← items? fuel r
      return (v :: vs, r)
    | ']' :: r => return ([v], r)
    | _ => none

/-- One or more keys with their values, and the brace that closes them. -/
def fields? : Nat → List Char → Option (List (String × Json) × List Char)
  | 0, _ => none
  | fuel + 1, s =>
    match skip s with
    | '"' :: r => do
      let (key, r) ← stringTail? (r.length + 1) [] r
      match skip r with
      | ':' :: r => do
        let (v, r) ← value? fuel r
        match skip r with
        | ',' :: r => do
          let (fs, r) ← fields? fuel r
          return ((key, v) :: fs, r)
        | '\x7d' :: r => return ([(key, v)], r)
        | _ => none
      | _ => none
    | _ => none

end

/-- The deepest nesting that is read. -/
def deepest : Nat := 127

def parse? (text : String) : Option Json := do
  let s := text.toList
  let (v, rest) ← value? (s.length + 1) s
  if (skip rest).isEmpty ∧ v.depth ≤ deepest then return v else none

end RestartCoordinator.Json
