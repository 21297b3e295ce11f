import RestartCoordinator.Binary64.Reader
import RestartCoordinator.Settings
/-!
# Settings from JSON5 files

JSON with comments, a comma after the last item, keys without quotes, strings in quotes of either
kind and over several lines, and numbers with a sign, without digits on one side of the point or in
base sixteen.
-/
namespace RestartCoordinator.Json5
open Text

def isLineEnd (c : Char) : Bool := c = '\n' || c = '\r' || c.toNat = 0x2028 || c.toNat = 0x2029

/-- Blanks: those of Unicode except the next line, and the byte order mark. -/
def isSpace (c : Char) : Bool :=
  isLineEnd c || c = '\t' || c = ' ' || [0x0b, 0x0c, 0xa0, 0x1680, 0x202f, 0x205f, 0x3000,
    0xfeff].contains c.toNat || (0x2000 ≤ c.toNat && c.toNat ≤ 0x200a)

/-- The text after a comment in marks. -/
def afterComment? : List Char → Option (List Char)
  | '*' :: '/' :: s => some s
  | _ :: s => afterComment? s
  | [] => none

/-- The text after blanks and comments. A comment that does not end is none. -/
def skip : Nat → List Char → List Char
  | 0, s => s
  | fuel + 1, s =>
    match s.dropWhile isSpace with
    | '/' :: '/' :: r => skip fuel (r.dropWhile (!isLineEnd ·))
    | '/' :: '*' :: r =>
      match afterComment? r with
      | some r => skip fuel r
      | none => '/' :: '*' :: r
    | r => r

def skipAll (s : List Char) : List Char := skip s.length s

/-- What stands after a backslash in a string: a character, or an end of line that does not
count. -/
def escape? : Reader (List Char)
  | '\r' :: '\n' :: s => some ([], s)
  | 'u' :: s => (surrogates? s).map fun (c, r) => ([c], r)
  | 'x' :: s => (codePoint? 2 s).map fun (c, r) => ([c], r)
  | c :: s =>
    if isLineEnd c then some ([], s)
    else if c = '0' then some ([Char.ofNat 0], s)
    else if isDigit c then none
    else if c = 'b' then some ([Char.ofNat 8], s)
    else if c = 'f' then some ([Char.ofNat 12], s)
    else if c = 'n' then some (['\n'], s)
    else if c = 'r' then some (['\r'], s)
    else if c = 't' then some (['\t'], s)
    else if c = 'v' then some ([Char.ofNat 11], s)
    else some ([c], s)
  | [] => none

/-- The rest of a string; `read` holds what was read, last first. -/
def stringTail? (quote : Char) : Nat → List Char → Reader String
  | 0, _, _ => none
  | _ + 1, _, [] => none
  | fuel + 1, read, c :: s =>
    if c = quote then some (String.ofList read.reverse, s)
    else if c = '\\' then do
      let (e, s) ← escape? s
      stringTail? quote fuel (e ++ read) s
    else if isLineEnd c then none
    else stringTail? quote fuel (c :: read) s

def string? : Reader String
  | c :: s => if c = '"' || c = '\'' then stringTail? c (s.length + 1) [] s else none
  | [] => none

/-- Characters that may begin a key without quotes. Of the letters beyond ASCII all are taken. -/
def isNameStart (c : Char) : Bool :=
  c.isAlpha || c = '$' || c = '_' || (0x80 ≤ c.toNat && !isSpace c)

/-- The rest of a key without quotes, in which characters may be written by their code points. -/
def nameTail? : Nat → Reader (List Char)
  | 0, s => some ([], s)
  | fuel + 1, s =>
    match s with
    | '\\' :: 'u' :: r => do
      let (c, r) ← surrogates? r
      let (cs, r) ← nameTail? fuel r
      return (c :: cs, r)
    | c :: r =>
      if isNameStart c || isDigit c then do
        let (cs, r) ← nameTail? fuel r
        return (c :: cs, r)
      else some ([], c :: r)
    | [] => some ([], [])

def key? (s : List Char) : Option (String × List Char) :=
  match string? s with
  | some found => some found
  | none => do
    if s.head?.any isDigit then none
    let (cs, r) ← nameTail? s.length s
    if cs.isEmpty then none else some (String.ofList cs, r)

/-- A whole number or one of `Binary64`, without its sign. -/
def digits? : Reader (List Char) := fun s =>
  match s with
  | '0' :: c :: r =>
    if (c = 'x' || c = 'X') && r.head?.any (fun d => (hexValue? d).isSome) then
      let isOwn := fun d => (hexValue? d).isSome
      some ('0' :: c :: r.takeWhile isOwn, r.dropWhile isOwn)
    else decimal? s
  | s => decimal? s
where
  /-- Digits with perhaps a point and an exponent; no needless zero stands in front. -/
  decimal? (s : List Char) : Option (List Char × List Char) := do
    let (whole, r) := match s with
      | '0' :: r => (['0'], r)
      | s => (s.takeWhile isDigit, s.dropWhile isDigit)
    let (fraction, r) := match r with
      | '.' :: r => ('.' :: r.takeWhile isDigit, r.dropWhile isDigit)
      | r => ([], r)
    if whole.isEmpty && fraction.length < 2 then none
    match r with
    | e :: r =>
      if e = 'e' || e = 'E' then
        let (mark, ds) := match r with
          | '+' :: r => (['+'], r)
          | '-' :: r => (['-'], r)
          | r => ([], r)
        let exponent := ds.takeWhile isDigit
        if exponent.isEmpty then return (whole ++ fraction, e :: r)
        else return (whole ++ fraction ++ e :: mark ++ exponent, ds.dropWhile isDigit)
      else return (whole ++ fraction, e :: r)
    | [] => return (whole ++ fraction, [])

/-- The value of a number as it is written. One in base sixteen has 32 bits and no sign, and any
other without a point and an exponent has 64 bits with a sign. -/
def numberOf? (sign digits : List Char) : Option Setting :=
  let isHex := digits.take 2 = ['0', 'x'] || digits.take 2 = ['0', 'X']
  if isHex then
    if !sign.isEmpty then none
    else ((valueIn? 16 (digits.drop 2)).filter (· < UInt32.size)).map fun n => .int n
  else if digits.all isDigit then
    let n : Int := digitsValue digits
    let n := if sign = ['-'] then -n else n
    if Int64.minValue.toInt ≤ n ∧ n ≤ Int64.maxValue.toInt then some (.int n) else none
  else (Binary64.ofText? (sign ++ digits)).map .float

def number? (s : List Char) : Option (Setting × List Char) := do
  let (sign, r) := match s with
    | '+' :: r => (['+'], r)
    | '-' :: r => (['-'], r)
    | r => ([], r)
  match after? "Infinity" r, after? "NaN" r with
  | some r, _ => if sign = ['+'] then none else return (.float (.infinite (sign = ['-'])), r)
  | _, some r => if sign = ['+'] then none else return (.float .nan, r)
  | none, none =>
    let (digits, r) ← digits? r
    return (← numberOf? sign digits, r)

mutual

def value? : Nat → Reader Setting
  | 0, _ => none
  | fuel + 1, s =>
    match after? "null" s, after? "true" s, after? "false" s with
    | some r, _, _ => some (.absent, r)
    | _, some r, _ => some (.bool true, r)
    | _, _, some r => some (.bool false, r)
    | _, _, _ =>
      match s with
      | '[' :: r => do
        let (vs, r) ← items? fuel r
        return (.list vs, r)
      | '\x7b' :: r => do
        let (fs, r) ← fields? fuel r
        return (.table (Setting.lastOfEach fs), r)
      | c :: r =>
        if c = '"' || c = '\'' then (string? (c :: r)).map fun (t, r) => (.text t, r)
        else number? (c :: r)
      | [] => none

/-- The items of a list, with commas between them, and the bracket that closes it. -/
def items? : Nat → Reader (List Setting)
  | 0, _ => none
  | fuel + 1, s =>
    match skipAll s with
    | ']' :: r => some ([], r)
    | r => do
      let (v, r) ← value? fuel r
      match skipAll r with
      | ',' :: r => do
        let (vs, r) ← items? fuel r
        return (v :: vs, r)
      | ']' :: r => return ([v], r)
      | _ => none

/-- The fields of an object, with commas between them, and the brace that closes it. -/
def fields? : Nat → Reader (List (String × Setting))
  | 0, _ => none
  | fuel + 1, s =>
    match skipAll s with
    | '\x7d' :: r => some ([], r)
    | r => do
      let (key, r) ← key? r
      match skipAll r with
      | ':' :: r => do
        let (v, r) ← value? fuel (skipAll r)
        match skipAll r with
        | ',' :: r => do
          let (fs, r) ← fields? fuel r
          return ((key, v) :: fs, r)
        | '\x7d' :: r => return ([(key, v)], r)
        | _ => none
      | _ => none

end

/-- The value in the text of a file. -/
def parse? (text : String) : Option Setting := do
  let s := text.toList
  let (v, r) ← value? (s.length + 1) (skipAll s)
  if (skipAll r).isEmpty then return v else none

end RestartCoordinator.Json5
