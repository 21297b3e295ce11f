import RestartCoordinator.Binary64.Reader
import RestartCoordinator.Settings
/-!
# Settings from RON files

Structures and tuples in parentheses, lists, maps, optional values, strings, characters and numbers.
Names of structures do not count, and what has a name alone is nothing.
-/
namespace RestartCoordinator.Ron
open Text

/-- The text after a comment in marks, which may hold others. -/
def afterComment? : Nat → List Char → Option (List Char)
  | _, [] => none
  | depth, '/' :: '*' :: s => afterComment? (depth + 1) s
  | 0, '*' :: '/' :: s => some s
  | depth + 1, '*' :: '/' :: s => afterComment? depth s
  | depth, _ :: s => afterComment? depth s

/-- The text after blanks and comments. None if a comment does not end. -/
def skip? : Nat → List Char → Option (List Char)
  | 0, s => some s
  | fuel + 1, s =>
    match s.dropWhile fun c => c = ' ' || c = '\n' || c = '\t' || c = '\r' with
    | '/' :: '/' :: r => skip? fuel (r.dropWhile (· ≠ '\n'))
    | '/' :: '*' :: r => (afterComment? 0 r).bind (skip? fuel)
    | '/' :: _ => none
    | r => some r

def isNameStart (c : Char) : Bool := c.isAlpha || c = '_'

def isNameChar (c : Char) : Bool := c.isAlphanum || c = '_'

/-- Characters of a name after its raw mark. -/
def isRawChar (c : Char) : Bool := isNameChar c || c = '.' || c = '+' || c = '-'

/-- A name. One that would go on in the raw form has to be marked as raw. -/
def name? : Reader String
  | 'r' :: '#' :: c :: s =>
    if isRawChar c then
      some (String.ofList ((c :: s).takeWhile isRawChar), (c :: s).dropWhile isRawChar)
    else none
  | 'r' :: '"' :: _ => none
  | c :: s =>
    let name := (c :: s).takeWhile isNameChar
    if isNameStart c && (c :: s).takeWhile isRawChar = name then
      some (String.ofList name, (c :: s).dropWhile isNameChar)
    else none
  | [] => none

/-- The text after a name that ends there. -/
def word? (word : String) (s : List Char) : Option (List Char) :=
  (after? word s).filter fun r => !r.head?.any isNameChar

/-- The character that is written after a backslash. -/
def escape? : Reader Char
  | 'x' :: s => codePoint? 2 s
  | 'u' :: '\x7b' :: s =>
    let digits := s.takeWhile (· ≠ '\x7d')
    if digits.isEmpty || 6 < digits.length then none
    else do
      let c ← charOf? (← valueIn? 16 digits)
      return (c, s.drop (digits.length + 1))
  | c :: s =>
    if c = '"' || c = '\'' || c = '\\' then some (c, s)
    else if c = 'n' then some ('\n', s)
    else if c = 'r' then some ('\r', s)
    else if c = 't' then some ('\t', s)
    else if c = '0' then some (Char.ofNat 0, s)
    else none
  | [] => none

/-- The rest of a string; `read` holds what was read, last first. -/
def stringTail? : Nat → List Char → Reader String
  | 0, _, _ => none
  | _ + 1, _, [] => none
  | _ + 1, read, '"' :: s => some (String.ofList read.reverse, s)
  | fuel + 1, read, '\\' :: s => do
    let (c, s) ← escape? s
    stringTail? fuel (c :: read) s
  | fuel + 1, read, c :: s => stringTail? fuel (c :: read) s

/-- The text up to an end mark, and what follows that. -/
def upTo? (mark : List Char) : List Char → Option (List Char × List Char)
  | [] => none
  | c :: s =>
    if (c :: s).take mark.length = mark then some ([], (c :: s).drop mark.length)
    else (upTo? mark s).map fun (t, r) => (c :: t, r)

/-- A string without escapes after its first mark: as many number signs end it as begin it. -/
def rawString? (s : List Char) : Option (String × List Char) := do
  let signs := s.takeWhile (· = '#')
  match s.dropWhile (· = '#') with
  | '"' :: r => do
    let (t, r) ← upTo? ('"' :: signs) r
    return (String.ofList t, r)
  | _ => none

def string? : Reader String
  | '"' :: s => stringTail? (s.length + 1) [] s
  | 'r' :: s => rawString? s
  | _ => none

/-- A character between apostrophes. -/
def char? (s : List Char) : Option (Setting × List Char) := do
  let (c, r) ← match s with
    | '\\' :: r => escape? r
    | c :: r => some (c, r)
    | [] => none
  match r with
  | '\'' :: r => return (.text c.toString, r)
  | _ => none

/-- A whole number of 64 bits, with or without a sign; underscores may stand after its first digit.
One that needs all 64 bits for its value becomes one of `Binary64`. -/
def whole? (s : List Char) : Option (Setting × List Char) := do
  let (signed, negative, r) := match s with
    | '-' :: r => (true, true, r)
    | '+' :: r => (true, false, r)
    | r => (false, false, r)
  let (base, r) := match r with
    | '0' :: 'x' :: r => (16, r)
    | '0' :: 'o' :: r => (8, r)
    | '0' :: 'b' :: r => (2, r)
    | r => (10, r)
  let isOwn := fun c => (hexValue? c).isSome || c = '_'
  let written := r.takeWhile isOwn
  if written.isEmpty || written.head? = some '_' then none
  let n ← valueIn? base (written.filter (· ≠ '_'))
  let v : Int := if negative then -n else n
  let r := r.dropWhile isOwn
  if Int64.minValue.toInt ≤ v ∧ v ≤ Int64.maxValue.toInt then return (.int v, r)
  else if !signed ∧ n < UInt64.size then return (.float (.ofDecimal false n 0), r)
  else none

def isDecimalChar (c : Char) : Bool := isDigit c || ['e', 'E', '.', '+', '-', '_'].contains c

/-- A number of `Binary64`. -/
def decimal? (s : List Char) : Option (Setting × List Char) := do
  let x ← Binary64.ofText? (s.takeWhile isDecimalChar)
  return (.float x, s.dropWhile isDecimalChar)

/-- A number. What goes on longer as a decimal than as a whole number is one. -/
def number? (s : List Char) : Option (Setting × List Char) :=
  let digits := match s with
    | '-' :: r => r
    | '+' :: r => r
    | r => r
  let isOwn := fun c => (hexValue? c).isSome || c = '_'
  if (digits.takeWhile isOwn).length < (digits.takeWhile isDecimalChar).length then decimal? s
  else whole? s <|> decimal? s

/-- The words that stand for a value. -/
def words : List (String × Setting) :=
  [("true", .bool true), ("false", .bool false), ("None", .absent),
    ("inf", .float (.infinite false)), ("-inf", .float (.infinite true)), ("NaN", .float .nan)]

def word : Reader Setting := fun s =>
  words.findSome? fun (text, v) => (word? text s).map fun r => (v, r)

/-- A text as a key. -/
def keyOf? : Setting → Option String
  | .text t => some t
  | _ => none

mutual

def value? : Nat → Reader Setting
  | 0, _ => none
  | fuel + 1, s =>
    match word s with
    | some found => some found
    | none =>
      match word? "Some" s with
      | some r => do
        let r ← skip? r.length r
        match r with
        | '(' :: r => do
          let (v, r) ← value? fuel (← skip? r.length r)
          let r ← skip? r.length r
          let r ← match r with
            | ',' :: r => skip? r.length r
            | r => some r
          return (v, ← after? ")" r)
        | _ => none
      | none =>
        match after? "()" s with
        | some r => some (.absent, r)
        | none =>
          match name? s with
          | some (_, r) => do
            let r ← skip? r.length r
            match r with
            | '(' :: r => parentheses? fuel r
            | r => return (.absent, r)
          | none =>
            match s with
            | '(' :: r => parentheses? fuel r
            | '[' :: r => do
              let (vs, r) ← items? ']' fuel r
              return (.list vs, r)
            | '\x7b' :: r => do
              let (fs, r) ← fields? '\x7d' fuel r
              return (.table (Setting.lastOfEach fs), r)
            | '\'' :: r => char? r
            | c :: r =>
              if c = '"' || c = 'r' then (string? (c :: r)).map fun (t, r) => (.text t, r)
              else if c = '.' then decimal? (c :: r)
              else number? (c :: r)
            | [] => none

/-- What stands in parentheses: a structure if it begins with a name and a colon, else a tuple. -/
def parentheses? : Nat → Reader Setting
  | 0, _ => none
  | fuel + 1, s => do
    let r ← skip? s.length s
    let isStructure : Bool := match name? r with
      | some (_, r) => (skip? r.length r).any fun r => r.head? = some ':'
      | none => false
    if isStructure then
      let (fs, r) ← fields? ')' fuel s
      return (.table (Setting.lastOfEach fs), r)
    else
      let (vs, r) ← items? ')' fuel s
      return (.list vs, r)

/-- The items up to an end mark, with commas between them. -/
def items? (close : Char) : Nat → Reader (List Setting)
  | 0, _ => none
  | fuel + 1, s => do
    let r ← skip? s.length s
    if r.head? = some close then return ([], r.drop 1)
    let (v, r) ← value? fuel r
    match ← skip? r.length r with
    | ',' :: r => do
      let (vs, r) ← items? close fuel r
      return (v :: vs, r)
    | c :: r => if c = close then return ([v], r) else none
    | [] => none

/-- The fields up to an end mark. In a structure the keys are names, in a map they are texts. -/
def fields? (close : Char) : Nat → Reader (List (String × Setting))
  | 0, _ => none
  | fuel + 1, s => do
    let r ← skip? s.length s
    if r.head? = some close then return ([], r.drop 1)
    let (key, r) ← if close = ')' then name? r
      else (value? fuel r).bind fun (v, r) => (keyOf? v).map fun key => (key, r)
    let r ← skip? r.length r
    let r ← after? ":" r
    let (v, r) ← value? fuel (← skip? r.length r)
    match ← skip? r.length r with
    | ',' :: r => do
      let (fs, r) ← fields? close fuel r
      return ((key, v) :: fs, r)
    | c :: r => if c = close then return ([(key, v)], r) else none
    | [] => none

end

/-- What can be switched on at the beginning of a file. -/
def extensions : List String := ["unwrap_newtypes", "implicit_some", "unwrap_variant_newtypes"]

/-- Names of extensions up to a parenthesis. -/
def extensions? : Nat → List Char → Option (List Char)
  | 0, _ => none
  | fuel + 1, s => do
    let (name, r) ← name? (← skip? s.length s)
    if !extensions.contains name then none
    match ← skip? r.length r with
    | ',' :: r => do
      let r ← skip? r.length r
      match r with
      | ')' :: r => return r
      | r => extensions? fuel r
    | ')' :: r => return r
    | _ => none

/-- The text after the switches at the beginning of a file. -/
def skipSwitches? : Nat → List Char → Option (List Char)
  | 0, s => some s
  | fuel + 1, s => do
    match ← skip? s.length s with
    | '#' :: r => do
      let next (word : String) (s : List Char) : Option (List Char) := do
        after? word (← skip? s.length s)
      let r ← next "enable" (← next "[" (← next "!" r))
      let r ← next "]" (← extensions? r.length (← next "(" r))
      skipSwitches? fuel r
    | r => return r

/-- The value in the text of a file. -/
def parse? (text : String) : Option Setting := do
  let s := text.toList
  let (v, r) ← value? (s.length + 1) (← skipSwitches? s.length s)
  if (← skip? r.length r).isEmpty then return v else none

end RestartCoordinator.Ron
