import RestartCoordinator.Text.Reader
/-!
# The words of TOML

Blanks, comments, ends of lines, strings and keys.
-/
namespace RestartCoordinator.Toml
open Text

/-- Characters that may stand in a comment or a string as themselves. -/
def isPlain (c : Char) : Bool :=
  c = '\t' || (32 ≤ c.toNat && c.toNat ≠ 127)

def skipBlanks (s : List Char) : List Char :=
  s.dropWhile fun c => c = ' ' || c = '\t'

/-- The text after an end of line: a line feed, with or without a carriage return. -/
def newline? : List Char → Option (List Char)
  | '\n' :: r => some r
  | '\r' :: '\n' :: r => some r
  | _ => none

/-- The text without a comment at its beginning. -/
def skipComment : List Char → List Char
  | '#' :: r => r.dropWhile isPlain
  | s => s

/-- The rest of a line on which nothing more may stand than blanks and a comment. -/
def lineEnd? (s : List Char) : Option (List Char) :=
  match skipComment (skipBlanks s) with
  | [] => some []
  | r => newline? r

/-- The text without blanks, comments and ends of lines at its beginning, of which `fuel` ends at
most. -/
def skipLines : Nat → List Char → List Char
  | 0, s => s
  | fuel + 1, s =>
    let r := skipComment (skipBlanks s)
    match newline? r with
    | some r => skipLines fuel r
    | none => r

/-- What stands after a backslash. -/
def escape? : Reader Char
  | 'b' :: r => some (Char.ofNat 8, r)
  | 't' :: r => some ('\t', r)
  | 'n' :: r => some ('\n', r)
  | 'f' :: r => some (Char.ofNat 12, r)
  | 'r' :: r => some ('\r', r)
  | '"' :: r => some ('"', r)
  | '\\' :: r => some ('\\', r)
  | 'u' :: r => codePoint? 4 r
  | 'U' :: r => codePoint? 8 r
  | _ => none

/-- The rest of a string after its quote; `read` holds what was read, last first. -/
def basicTail? : Nat → List Char → Reader String
  | 0, _, _ => none
  | _ + 1, _, [] => none
  | fuel + 1, read, c :: s =>
    if c = '"' then some (String.ofList read.reverse, s)
    else if c = '\\' then do
      let (e, s) ← escape? s
      basicTail? fuel (e :: read) s
    else if isPlain c then basicTail? fuel (c :: read) s
    else none

def literalTail? (s : List Char) : Option (String × List Char) :=
  let isOwn := fun c => isPlain c && c ≠ '\''
  match s.dropWhile isOwn with
  | '\'' :: r => some (String.ofList (s.takeWhile isOwn), r)
  | _ => none

/-- The end of a string of several lines at a run of quotes: up to two of them belong to the string,
and three close it. -/
def closing? (quote : Char) (s : List Char) : Option (Nat × List Char) :=
  let run := (s.takeWhile (· = quote)).length
  if run < 3 then none
  else
    let own := min (run - 3) 2
    some (own, s.drop (own + 3))

/-- The text after blanks and ends of lines. -/
def skipEmpty : List Char → List Char
  | '\r' :: '\n' :: r => skipEmpty r
  | c :: r => if c = ' ' || c = '\t' || c = '\n' then skipEmpty r else c :: r
  | [] => []

/-- The text after a backslash that joins lines: all blanks and ends of lines are passed over. -/
def joined? (s : List Char) : Option (List Char) :=
  (newline? (skipBlanks s)).map skipEmpty

/-- The rest of a string of several lines. -/
def blockTail? (quote : Char) : Nat → List Char → Reader String
  | 0, _, _ => none
  | _ + 1, _, [] => none
  | fuel + 1, read, c :: s =>
    match closing? quote (c :: s) with
    | some (own, r) => some (String.ofList (read.reverse ++ List.replicate own quote), r)
    | none =>
      match newline? (c :: s) with
      | some r => blockTail? quote fuel ('\n' :: read) r
      | none =>
        if c = '\\' && quote = '"' then
          match joined? s with
          | some r => blockTail? quote fuel read r
          | none => do
            let (e, r) ← escape? s
            blockTail? quote fuel (e :: read) r
        else if isPlain c then blockTail? quote fuel (c :: read) s
        else none

/-- A string of several lines after its quotes; an end of line right after them does not count. -/
def block? (quote : Char) (s : List Char) : Option (String × List Char) :=
  let s := (newline? s).getD s
  blockTail? quote (s.length + 1) [] s

/-- A string of any kind. -/
def string? : Reader String
  | '"' :: '"' :: '"' :: r => block? '"' r
  | '\'' :: '\'' :: '\'' :: r => block? '\'' r
  | '"' :: r => basicTail? (r.length + 1) [] r
  | '\'' :: r => literalTail? r
  | _ => none

def isBare (c : Char) : Bool := c.isAlphanum || c = '_' || c = '-'

/-- One part of a key: a string on one line, or bare characters. -/
def part? : Reader String
  | '"' :: r => basicTail? (r.length + 1) [] r
  | '\'' :: r => literalTail? r
  | s =>
    let name := s.takeWhile isBare
    if name.isEmpty then none else some (String.ofList name, s.dropWhile isBare)

/-- A key: parts with dots between them and blanks around each; `fuel` is the most parts. -/
def key? : Nat → Reader (List String)
  | 0, _ => none
  | fuel + 1, s => do
    let (part, r) ← part? (skipBlanks s)
    match skipBlanks r with
    | '.' :: r =>
      let (parts, r) ← key? fuel r
      return (part :: parts, r)
    | r => return ([part], r)

end RestartCoordinator.Toml
