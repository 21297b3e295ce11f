import RestartCoordinator.Toml
/-!
# Writing TOML

Strings are written in the simplest form that holds them: between double quotes if nothing has to be
escaped, else between single quotes, else between three quotes of either kind, and with escapes only
where all of these fail. A form of several lines begins with an end of line if it holds one.
-/
namespace RestartCoordinator.Toml

/-- A control character that no form can hold as itself. -/
def isControl (c : Char) : Bool :=
  (c.toNat < 32 && c ≠ '\t' && c ≠ '\n') || c.toNat = 127

/-- The length of the longest run of a character. -/
def longestRun (c : Char) (s : List Char) : Nat :=
  (s.foldl (fun (run, longest) d =>
    let run := if d = c then run + 1 else 0
    (run, max run longest)) (0, 0)).2

/-- The four lowest hexadecimal digits of a number. -/
def hex4 (n : Nat) : List Char :=
  [n / 4096 % 16, n / 256 % 16, n / 16 % 16, n % 16].map fun d => (Nat.digitChar d).toUpper

/-- How a character other than a quote is written in a string with escapes; an end of line may stand
in one of several lines. -/
def escape (lines : Bool) (c : Char) : List Char :=
  if c = '\\' then ['\\', '\\']
  else if c = '\n' then if lines then ['\n'] else ['\\', 'n']
  else if c = '\t' then ['\\', 't']
  else if c = '\r' then ['\\', 'r']
  else if c.toNat = 8 then ['\\', 'b']
  else if c.toNat = 12 then ['\\', 'f']
  else if isControl c then ['\\', 'u'] ++ hex4 c.toNat
  else [c]

/-- A text with escapes. So many quotes may follow each other as they are; `run` counts them. -/
def escaped (lines : Bool) (most : Nat) : Nat → List Char → List Char
  | _, [] => []
  | run, c :: s =>
    if c = '"' then
      if run < most then c :: escaped lines most (run + 1) s
      else ['\\', '"'] ++ escaped lines most 0 s
    else escape lines c ++ escaped lines most 0 s

/-- The text in three quotes, after an end of line if it holds one. -/
def block (quote : Char) (s : List Char) : List Char :=
  let three := List.replicate 3 quote
  three ++ (if s.contains '\n' then ['\n'] else []) ++ s ++ three

def writeString (text : String) : String :=
  let s := text.toList
  let controls := s.any isControl
  let backslash := s.contains '\\'
  let lines := s.contains '\n'
  let double := longestRun '"' s
  let single := longestRun '\'' s
  String.ofList <|
    if !controls && !backslash && !lines && double = 0 then '"' :: escaped false 0 0 s ++ ['"']
    else if !controls && !lines && single = 0 then '\'' :: s ++ ['\'']
    else if !controls && !backslash && double ≤ 2 then block '"' (escaped true 2 0 s)
    else if !controls && single ≤ 2 then block '\'' s
    else if lines then block '"' (escaped true 2 0 s)
    else '"' :: escaped false 0 0 s ++ ['"']

/-- A value that stands on one line; whole numbers must fit in 64 bits with a sign. -/
def writeScalar? : Toml → Option String
  | .str t => some (writeString t)
  | .int n =>
    if Int64.minValue.toInt ≤ n ∧ n ≤ Int64.maxValue.toInt then some (toString n) else none
  | .bool b => some (if b then "true" else "false")
  | _ => none

/-- The lines of a table of such values. -/
def writeTable? (name : String) (fields : List (String × Toml)) : Option (List String) := do
  let lines ← fields.mapM fun (key, v) => do return key ++ " = " ++ (← writeScalar? v)
  return ("[" ++ name ++ "]") :: lines

/-- A document of tables, with an empty line between them. -/
def writeTables? (tables : List (String × List (String × Toml))) : Option String := do
  let parts ← tables.mapM fun (name, fields) => do
    return String.join ((← writeTable? name fields).map (· ++ "\n"))
  return String.intercalate "\n" parts

end RestartCoordinator.Toml
