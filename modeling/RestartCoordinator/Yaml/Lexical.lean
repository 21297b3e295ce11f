import RestartCoordinator.Text.Reader
/-!
# The words of YAML

Characters with their columns, gaps between words, and scalars in their three styles: without
quotes, in quotes, and in blocks of lines. Lines that belong together are folded: one end of line
becomes a space, and of several the first is dropped.
-/
namespace RestartCoordinator.Yaml
open Text

/-- Characters with their columns. After a tab at the beginning of a line there are none. -/
abbrev Cells := List (Char × Option Nat)

/-- The cells of a text from a column on; `leads` says that only blanks came before on the line. -/
def cells (column : Option Nat) (leads : Bool) : List Char → Cells
  | [] => []
  | c :: s =>
    let next := if c = '\n' then some 0 else if leads && c = '\t' then none else column.map (· + 1)
    (c, column) :: cells next (c = '\n' || (leads && (c = ' ' || c = '\t'))) s

def chars (s : Cells) : List Char := s.map (·.1)

def first (s : Cells) : Option Char := s.head?.map (·.1)

/-- The column of the first character. -/
def column? (s : Cells) : Option Nat := s.head?.bind (·.2)

def isBlank (c : Char) : Bool := c = ' ' || c = '\t'

/-- The end of a word: a blank, the end of a line or the end of everything. -/
def endsWord (c : Option Char) : Bool := c.all fun c => isBlank c || c = '\n'

/-- Characters with a meaning between brackets. -/
def isFlowMark (c : Char) : Bool := [',', '[', ']', '\x7b', '\x7d'].contains c

def skipBlanks (s : Cells) : Cells := s.dropWhile fun (c, _) => isBlank c

/-- The text after blanks, comments and ends of lines. A comment follows a blank or begins a line;
`afterBlank` says that one may begin at once. -/
def skipGap (afterBlank inComment : Bool) : Cells → Cells
  | [] => []
  | (c, n) :: s =>
    if c = '\n' then skipGap true false s
    else if inComment then skipGap false true s
    else if isBlank c then skipGap true false s
    else if c = '#' && afterBlank then skipGap false true s
    else (c, n) :: s

/-- The next word after the end of a line, on which nothing more may stand than a comment. -/
def nextLine? (s : Cells) : Option Cells :=
  let r := skipBlanks s
  if endsWord (first r) || (first r = some '#' && r.length < s.length) then
    some (skipGap true false r)
  else none

/-- The characters of a scalar without quotes on one line, with blanks at the end. -/
def plainChars (inFlow : Bool) : Bool → Cells → List Char
  | _, [] => []
  | afterBlank, (c, _) :: s =>
    let next := first s
    let stops := c = '\n' || (c = '#' && afterBlank) || (inFlow && isFlowMark c) ||
      (c = ':' && (endsWord next || (inFlow && next.any isFlowMark)))
    if stops then [] else c :: plainChars inFlow (isBlank c) s

def trimEnd (s : List Char) : List Char := (s.reverse.dropWhile isBlank).reverse

/-- The words of a scalar without quotes on one line. -/
def plainLine (inFlow : Bool) (s : Cells) : List Char × Cells :=
  let line := trimEnd (plainChars inFlow true s)
  (line, s.drop line.length)

/-- What ends of lines come to. -/
def folded (breaks : Nat) : List Char :=
  if breaks = 1 then [' '] else List.replicate (breaks - 1) '\n'

/-- The number of ends of lines among the blanks at the beginning. -/
def breaksIn (s : Cells) : Nat :=
  ((chars s).takeWhile fun c => isBlank c || c = '\n').countP (· = '\n')

/-- The further lines of a scalar without quotes. In a block they stand farther in than what the
scalar belongs to. -/
def plainTail (inFlow : Bool) (parent : Int) : Nat → Cells → List Char × Cells
  | 0, s => ([], s)
  | fuel + 1, s =>
    let r := s.dropWhile fun (c, _) => isBlank c || c = '\n'
    let goesOn := first (skipBlanks s) = some '\n' && !r.isEmpty && first r ≠ some '#' &&
      (if inFlow then !(first r).any isFlowMark else (column? r).any (parent < ·))
    if goesOn then
      let (line, rest) := plainLine inFlow r
      if line.isEmpty then ([], s)
      else
        let (more, rest) := plainTail inFlow parent fuel rest
        (folded (breaksIn s) ++ line ++ more, rest)
    else ([], s)

/-- Characters that cannot begin a scalar without quotes, and those that can if a word goes on. -/
def isPlainStart (inFlow : Bool) (s : Cells) : Bool :=
  match s with
  | (c, _) :: r =>
    if c = '-' || c = '?' || c = ':' then
      !endsWord (first r) && !(inFlow && (first r).any isFlowMark)
    else
      !(isFlowMark c || ['#', '&', '*', '!', '|', '>', '\'', '"', '%', '@', '\x60'].contains c)
  | [] => false

/-- A scalar without quotes. -/
def plain? (inFlow : Bool) (parent : Int) (s : Cells) : Option (String × Cells) :=
  if isPlainStart inFlow s then
    let (line, r) := plainLine inFlow s
    let (more, r) := plainTail inFlow parent s.length r
    some (String.ofList (line ++ more), r)
  else none

/-- The escapes that stand for one character each. -/
def escapes : List (Char × Nat) :=
  [('0', 0), ('a', 7), ('b', 8), ('t', 9), ('\t', 9), ('n', 10), ('v', 11), ('f', 12), ('r', 13),
    ('e', 27), (' ', 32), ('"', 34), ('\'', 39), ('/', 47), ('\\', 92), ('N', 0x85), ('_', 0xa0),
    ('L', 0x2028), ('P', 0x2029)]

/-- The character that is written after a backslash, and the number of characters that write it. -/
def escape? (s : List Char) : Option (Char × Nat) :=
  match s with
  | [] => none
  | c :: r =>
    match [('x', 2), ('u', 4), ('U', 8)].find? (·.1 = c) with
    | some (_, width) => (codePoint? width r).map fun (e, _) => (e, width + 1)
    | none => (escapes.find? (·.1 = c)).map fun (_, n) => (Char.ofNat n, 1)

/-- The rest of a scalar in quotes; `read` holds what was read, last first. -/
def quotedTail? (quote : Char) : Nat → List Char → Cells → Option (String × Cells)
  | 0, _, _ => none
  | _ + 1, _, [] => none
  | fuel + 1, read, (c, n) :: s =>
    if c = quote then
      if quote = '\'' && first s = some '\'' then quotedTail? quote fuel (c :: read) (s.drop 1)
      else some (String.ofList read.reverse, s)
    else if c = '\\' && quote = '"' then
      if first s = some '\n' then
        let more := List.replicate (breaksIn s - 1) '\n'
        quotedTail? quote fuel (more ++ read) (s.dropWhile fun (c, _) => isBlank c || c = '\n')
      else do
        let (e, width) ← escape? (chars s)
        quotedTail? quote fuel (e :: read) (s.drop width)
    else if isBlank c || c = '\n' then
      let all := (c, n) :: s
      let blanks := (chars all).takeWhile fun c => isBlank c || c = '\n'
      let breaks := breaksIn all
      let own := if breaks = 0 then blanks else folded breaks
      quotedTail? quote fuel (own.reverse ++ read) (all.drop blanks.length)
    else quotedTail? quote fuel (c :: read) s

/-- A scalar in quotes. -/
def quoted? (s : Cells) : Option (String × Cells) :=
  match s with
  | (c, _) :: r => if c = '"' || c = '\'' then quotedTail? c (r.length + 1) [] r else none
  | [] => none

/-- The lines of a block that stand at least so far in, without their first blanks. -/
def blockLines (indent : Nat) : Nat → Cells → List (List Char) × Cells
  | 0, s => ([], s)
  | fuel + 1, s =>
    let line := (chars s).takeWhile (· ≠ '\n')
    let rest := (s.drop line.length).drop 1
    let isEmpty := (line.drop indent).isEmpty && line.all (· = ' ')
    let isIndented := (line.take indent).length = indent && (line.take indent).all (· = ' ')
    if s.isEmpty || !(isEmpty || isIndented) then ([], s)
    else
      let (lines, r) := blockLines indent fuel rest
      (line.drop indent :: lines, r)

/-- Lines joined to one text; lines that begin with a blank are not folded. -/
def joinFolded : List (List Char) → List Char
  | [] => []
  | [line] => line
  | line :: next :: rest =>
    let more := joinFolded (next :: rest)
    let isText := fun (l : List Char) => l.head?.any (!isBlank ·)
    if isText line && isText next then line ++ ' ' :: more
    else if isText line && next.isEmpty && rest.any isText then line ++ more
    else line ++ '\n' :: more

/-- The indicators after the mark of a block: how it ends, and how far in it stands. -/
structure BlockHeader where
  chomping : Option Char
  indent : Option Nat

def blockHeader? (s : Cells) : Option (BlockHeader × Cells) :=
  let isChomping := fun c => c = '+' || c = '-'
  let isIndent := fun (c : Char) => '1' ≤ c && c ≤ '9'
  let marks := (chars s).takeWhile fun c => isChomping c || isIndent c
  let r := s.drop marks.length
  let after := skipBlanks r
  if 1 < marks.countP isChomping || 1 < marks.countP isIndent then none
  else if first after = none || first after = some '\n' ||
      (first after = some '#' && after.length < r.length) then
    some (⟨marks.find? isChomping, (marks.find? isIndent).map fun c => digitsValue [c]⟩,
      (after.dropWhile (·.1 ≠ '\n')).drop 1)
  else none

/-- A scalar in a block of lines, after its mark. -/
def block? (isFolded : Bool) (parent : Int) (s : Cells) : Option (String × Cells) := do
  let (header, s) ← blockHeader? s
  let least := (parent + 1).toNat
  let found := column? (s.dropWhile fun (c, _) => c = ' ' || c = '\n')
  let indent := match header.indent with
    | some n => parent.toNat + n
    | none => max least (found.getD least)
  let (lines, r) := blockLines indent (s.length + 1) s
  let kept := (lines.reverse.dropWhile (·.isEmpty)).reverse
  let text := if isFolded then joinFolded kept else ['\n'].intercalate kept
  let ends := match header.chomping with
    | some '-' => []
    | some _ => List.replicate (lines.length - kept.length + (if kept.isEmpty then 0 else 1)) '\n'
    | none => if kept.isEmpty then [] else ['\n']
  return (String.ofList (text ++ ends), r)

end RestartCoordinator.Yaml
