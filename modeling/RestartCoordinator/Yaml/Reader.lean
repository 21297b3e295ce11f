import RestartCoordinator.Yaml
import RestartCoordinator.Yaml.Lexical
/-!
# Reading YAML

`Yaml.parse?` reads a text of one document at most. Between brackets ends of lines do not count;
elsewhere columns tell what belongs together. A reader of a node in a block stops at the next word
on a later line.
-/
namespace RestartCoordinator.Yaml

/-- A key of a line: a scalar on one line and the colon after it. -/
def key? (s : Cells) : Option (String × Cells) := do
  let (text, r) ← match quoted? s with
    | some found => some found
    | none =>
      if isPlainStart false s then
        let (line, r) := plainLine false s
        some (String.ofList line, r)
      else none
  match skipBlanks r with
  | (':', _) :: r => if endsWord (first r) then some (text, r) else none
  | _ => none

/-- A dash that begins an item of a list. -/
def beginsItem (s : Cells) : Bool := first s = some '-' && endsWord (first (s.drop 1))

/-- The name of an anchor or an alias, or a tag: all that stands together. -/
def label (inFlow : Bool) (s : Cells) : String × Cells :=
  let isOwn := fun (c : Char) => !endsWord (some c) && !(inFlow && isFlowMark c)
  let name := (chars s).takeWhile isOwn
  (String.ofList name, s.drop name.length)

mutual

/-- A node between brackets. -/
def flow? : Nat → Cells → Option (Yaml × Cells)
  | 0, _ => none
  | fuel + 1, s =>
    match s with
    | ('[', _) :: r => do
      let (vs, r) ← flowItems? fuel r
      return (.seq vs, r)
    | ('\x7b', _) :: r => do
      let (fs, r) ← flowFields? fuel r
      return (.map fs, r)
    | ('&', _) :: r => do
      let (name, r) := label true r
      let (v, r) ← flowOrEmpty? fuel (skipGap false false r)
      return (.anchored name v, r)
    | ('!', _) :: r => do
      let (tag, r) := label true r
      let (v, r) ← flowOrEmpty? fuel (skipGap false false r)
      return (.tagged tag v, r)
    | ('*', _) :: r => let (name, r) := label true r; some (.alias name, r)
    | s =>
      match quoted? s with
      | some (t, r) => some (.quoted t, r)
      | none => (plain? true (-1) s).map fun (t, r) => (.plain t, r)

/-- A node between brackets that may be left out. -/
def flowOrEmpty? : Nat → Cells → Option (Yaml × Cells)
  | 0, _ => none
  | fuel + 1, s =>
    if first s = some ',' || first s = some ']' || first s = some '\x7d' then some (.empty, s)
    else flow? fuel s

/-- The items of a list up to its bracket. An item may be a field of its own. -/
def flowItems? : Nat → Cells → Option (List Yaml × Cells)
  | 0, _ => none
  | fuel + 1, s =>
    match skipGap true false s with
    | (']', _) :: r => some ([], r)
    | s => do
      let (v, r) ← flow? fuel s
      let r := skipGap false false r
      let (v, r) ← match v, r with
        | .plain key, (':', _) :: r | .quoted key, (':', _) :: r => do
          let (v, r) ← flowOrEmpty? fuel (skipGap false false r)
          pure (Yaml.map [(key, v)], skipGap false false r)
        | v, r => pure (v, r)
      match r with
      | (',', _) :: r => do
        let (vs, r) ← flowItems? fuel r
        return (v :: vs, r)
      | (']', _) :: r => return ([v], r)
      | _ => none

/-- The fields of a table up to its brace. -/
def flowFields? : Nat → Cells → Option (List (String × Yaml) × Cells)
  | 0, _ => none
  | fuel + 1, s =>
    match skipGap true false s with
    | ('\x7d', _) :: r => some ([], r)
    | s => do
      let (key, r) ← quoted? s <|> plain? true (-1) s
      let (v, r) ← match skipGap false false r with
        | (':', _) :: r => flowOrEmpty? fuel (skipGap false false r)
        | r => some (.empty, r)
      match skipGap false false r with
      | (',', _) :: r => do
        let (fs, r) ← flowFields? fuel r
        return ((key, v) :: fs, r)
      | ('\x7d', _) :: r => return ([(key, v)], r)
      | _ => none

end

/-- A node that begins and, unless it has brackets, quotes or more lines, ends on a line. -/
def inline? (parent : Int) (s : Cells) : Option (Yaml × Cells) :=
  let ended (v : Yaml) (r : Cells) : Option (Yaml × Cells) := (nextLine? r).map fun r => (v, r)
  match s with
  | ('|', _) :: r => (block? false parent r).map fun (t, r) => (.quoted t, skipGap true false r)
  | ('>', _) :: r => (block? true parent r).map fun (t, r) => (.quoted t, skipGap true false r)
  | ('*', _) :: r => let (name, r) := label false r; ended (.alias name) r
  | (c, _) :: _ =>
    if c = '[' || c = '\x7b' then (flow? (s.length + 1) s).bind fun (v, r) => ended v r
    else
      match quoted? s with
      | some (t, r) => ended (.quoted t) r
      | none => (plain? false parent s).bind fun (t, r) => ended (.plain t) r
  | [] => some (.empty, [])

/-- What stands before a node: an anchor or a tag. -/
def property? (s : Cells) : Option ((Yaml → Yaml) × Cells) :=
  match s with
  | ('&', _) :: r => let (name, r) := label false r; some (.anchored name, r)
  | ('!', _) :: r => let (tag, r) := label false r; some (.tagged tag, r)
  | _ => none

mutual

/-- A node at a word in a block, farther in than what it belongs to. -/
def node? : Nat → Int → Cells → Option (Yaml × Cells)
  | 0, _, _ => none
  | fuel + 1, parent, s =>
    match property? s with
    | some (mark, r) => do
      let (v, r) ← value? fuel parent false r
      return (mark v, r)
    | none =>
      if beginsItem s then do
        let (vs, r) ← items? fuel (← column? s) s
        return (.seq vs, r)
      else if (key? s).isSome then do
        let (fs, r) ← fields? fuel (← column? s) s
        return (.map fs, r)
      else inline? parent s

/-- A node after its key or its dash. A list may stand as far in as the key it belongs to, and after
a dash a table may begin on the line. -/
def value? : Nat → Int → Bool → Cells → Option (Yaml × Cells)
  | 0, _, _, _ => none
  | fuel + 1, parent, afterDash, s =>
    let r := skipBlanks s
    if endsWord (first r) || first r = some '#' then
      let r := skipGap true false r
      match column? r with
      | none => if r.isEmpty then some (.empty, []) else none
      | some column =>
        if parent < column then node? fuel parent r
        else if parent = column && beginsItem r && !afterDash then do
          let (vs, r) ← items? fuel column r
          return (.seq vs, r)
        else some (.empty, r)
    else if afterDash then node? fuel parent r
    else
      match property? r with
      | some (mark, r) => do
        let (v, r) ← value? fuel parent false r
        return (mark v, r)
      | none => if beginsItem r || (key? r).isSome then none else inline? parent r

/-- The items of a list whose dashes stand in a column. -/
def items? : Nat → Nat → Cells → Option (List Yaml × Cells)
  | 0, _, _ => none
  | fuel + 1, column, s => do
    let (v, r) ← value? fuel column true (s.drop 1)
    if r.isEmpty then return ([v], [])
    let next ← column? r
    if next < column then return ([v], r)
    else if next = column then
      if beginsItem r then
        let (vs, r) ← items? fuel column r
        return (v :: vs, r)
      else return ([v], r)
    else none

/-- The fields of a table whose keys stand in a column. -/
def fields? : Nat → Nat → Cells → Option (List (String × Yaml) × Cells)
  | 0, _, _ => none
  | fuel + 1, column, s => do
    let (key, r) ← key? s
    let (v, r) ← value? fuel column false r
    if r.isEmpty then return ([(key, v)], [])
    let next ← column? r
    if next < column then return ([(key, v)], r)
    else if next = column then
      let (fs, r) ← fields? fuel column r
      return ((key, v) :: fs, r)
    else none

end

/-- The text with line feeds for all ends of lines. -/
def unified : List Char → List Char
  | '\r' :: '\n' :: s => '\n' :: unified s
  | c :: s => (if c = '\r' then '\n' else c) :: unified s
  | [] => []

/-- A line that begins with a mark of three characters. -/
def isMarked (mark line : List Char) : Bool :=
  line.take 3 = mark && endsWord (line.drop 3).head?

/-- A line without anything that counts. -/
def isIdle (line : List Char) : Bool :=
  (line.dropWhile isBlank).head?.all (· = '#')

/-- A document among the lines of a text. -/
structure Document where
  /-- A line with three hyphens begins it. -/
  marked : Bool
  lines : List (List Char)

/-- The one document among lines; none if there are more. An inner none says that there is no
document. -/
def document? (lines : List (List Char)) : Option (Option Document) :=
  let start := lines.dropWhile isIdle
  let directives := start.takeWhile fun l => l.head? = some '%' || isIdle l
  let hasDirective := directives.any (·.head? = some '%')
  let start := start.drop directives.length
  let marked := start.head?.any (isMarked ['-', '-', '-'])
  let body := if marked then start.modifyHead (fun l => [' ', ' ', ' '] ++ l.drop 3) else start
  let isEnd := fun l => isMarked ['-', '-', '-'] l || isMarked ['.', '.', '.'] l
  let own := body.takeWhile (!isEnd ·)
  let rest := body.drop own.length
  if rest.any fun l => !isIdle l && !isMarked ['.', '.', '.'] l then none
  else if hasDirective && !marked then none
  else if marked || own.any (!isIdle ·) then some (some ⟨marked, own⟩)
  else some none

/-- The root of the document in a text; an inner none says that there is no document. On the line of
its mark no table and no list may begin. -/
def parse? (text : String) : Option (Option Yaml) := do
  match ← document? ((unified text.toList).splitOn '\n') with
  | none => return none
  | some d =>
    let s := cells (some 0) true (['\n'].intercalate d.lines)
    let (v, r) ← value? (2 * s.length + 2) (-1) (!d.marked) s
    if r.isEmpty then return some v else none

end RestartCoordinator.Yaml
