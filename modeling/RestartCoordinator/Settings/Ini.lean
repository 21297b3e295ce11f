import RestartCoordinator.Settings
import RestartCoordinator.Text.Blank
import RestartCoordinator.Text.Reader
/-!
# Settings from INI files

Lines with a key and its value, and headers in brackets that open a section. Comments have lines of
their own, which they begin. A value goes to the end of its line, and may begin with texts in
quotes. A backslash makes an escape everywhere. All values are texts.
-/
namespace RestartCoordinator.Ini
open Text

/-- What a backslash and one more character stand for. -/
def escaped (c : Char) : Char :=
  if c = '0' then Char.ofNat 0
  else if c = 'a' then Char.ofNat 7
  else if c = 'b' then Char.ofNat 8
  else if c = 't' then '\t'
  else if c = 'r' then '\r'
  else if c = 'n' then '\n'
  else c

/-- The text before an end, which is a character or the end of everything, with its escapes
resolved; and the text from that end on. -/
def textUntil? (isEnd : Option Char → Bool) : List Char → Option (List Char × List Char)
  | [] => if isEnd none then some ([], []) else none
  | '\\' :: 'x' :: a :: b :: c :: d :: s => do
    let e ← charOf? (← valueIn? 16 [a, b, c, d])
    let (t, r) ← textUntil? isEnd s
    return (e :: t, r)
  | '\\' :: '\n' :: s => textUntil? isEnd s
  | '\\' :: c :: s => do
    if c = 'x' then none
    let (t, r) ← textUntil? isEnd s
    return (escaped c :: t, r)
  | ['\\'] => none
  | c :: s =>
    if isEnd (some c) then some ([], c :: s)
    else do
      let (t, r) ← textUntil? isEnd s
      return (c :: t, r)

/-- The end of a line. -/
def isLineEnd (c : Option Char) : Bool := c = none || c = some '\n' || c = some '\r'

/-- A value: texts in quotes and then the rest of the line without the blanks at its end. -/
def value? : Nat → Bool → List Char → Option (List Char × List Char)
  | 0, _, _ => none
  | fuel + 1, isFirst, s =>
    match s with
    | [] => some ([], [])
    | c :: rest =>
      if c = '"' || c = '\'' then do
        let (quoted, r) ← textUntil? (· = some c) rest
        let (more, r) ← value? fuel false (r.drop 1)
        return (quoted ++ more, r)
      else do
        let (plain, r) ← textUntil? isLineEnd s
        let plain := if isFirst then plain.dropWhile isBlank else plain
        return ((plain.reverse.dropWhile isBlank).reverse, r)

/-- A file that was read to some point. -/
structure Draft where
  /-- The section that was opened last; none before the first header. -/
  header : Option String
  /-- The key that waits for its value. -/
  key : List Char
  /-- The settings before the first header. -/
  general : List (String × Setting)
  sections : List (String × List (String × Setting))

namespace Draft

/-- Sets the key that waits. -/
def set (d : Draft) (value : List Char) : Draft :=
  let field := (String.ofList d.key, Setting.text (String.ofList value))
  match d.header, d.sections.reverse with
  | some _, (name, fields) :: earlier =>
    { d with key := [], sections := earlier.reverse ++ [(name, fields ++ [field])] }
  | _, _ => { d with key := [], general := d.general ++ [field] }

/-- Opens a section. -/
def openSection (d : Draft) (name : String) : Draft :=
  { d with header := some name, sections := d.sections ++ [(name, [])] }

/-- What was read. -/
def fields (d : Draft) : List (String × Setting) :=
  Setting.lastOfEach (d.general ++ d.sections.map fun (name, fields) =>
    (name, .table (Setting.lastOfEach fields)))

end Draft

/-- The text after blanks, and whether it begins a line. -/
def skipBlanks (begins : Bool) : List Char → Bool × List Char
  | [] => (begins, [])
  | c :: s => if isBlank c then skipBlanks (c = '\n') s else (begins, c :: s)

/-- What a file holds. Where a key is to come, an equals sign or a colon lacks one. -/
def read? : Nat → Bool → Draft → List Char → Option Draft
  | 0, _, _, _ => none
  | fuel + 1, begins, d, s =>
    match skipBlanks begins s with
    | (_, []) => some d
    | (begins, c :: rest) =>
      if c = ';' || c = '#' then
        if begins then read? fuel true d ((rest.dropWhile (· ≠ '\n')).drop 1) else none
      else if c = '[' then do
        let (name, r) ← textUntil? (· = some ']') rest
        read? fuel false (d.openSection (String.ofList (trim name))) (r.drop 1)
      else if c = '=' || c = ':' then
        if d.key.isEmpty then none
        else do
          let blank := fun c => isBlank c && c ≠ '\n' && c ≠ '\r'
          let (v, r) ← value? (rest.length + 1) true (rest.dropWhile blank)
          read? fuel false (d.set v) r
      else do
        let (key, r) ← textUntil? (fun c => c = some '=' || c = some ':') (c :: rest)
        read? fuel false { d with key := trim key } r

/-- The settings in the text of a file. -/
def parse? (text : String) : Option (List (String × Setting)) :=
  let s := text.toList
  (read? (s.length + 1) true ⟨none, [], [], []⟩ s).map Draft.fields

end RestartCoordinator.Ini
