import RestartCoordinator.Toml.Document
import RestartCoordinator.Toml.Number
/-!
# Reading TOML

`Toml.parse?` reads a document: lines with a key and its value, and headers that say in which table
the keys below them are.
-/
namespace RestartCoordinator.Toml
open Text (Reader)

/-- How deep arrays and tables within values may be nested, and how many parts a key may have. -/
def depthLimit : Nat := 79

/-- The last part of a key and the way to it. -/
def splitKey : List String → Option (List String × String)
  | [] => none
  | part :: rest =>
    match splitKey rest with
    | none => some ([], part)
    | some (path, key) => some (part :: path, key)

/-- A key, an equals sign and a value. -/
def assignment? (value? : Reader Toml) (s : List Char) :
    Option ((List String × String × Toml) × List Char) := do
  let (parts, r) ← key? depthLimit s
  let (path, key) ← splitKey parts
  match r with
  | '=' :: r =>
    let (v, r) ← value? (skipBlanks r)
    return ((path, key, v), r)
  | _ => none

/-- The values of an array after its bracket. -/
def items? (value? : Reader Toml) : Nat → Reader (List Toml)
  | 0, _ => none
  | fuel + 1, s =>
    match skipLines s.length s with
    | ']' :: r => some ([], r)
    | s => do
      let (v, r) ← value? s
      match skipLines r.length r with
      | ',' :: r =>
        let (vs, r) ← items? value? fuel r
        return (v :: vs, r)
      | ']' :: r => return ([v], r)
      | _ => none

/-- The fields of a table on one line, at least one of them; `fields` holds those that were read. -/
def inlineFields? (value? : Reader Toml) : Nat → Fields → Reader Fields
  | 0, _, _ => none
  | fuel + 1, fields, s => do
    let ((path, key, v), r) ← assignment? value? s
    let fields ← fields.assign path key v
    match skipBlanks r with
    | ',' :: r => inlineFields? value? fuel fields r
    | '\x7d' :: r => return (fields, r)
    | _ => none

/-- A table on one line after its brace. -/
def inlineTable? (value? : Reader Toml) (s : List Char) : Option (Toml × List Char) :=
  match skipBlanks s with
  | '\x7d' :: r => some (.table [], r)
  | s => (inlineFields? value? (s.length + 1) [] s).map fun (fs, r) => (.table (tomlFields fs), r)

/-- A value that holds others, nested so deep at most. -/
def nested? (value? : Reader Toml) : Reader Toml
  | '[' :: r => (items? value? (r.length + 1) r).map fun (vs, r) => (.arr vs, r)
  | '\x7b' :: r => inlineTable? value? r
  | _ => none

/-- A value, nested so deep at most. -/
def value? : Nat → Reader Toml
  | _, '"' :: r => (string? ('"' :: r)).map fun (t, r) => (.str t, r)
  | _, '\'' :: r => (string? ('\'' :: r)).map fun (t, r) => (.str t, r)
  | _, 't' :: 'r' :: 'u' :: 'e' :: r => some (.bool true, r)
  | _, 'f' :: 'a' :: 'l' :: 's' :: 'e' :: r => some (.bool false, r)
  | 0, s => number? s
  | depth + 1, s => nested? (value? depth) s <|> number? s

/-- A document that was read to some point. -/
structure Draft where
  root : Fields
  /-- The table that was opened last. -/
  header : List String

/-- A key between brackets, and the text after the closing ones. -/
def headerKey? (close : List Char) (s : List Char) :
    Option ((List String × String) × List Char) := do
  let (parts, r) ← key? depthLimit s
  if r.take close.length = close then return (← splitKey parts, r.drop close.length) else none

/-- What stands on a line: a header, or a key with its value, or nothing. -/
def line? (d : Draft) (s : List Char) : Option (Draft × List Char) :=
  match skipBlanks s with
  | '[' :: '[' :: r => do
    let ((path, key), r) ← headerKey? [']', ']'] r
    return (⟨← d.root.addTable path key, path ++ [key]⟩, r)
  | '[' :: r => do
    let ((path, key), r) ← headerKey? [']'] r
    return (⟨← d.root.openTable path key, path ++ [key]⟩, r)
  | s =>
    if (lineEnd? s).isSome then some (d, s)
    else do
      let ((path, key, v), r) ← assignment? (value? depthLimit) s
      return ({ d with root := ← d.root.assignIn d.header path key v }, r)

/-- The lines of a document, `fuel` of them at most. -/
def lines? : Nat → Draft → List Char → Option Draft
  | _, d, [] => some d
  | 0, _, _ => none
  | fuel + 1, d, s => do
    let (d, r) ← line? d s
    let r ← lineEnd? r
    lines? fuel d r

/-- Reads a document. A byte order mark in front is passed over. -/
def parse? (text : String) : Option Toml := do
  let s := match text.toList with
    | c :: r => if c.toNat = 0xfeff then r else c :: r
    | [] => []
  let d ← lines? (s.length + 1) ⟨[], []⟩ s
  return .table (tomlFields d.root)

end RestartCoordinator.Toml
