import RestartCoordinator.Toml
/-!
# Tables under construction

How headers and keys build the tables of a TOML document. A table remembers what made it, since that
decides whether it may grow: a header opens a table once, a longer header passes through tables that
no header has opened yet, and a key with dots makes tables that only such keys may fill.
-/
namespace RestartCoordinator.Toml

/-- What made a table. -/
inductive Origin where
  | header
  /-- It stands on the way of a longer header. -/
  | path
  /-- It stands on the way of a key with dots. -/
  | dotted
deriving DecidableEq, Repr

inductive Item where
  | value (v : Toml)
  | table (origin : Origin) (fields : List (String × Item))
  /-- The tables of a header in double brackets. -/
  | tables (all : List (List (String × Item)))

abbrev Fields := List (String × Item)

namespace Fields

def get? (fs : Fields) (key : String) : Option Item :=
  (fs.find? (·.1 == key)).map (·.2)

/-- The fields with one of them put in place, at the end if it is new. -/
def put (fs : Fields) (key : String) (item : Item) : Fields :=
  if fs.any (·.1 == key) then fs.map fun f => if f.1 == key then (key, item) else f
  else fs ++ [(key, item)]

/-- Changes the table at the end of a path, which `change` learns the origin of. Tables that are
missing are made on the way, and of several tables the last one is entered. On the way of a key with
dots no table may be entered that a header has opened. -/
def descend (dotted : Bool) (change : Origin → Fields → Option Fields) :
    List String → Origin → Fields → Option Fields
  | [], origin, fs => change origin fs
  | key :: rest, _, fs =>
    match fs.get? key with
    | none => do
      let made := if dotted then .dotted else .path
      let inner ← descend dotted change rest made []
      return fs.put key (.table made inner)
    | some (.table origin inner) =>
      if dotted && origin = .header then none
      else do
        let inner ← descend dotted change rest origin inner
        return fs.put key (.table origin inner)
    | some (.tables all) => do
      let last ← all.getLast?
      let last ← descend dotted change rest .header last
      return fs.put key (.tables (all.dropLast ++ [last]))
    | some (.value _) => none

/-- A header opens a table. One that stood on the way of a longer header moves to the end. -/
def openTable (path : List String) (key : String) (root : Fields) : Option Fields :=
  descend false (fun _ fs =>
    match fs.get? key with
    | none => some (fs ++ [(key, .table .header [])])
    | some (.table .path inner) => some (fs.filter (·.1 ≠ key) ++ [(key, .table .header inner)])
    | _ => none) path .header root

/-- A header in double brackets adds a table to its kind. -/
def addTable (path : List String) (key : String) (root : Fields) : Option Fields :=
  descend false (fun _ fs =>
    match fs.get? key with
    | none => some (fs.put key (.tables [[]]))
    | some (.tables all) => some (fs.put key (.tables (all ++ [[]])))
    | _ => none) path .header root

/-- Sets a key, which must be new. Where the key has dots, the table it ends in must be one of those
that such keys make. -/
def assign (path : List String) (key : String) (v : Toml) (fs : Fields) : Option Fields :=
  descend true (fun origin fs =>
    if (!path.isEmpty && origin ≠ .dotted) || (fs.get? key).isSome then none
    else some (fs ++ [(key, .value v)])) path .header fs

/-- Sets a key in the table that a header has opened. -/
def assignIn (header path : List String) (key : String) (v : Toml) (root : Fields) :
    Option Fields :=
  descend false (fun _ fs => assign path key v fs) header .header root

end Fields

mutual

/-- The value that an item comes to. -/
def Item.toml : Item → Toml
  | .value v => v
  | .table _ fields => .table (tomlFields fields)
  | .tables all => .arr (tomlTables all)

def tomlFields : List (String × Item) → List (String × Toml)
  | [] => []
  | (key, item) :: rest => (key, item.toml) :: tomlFields rest

def tomlTables : List (List (String × Item)) → List Toml
  | [] => []
  | fields :: rest => .table (tomlFields fields) :: tomlTables rest

end

end RestartCoordinator.Toml
