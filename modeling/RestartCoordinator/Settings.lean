import RestartCoordinator.Binary64
import RestartCoordinator.Text.Small
/-!
# Settings

A tree of settings that is filled from several sources, of which a later one wins. A source gives
values by paths: names with dots between them, and indices in brackets. A table is laid over what is
there key by key, and any other value takes its place. Names have no case: they are kept in small
letters.
-/
namespace RestartCoordinator
open Text

inductive Setting where
  /-- Nothing: a null, or an item of a list that was never set. -/
  | absent
  | bool (value : Bool)
  | int (value : Int)
  | float (value : Binary64)
  | text (value : String)
  | list (items : List Setting)
  | table (fields : List (String × Setting))
deriving Inhabited

/-- A step of a path. -/
inductive PathStep where
  | key (name : String)
  /-- An item of a list; a negative number counts from the end. -/
  | index (number : Int)
deriving DecidableEq, Repr

namespace PathStep

def isNameChar (c : Char) : Bool := c.isAlphanum || c = ' ' || c = '_' || c = '-'

def skipBlanks (s : List Char) : List Char := s.dropWhile fun c => c = ' ' || c = '\t'

/-- A number of 64 bits with a sign and the bracket after it; blanks may stand around the number. -/
def index? (s : List Char) : Option (Int × List Char) :=
  let (negative, digits) := match skipBlanks s with
    | '-' :: r => (true, r)
    | r => (false, r)
  let n : Int := digitsValue (digits.takeWhile isDigit)
  let n := if negative then -n else n
  match digits.takeWhile isDigit, skipBlanks (digits.dropWhile isDigit) with
  | _ :: _, ']' :: r =>
    if Int64.minValue.toInt ≤ n ∧ n ≤ Int64.maxValue.toInt then some (n, r) else none
  | _, _ => none

/-- The steps after the first name of a path. -/
def ofTail? : Nat → List Char → Option (List PathStep)
  | _, [] => some []
  | fuel + 1, '.' :: s =>
    let name := s.takeWhile isNameChar
    if name.isEmpty then none
    else (ofTail? fuel (s.dropWhile isNameChar)).map (.key (String.ofList name) :: ·)
  | fuel + 1, '[' :: s => do
    let (n, r) ← index? s
    return .index n :: (← ofTail? fuel r)
  | _, _ => none

/-- The path that a text writes. A text that writes none is a name as a whole. -/
def ofText (s : List Char) : List PathStep :=
  let name := s.takeWhile isNameChar
  let whole := [PathStep.key (String.ofList s)]
  if name.isEmpty then whole
  else
    match ofTail? s.length (s.dropWhile isNameChar) with
    | some rest => .key (String.ofList name) :: rest
    | none => whole

/-- The place of an item in a list of so many items. None before the beginning, and none beyond what
a list can grow to. -/
def place? (index : Int) (length : Nat) : Option Nat :=
  let n := if index < 0 then length + index else index
  if n < 0 ∨ 0xffff_ffff < n then none else some n.toNat

end PathStep

namespace Setting

/-- The fields of a table; anything else has none. -/
def fields : Setting → List (String × Setting)
  | .table fs => fs
  | _ => []

/-- The items of a list; anything else has none. -/
def items : Setting → List Setting
  | .list vs => vs
  | _ => []

def get? (s : Setting) (key : String) : Option Setting :=
  (s.fields.find? (·.1 == key)).map (·.2)

/-- A table with one field put in place. -/
def put (s : Setting) (key : String) (v : Setting) : Setting :=
  if s.fields.any (·.1 == key) then
    .table (s.fields.map fun f => if f.1 == key then (key, v) else f)
  else .table (s.fields ++ [(key, v)])

/-- The fields without those that a later one of the same name replaces. -/
def lastOfEach : List (String × α) → List (String × α)
  | [] => []
  | f :: rest => if rest.any (·.1 == f.1) then lastOfEach rest else f :: lastOfEach rest

/-- A list with one item put in place, and longer if need be. -/
def putAt (s : Setting) (index : Nat) (v : Setting) : Setting :=
  let items := s.items ++ List.replicate (index + 1 - s.items.length) .absent
  .list (items.set index v)

mutual

/-- What a value makes of the one that is there. -/
def layOver (old : Option Setting) : Setting → Setting
  | .table fs => layFields (old.getD (.table [])) fs
  | v => v

/-- Fields laid over what is there, one after the other. -/
def layFields (old : Setting) : List (String × Setting) → Setting
  | [] => old
  | (name, v) :: rest =>
    let key := smallText name
    layFields (old.put key (layOver (old.get? key) v)) rest

end

/-- Sets the value at a path. What is on the way and cannot hold the next step gives way. None if a
step counts back beyond the beginning of a list. -/
def assign? (v : Setting) : List PathStep → Option Setting → Option Setting
  | [], old => some (layOver old v)
  | [.index i], old => do
    let s := old.getD (.list [])
    return s.putAt (← PathStep.place? i s.items.length) v
  | .key name :: rest, old => do
    let s := old.getD (.table [])
    let key := smallText name
    return s.put key (← assign? v rest (s.get? key))
  | .index i :: rest, old => do
    let s := old.getD (.list [])
    let place ← PathStep.place? i s.items.length
    return s.putAt place (← assign? v rest s.items[place]?)

/-- A source laid over the settings: values with the texts of their paths. -/
def layer? (s : Setting) (source : List (String × Setting)) : Option Setting :=
  source.foldlM (fun s (path, v) => assign? v (PathStep.ofText path.toList) (some s)) s

/-- The words for yes. -/
def yes : List String := ["true", "on", "yes"]

/-- The words for no. -/
def no : List String := ["false", "off", "no"]

/-- A number of 64 bits written in digits, perhaps after a plus sign. -/
def natOfText? (t : String) : Option Nat := do
  let digits := match t.toList with
    | '+' :: r => r
    | r => r
  if digits.isEmpty || !digits.all isDigit then none
  let n := digitsValue digits
  if n < UInt64.size then some n else none

/-- The setting as a number below 2^64. -/
def toNat? : Setting → Option Nat
  | .int n => if 0 ≤ n then some n.toNat else none
  | .bool b => some b.toNat
  | .float x => some (x.toNatUpTo (UInt64.size - 1))
  | .text t =>
    if yes.contains (smallText t) then some 1
    else if no.contains (smallText t) then some 0
    else natOfText? t
  | _ => none

def toBool? : Setting → Option Bool
  | .bool b => some b
  | .int n => some (n ≠ 0)
  | .float x => some !x.isZero
  | .text t =>
    if ("1" :: yes).contains (smallText t) then some true
    else if ("0" :: no).contains (smallText t) then some false
    else none
  | _ => none

def toText? : Setting → Option String
  | .text t => some t
  | .bool b => some (if b then "true" else "false")
  | .int n => some (toString n)
  | .float x => some x.text
  | _ => none

end Setting
end RestartCoordinator
