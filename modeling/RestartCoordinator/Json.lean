/-!
# JSON values

Numbers are kept in two kinds: whole numbers written without fraction and exponent, and all others,
which are held as they are written.
-/
namespace RestartCoordinator

inductive Json where
  | null
  | bool (value : Bool)
  | int (value : Int)
  /-- A number with a fraction or an exponent, as written. -/
  | decimal (text : String)
  | str (value : String)
  | arr (items : List Json)
  | obj (fields : List (String × Json))
deriving Inhabited

namespace Json

/-- The value of a key. -/
def get? (key : String) : Json → Option Json
  | .obj fields => (fields.find? (·.1 == key)).map (·.2)
  | _ => none

/-- One of several named forms: its name alone, or an object with the name as only key and what the
form carries. -/
def variant? : Json → Option (String × Json)
  | .str name => some (name, .null)
  | .obj [(name, content)] => some (name, content)
  | _ => none

/-- The one of several values that is named and carries nothing. -/
def choice? (name : α → String) (all : List α) (v : Json) : Option α := do
  let (written, content) ← v.variant?
  match content with
  | .null => all.find? (name · == written)
  | _ => none

def nat (n : Nat) : Json := .int n

/-- A value, or null. -/
def ofOption (f : α → Json) : Option α → Json
  | some a => f a
  | none => .null

def list (f : α → Json) (as : List α) : Json := .arr (as.map f)

mutual

/-- How deep lists and objects are nested. -/
def depth : Json → Nat
  | .arr items => depthOfItems items + 1
  | .obj fields => depthOfFields fields + 1
  | _ => 0

def depthOfItems : List Json → Nat
  | [] => 0
  | v :: rest => max (depth v) (depthOfItems rest)

def depthOfFields : List (String × Json) → Nat
  | [] => 0
  | (_, v) :: rest => max (depth v) (depthOfFields rest)

end

end Json
end RestartCoordinator
