import RestartCoordinator.Json.Reader
import RestartCoordinator.Settings
/-!
# Settings from JSON

A whole number that does not fit in 64 bits with a sign becomes one of `Binary64`, like a number
with a fraction or an exponent.
-/
namespace RestartCoordinator.Setting

/-- A number as `Binary64` has it. -/
def ofNumberText (text : String) : Setting := .float ((Binary64.ofText? text.toList).getD .nan)

mutual

def ofJson : Json → Setting
  | .null => .absent
  | .bool b => .bool b
  | .int n =>
    if Int64.minValue.toInt ≤ n ∧ n ≤ Int64.maxValue.toInt then .int n
    else ofNumberText (toString n)
  | .decimal t => ofNumberText t
  | .str t => .text t
  | .arr vs => .list (ofJsonItems vs)
  | .obj fs => .table (ofJsonFields fs)

def ofJsonItems : List Json → List Setting
  | [] => []
  | v :: rest => ofJson v :: ofJsonItems rest

def ofJsonFields : List (String × Json) → List (String × Setting)
  | [] => []
  | (key, v) :: rest => (key, ofJson v) :: ofJsonFields rest

end

end RestartCoordinator.Setting
