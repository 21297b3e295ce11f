import RestartCoordinator.Settings
import RestartCoordinator.Toml
/-!
# Settings from TOML values

Dates and times become texts, and everything else stays what it is.
-/
namespace RestartCoordinator.Setting

mutual

def ofToml : Toml → Setting
  | .str t => .text t
  | .int n => .int n
  | .float x => .float x
  | .bool b => .bool b
  | .moment t => .text t
  | .arr vs => .list (ofTomlItems vs)
  | .table fs => .table (ofTomlFields fs)

def ofTomlItems : List Toml → List Setting
  | [] => []
  | v :: rest => ofToml v :: ofTomlItems rest

def ofTomlFields : List (String × Toml) → List (String × Setting)
  | [] => []
  | (key, v) :: rest => (key, ofToml v) :: ofTomlFields rest

end

end RestartCoordinator.Setting
