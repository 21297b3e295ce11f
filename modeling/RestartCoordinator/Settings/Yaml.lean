import RestartCoordinator.Binary64.Reader
import RestartCoordinator.Settings
import RestartCoordinator.Yaml.Reader
/-!
# Settings from YAML nodes

A scalar without quotes is a null, a Boolean, a number or a text, by the way it is written; its tag
may ask for one of these. An alias stands for the node that its anchor marks. A table must not have
two fields of one name.
-/
namespace RestartCoordinator.Setting
open Text

/-- A whole number of 64 bits with a sign. -/
def int64? (base : Nat) (s : List Char) : Option Int := do
  let (negative, digits) := Binary64.sign s
  if digits.isEmpty then none
  let n : Int := ← valueIn? base digits
  let n := if negative then -n else n
  if Int64.minValue.toInt ≤ n ∧ n ≤ Int64.maxValue.toInt then return n else none

/-- A whole number with a mark for its base or a plus sign, or in plain digits. -/
def ofWhole? (s : List Char) : Option Setting :=
  let marked := match s with
    | '0' :: 'x' :: r => int64? 16 r
    | '0' :: 'o' :: r => int64? 8 r
    | '+' :: r => int64? 10 r
    | _ => none
  (marked <|> int64? 10 s).map .int

/-- Numbers that are written in a way that no setting can have. -/
def unwritten : List String :=
  [".inf", ".Inf", ".INF", "+.inf", "+.Inf", "+.INF", "-.inf", "-.Inf", "-.INF", ".nan", ".NAN"]

/-- What a scalar without quotes says. -/
def ofPlain? (t : String) : Option Setting :=
  let s := t.toList
  if unwritten.contains t then none
  else if t = "~" || t = "null" then some .absent
  else if t = "true" then some (.bool true)
  else if t = "false" then some (.bool false)
  else some ((ofWhole? s <|> (Binary64.ofText? s).map Setting.float).getD (.text t))

/-- What a scalar without quotes says if its tag asks for a kind. One of another kind is nothing. -/
def ofTagged? (tag t : String) : Option Setting :=
  let s := t.toList
  if tag = "!bool" then
    some (if t = "true" then .bool true else if t = "false" then .bool false else .absent)
  else if tag = "!int" then some (((int64? 10 s).map Setting.int).getD .absent)
  else if tag = "!float" then
    if unwritten.contains t then none
    else some (((Binary64.ofText? s).map Setting.float).getD .absent)
  else if tag = "!null" then some .absent
  else some (.text t)

/-- Settings by the names of their anchors, the last one first. -/
abbrev Anchors := List (String × Setting)

mutual

def ofYaml? (seen : Anchors) : Yaml → Option (Setting × Anchors)
  | .plain t => (ofPlain? t).map (·, seen)
  | .quoted t => some (.text t, seen)
  | .seq vs => (ofYamlItems? seen vs).map fun (vs, seen) => (.list vs, seen)
  | .map fs =>
    if (fs.map (·.1)).Nodup then
      (ofYamlFields? seen fs).map fun (fs, seen) => (.table fs, seen)
    else none
  | .tagged tag v =>
    match v with
    | .plain t => (ofTagged? tag t).map (·, seen)
    | v => ofYaml? seen v
  | .anchored name v => (ofYaml? seen v).map fun (v, seen) => (v, (name, v) :: seen)
  | .alias name => (seen.find? (·.1 = name)).map fun (_, v) => (v, seen)

def ofYamlItems? (seen : Anchors) : List Yaml → Option (List Setting × Anchors)
  | [] => some ([], seen)
  | v :: rest => do
    let (v, seen) ← ofYaml? seen v
    let (vs, seen) ← ofYamlItems? seen rest
    return (v :: vs, seen)

def ofYamlFields? (seen : Anchors) :
    List (String × Yaml) → Option (List (String × Setting) × Anchors)
  | [] => some ([], seen)
  | (key, v) :: rest => do
    let (v, seen) ← ofYaml? seen v
    let (fs, seen) ← ofYamlFields? seen rest
    return ((key, v) :: fs, seen)

end

end RestartCoordinator.Setting
