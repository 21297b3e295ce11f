/-!
# YAML nodes

What a YAML document holds. A scalar without quotes is kept as it is written, since its tag may say
how it is to be read.
-/
namespace RestartCoordinator

inductive Yaml where
  /-- A scalar without quotes; an empty one is written as a tilde. -/
  | plain (text : String)
  | quoted (text : String)
  | seq (items : List Yaml)
  | map (fields : List (String × Yaml))
  | tagged (tag : String) (node : Yaml)
  | anchored (name : String) (node : Yaml)
  | alias (name : String)
deriving Inhabited

namespace Yaml

/-- A node that is left out. -/
def empty : Yaml := .plain "~"

end Yaml
end RestartCoordinator
