import RestartCoordinator.Reason.Text
import RestartCoordinator.Json
/-!
# Reasons as JSON

A plain reason is its name; one with a subject is an object whose only key is the name.
-/
namespace RestartCoordinator

def Command.json (c : Command) : Json := .str c.name

namespace Reason

def json : Reason → Json
  | .plain r => .str r.name
  | .changed subject => .obj [("changed", .str subject)]
  | .launchShortcut package => .obj [("launch_shortcut", .str package)]

def jsonAll (rs : List Reason) : Json := .list json rs

def ofJson? (v : Json) : Option Reason := do
  let (name, content) ← v.variant?
  match content with
  | .str subject => withSubject? name subject
  | .null => (PlainReason.ofName? name).map .plain
  | _ => none

theorem ofJson?_json (r : Reason) : ofJson? r.json = some r := by
  cases r with
  | plain r => cases r <;> decide
  | changed s => simp [json, ofJson?, Json.variant?, withSubject?]
  | launchShortcut s => simp [json, ofJson?, Json.variant?, withSubject?]

end Reason
end RestartCoordinator
