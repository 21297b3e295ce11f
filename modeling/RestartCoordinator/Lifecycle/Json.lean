import RestartCoordinator.Lifecycle.Machine
import RestartCoordinator.Reason.Json
/-!
# Snapshots in JSON
-/
namespace RestartCoordinator.Lifecycle

def Snapshot.json (s : Snapshot) : Json :=
  .obj [("state", .str s.state.name), ("generation", .nat s.generation),
    ("reasons", Reason.jsonAll s.reasons), ("last_error", .ofOption .str s.lastError)]

end RestartCoordinator.Lifecycle
