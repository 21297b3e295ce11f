import RestartCoordinator.Reason.Json
import RestartCoordinator.Request
/-!
# Requests in JSON

A request is written without its identifier and its times.
-/
namespace RestartCoordinator.Request

def json (r : Request) : Json :=
  .obj [("reasons", Reason.jsonAll r.reasons), ("command", r.command.json),
    ("superseded", Reason.jsonAll r.superseded)]

end RestartCoordinator.Request
