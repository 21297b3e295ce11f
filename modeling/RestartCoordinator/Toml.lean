import RestartCoordinator.Binary64
/-!
# TOML values

What a TOML document holds. Dates and times are kept in the form in which they are written anew.
-/
namespace RestartCoordinator

inductive Toml where
  | str (value : String)
  | int (value : Int)
  | float (value : Binary64)
  | bool (value : Bool)
  /-- A date, a time or both. -/
  | moment (text : String)
  | arr (items : List Toml)
  | table (fields : List (String × Toml))

end RestartCoordinator
