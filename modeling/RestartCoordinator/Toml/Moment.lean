import RestartCoordinator.Toml.Number
/-!
# Marked dates and times

A table whose first key is `Toml.momentMark` stands for the date or the time that is the text of
that key; its other keys do not count. `Toml.withMoments?` puts dates and times in the places of
such tables.
-/
namespace RestartCoordinator.Toml

/-- The key that marks a date or a time. -/
def momentMark : String := "$__toml_private_datetime"

/-- The bounds for times in marked texts, which may go to the end of a day. -/
def TimeBounds.wide : TimeBounds := ⟨24, fun hour minute => hour * 60 + minute ≤ 24 * 60⟩

/-- The date or the time that is all of a text. -/
def ofMomentText? (text : String) : Option Toml :=
  match moment? .wide text.toList with
  | some (m, []) => some m
  | _ => none

mutual

/-- The value with dates and times for marked tables. None if the mark of one has no such text. -/
def withMoments? : Toml → Option Toml
  | .arr vs => (withMomentsItems? vs).map .arr
  | .table [] => some (.table [])
  | .table ((key, v) :: rest) =>
    if key = momentMark then
      match v with
      | .str t => ofMomentText? t
      | _ => none
    else do
      let v ← withMoments? v
      return .table ((key, v) :: (← withMomentsFields? rest))
  | v => some v

def withMomentsItems? : List Toml → Option (List Toml)
  | [] => some []
  | v :: rest => do
    let v ← withMoments? v
    return v :: (← withMomentsItems? rest)

def withMomentsFields? : List (String × Toml) → Option (List (String × Toml))
  | [] => some []
  | (key, v) :: rest => do
    let v ← withMoments? v
    return (key, v) :: (← withMomentsFields? rest)

end

end RestartCoordinator.Toml
