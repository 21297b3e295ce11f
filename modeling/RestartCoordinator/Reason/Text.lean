import RestartCoordinator.Reason
import RestartCoordinator.Text.Blank
import RestartCoordinator.Text.Quoted
/-!
# Reasons and commands as text

A plain reason is written by its name, one with a subject as name, colon, subject. Reading takes
letters of ASCII in either case and blanks at the ends and around the colon, and keeps the subject
as it stands. `InputLine.parse` reads a line of input: a control word, or a reason and a command.
-/
namespace RestartCoordinator
open Text

/-- A text that names no reason, or no command. -/
structure UnknownReason where
  name : String
deriving DecidableEq, Repr

def UnknownReason.message (e : UnknownReason) : String :=
  "unknown reason: " ++ e.name

namespace PlainReason

/-- The plain reason of a name. -/
def ofName? (name : String) : Option PlainReason :=
  all.find? (·.name == name)

end PlainReason

namespace Reason

/-- The reason of a kind that carries a subject. -/
def withSubject? (kind subject : String) : Option Reason :=
  if kind = "changed" then some (.changed subject)
  else if kind = "launch_shortcut" then some (.launchShortcut subject)
  else none

/-- The text before the first colon and the text after it, if there is a colon. -/
def splitColon? (s : List Char) : Option (List Char × List Char) :=
  match s.dropWhile (· != ':') with
  | _ :: subject => some (s.takeWhile (· != ':'), subject)
  | [] => none

/-- Reads a name, or a kind and a subject that is not blank. -/
def parseChars (text : List Char) : Except UnknownReason Reason :=
  let s := trim text
  let unknown := UnknownReason.mk (String.ofList s)
  match splitColon? s with
  | some (kind, rest) =>
    let subject := trim rest
    if subject.isEmpty then .error unknown
    else
      match withSubject? (String.ofList (lower (trim kind))) (String.ofList subject) with
      | some r => .ok r
      | none => .error unknown
  | none =>
    match PlainReason.ofName? (String.ofList (lower s)) with
    | some r => .ok r
    | none => .error unknown

def parse (text : String) : Except UnknownReason Reason :=
  parseChars text.toList

/-- The written form that reading gives back: the name and, after a colon, the subject. -/
def render : Reason → String
  | .plain r => r.name
  | .changed subject => "changed:" ++ subject
  | .launchShortcut package => "launch_shortcut:" ++ package

/-- The reason with its subject in quotes. -/
def quoted : Reason → String
  | .plain r => r.title
  | .changed subject => "Changed(" ++ quote subject ++ ")"
  | .launchShortcut package => "LaunchShortcut(" ++ quote package ++ ")"

end Reason

namespace Command

def ofName? (name : String) : Option Command :=
  all.find? (·.name == name)

/-- Reads a command word; the failure names the word in lower case. -/
def parseChars (text : List Char) : Except UnknownReason Command :=
  let word := String.ofList (lower (trim text))
  match ofName? word with
  | some c => .ok c
  | none => .error ⟨word⟩

def parse (text : String) : Except UnknownReason Command :=
  parseChars text.toList

end Command

/-- What a line of input asks for. -/
inductive InputLine where
  | trigger (reason : Reason) (command : Command)
  | status
  | quit
  | blank
deriving DecidableEq, Repr

namespace InputLine

/-- The control words, told by the first word of a line alone. -/
def control? (word : List Char) : Option InputLine :=
  if word = "status".toList then some .status
  else if word = "quit".toList ∨ word = "exit".toList then some .quit
  else none

/-- Reads the words of a line: a control word, or a reason with an optional command. Words after
these are not looked at. -/
def ofWords : List (List Char) → Except UnknownReason InputLine
  | [] => .ok .blank
  | first :: rest =>
    match control? first with
    | some line => .ok line
    | none => do
      let reason ← Reason.parseChars first
      let command ← match rest with
        | word :: _ => Command.parseChars word
        | [] => .ok reason.command
      return .trigger reason command

def parse (line : String) : Except UnknownReason InputLine :=
  ofWords (words line.toList)

end InputLine
end RestartCoordinator
