import RestartCoordinator.Proofs.Reason.Spellings
/-!
# Lines of input

A line asks for something in one of the described forms: no word at all, a control word, a reason,
or a reason and a command. Every line of such a form is read as what it asks for. A line that goes
on behind a control word or behind a command is of none of these forms, and yet it is read as if it
ended there. Every other line is refused.
-/
namespace RestartCoordinator
open Text (Spaced spaced_iff)

namespace InputLine

variable {line : String} {answer : InputLine} {e : UnknownReason} {first word : List Char}
  {said more ws : List (List Char)} {r : Reason} {c : Command}

/-- The described forms of a line, by its words. -/
inductive Asks : List (List Char) → InputLine → Prop where
  | nothing : Asks [] .blank
  | status : Asks ["status".toList] .status
  | quit : Asks ["quit".toList] .quit
  | exit : Asks ["exit".toList] .quit
  | reason {first : List Char} {r : Reason} (hr : Reason.parseChars first = .ok r) :
      Asks [first] (.trigger r r.command)
  | command {first word : List Char} {r : Reason} {c : Command}
      (hr : Reason.parseChars first = .ok r) (hc : Command.parseChars word = .ok c) :
      Asks [first, word] (.trigger r c)

def controlWords : List (List Char) := ["status".toList, "quit".toList, "exit".toList]

/-- No further word is looked at: these end with a control word or with the place of a command. -/
inductive Full : List (List Char) → Prop where
  | control {first : List Char} (h : first ∈ controlWords) : Full [first]
  | command (first word : List Char) : Full [first, word]

/-- The line goes on behind the words of a described form that are full. -/
def RunsOn (line : String) : Prop :=
  ∃ said word more answer,
    Spaced line.toList (said ++ word :: more) ∧ Asks said answer ∧ Full said

/-- A word for which the line is refused, and what is said of it. -/
inductive Unread : List (List Char) → UnknownReason → Prop where
  | reason {first : List Char} {e : UnknownReason} (more : List (List Char))
      (hn : first ∉ controlWords) (hr : Reason.parseChars first = .error e) :
      Unread (first :: more) e
  | command {first word : List Char} {r : Reason} {e : UnknownReason} (more : List (List Char))
      (hr : Reason.parseChars first = .ok r) (hc : Command.parseChars word = .error e) :
      Unread (first :: word :: more) e

private theorem control?_eq_none_iff : control? first = none ↔ first ∉ controlWords := by
  unfold control? controlWords
  split
  · simp_all
  · split <;> simp_all

private theorem asks_of_control? (h : control? first = some answer) : Asks [first] answer := by
  unfold control? at h
  split at h
  · rename_i hs
    subst hs
    obtain rfl := Option.some.inj h
    exact .status
  · split at h
    · rename_i hq
      obtain rfl := Option.some.inj h
      rcases hq with rfl | rfl
      · exact .quit
      · exact .exit
    · cases h

private theorem ofWords_of_control (h : control? first = some answer) (more : List (List Char)) :
    ofWords (first :: more) = .ok answer := by
  simp only [ofWords, h]

private theorem ofWords_of_reason (hr : Reason.parseChars first = .ok r) :
    ofWords [first] = .ok (.trigger r r.command) := by
  simp only [ofWords, control?_of_parseChars hr, hr]
  rfl

private theorem ofWords_of_command (hr : Reason.parseChars first = .ok r)
    (hc : Command.parseChars word = .ok c) (more : List (List Char)) :
    ofWords (first :: word :: more) = .ok (.trigger r c) := by
  simp only [ofWords, control?_of_parseChars hr, hr, hc]
  rfl

private theorem Asks.ofWords_eq (h : Asks said answer) (hm : more = [] ∨ Full said) :
    ofWords (said ++ more) = .ok answer := by
  cases h with
  | nothing =>
    rcases hm with rfl | hf
    · rfl
    · cases hf
  | status => exact ofWords_of_control rfl more
  | quit => exact ofWords_of_control rfl more
  | exit => exact ofWords_of_control rfl more
  | reason hr =>
    rcases hm with rfl | hf
    · exact ofWords_of_reason hr
    · cases hf with
      | control hmem => exact absurd hmem (control?_eq_none_iff.mp (control?_of_parseChars hr))
  | command hr hc => exact ofWords_of_command hr hc more

private theorem Unread.ofWords_eq (h : Unread ws e) : ofWords ws = .error e := by
  cases h with
  | reason more hn hr =>
    simp only [ofWords, control?_eq_none_iff.mpr hn, hr]
    rfl
  | command more hr hc =>
    simp only [ofWords, control?_of_parseChars hr, hr, hc]
    rfl

/-- The words of a line begin with a described form, alone or full, or have a word that is not read.
-/
theorem asks_or_unread (ws : List (List Char)) :
    (∃ said more answer, ws = said ++ more ∧ Asks said answer ∧ (more = [] ∨ Full said)) ∨
      ∃ e, Unread ws e := by
  cases ws with
  | nil => exact .inl ⟨[], [], _, rfl, .nothing, .inl rfl⟩
  | cons first rest =>
    by_cases hmem : first ∈ controlWords
    · have hsome : control? first ≠ none := fun hn => control?_eq_none_iff.mp hn hmem
      obtain ⟨answer, hs⟩ := Option.ne_none_iff_exists'.mp hsome
      exact .inl ⟨[first], rest, answer, rfl, asks_of_control? hs, .inr (.control hmem)⟩
    · cases hr : Reason.parseChars first with
      | error e => exact .inr ⟨e, .reason rest hmem hr⟩
      | ok r =>
        cases rest with
        | nil => exact .inl ⟨[first], [], _, rfl, .reason hr, .inl rfl⟩
        | cons word more =>
          cases hc : Command.parseChars word with
          | error e => exact .inr ⟨e, .command more hr hc⟩
          | ok c => exact .inl ⟨[first, word], more, _, rfl, .command hr hc, .inr (.command _ _)⟩

private theorem ofWords_eq_ok_iff :
    ofWords ws = .ok answer ↔
      ∃ said more, ws = said ++ more ∧ Asks said answer ∧ (more = [] ∨ Full said) := by
  constructor
  · intro h
    rcases asks_or_unread ws with ⟨said, more, a, rfl, ha, hm⟩ | ⟨e, he⟩
    · obtain rfl := Except.ok.inj ((ha.ofWords_eq hm).symm.trans h)
      exact ⟨said, more, rfl, ha, hm⟩
    · rw [he.ofWords_eq] at h
      cases h
  · rintro ⟨said, more, rfl, ha, hm⟩
    exact ha.ofWords_eq hm

private theorem ofWords_eq_error_iff : ofWords ws = .error e ↔ Unread ws e := by
  refine ⟨fun h => ?_, Unread.ofWords_eq⟩
  rcases asks_or_unread ws with ⟨said, more, a, rfl, ha, hm⟩ | ⟨e', he⟩
  · rw [ha.ofWords_eq hm] at h
    cases h
  · obtain rfl := Except.error.inj (he.ofWords_eq.symm.trans h)
    exact he

private theorem Asks.not_append (hs : Asks said answer) (hf : Full said) (word : List Char)
    (more : List (List Char)) {other : InputLine} : ¬Asks (said ++ word :: more) other := by
  intro h
  cases hf with
  | command => cases h
  | control hmem =>
    cases h with
    | command hr => exact absurd hmem (control?_eq_none_iff.mp (control?_of_parseChars hr))

/-- A line that has a described form is read as what it asks for, and a line that goes on behind a
control word or a command as what it asks for up to there; no other line is accepted. A line is
refused exactly if its first word is neither a control word nor a reason, or if its first word is a
reason and the second is no command; the refusal names that word. So the described forms are all
that is accepted exactly for lines that do not go on in this way. -/
theorem parse_answers (line : String) :
    (∀ answer, parse line = .ok answer ↔
      ∃ said more, Spaced line.toList (said ++ more) ∧ Asks said answer ∧
        (more = [] ∨ Full said)) ∧
      (∀ e, parse line = .error e ↔ ∃ ws, Spaced line.toList ws ∧ Unread ws e) ∧
      ((∀ answer, parse line = .ok answer ↔
          ∃ said, Spaced line.toList said ∧ Asks said answer) ↔ ¬RunsOn line) := by
  have hok (answer : InputLine) : parse line = .ok answer ↔
      ∃ said more, Spaced line.toList (said ++ more) ∧ Asks said answer ∧
        (more = [] ∨ Full said) := by
    unfold parse
    rw [ofWords_eq_ok_iff]
    simp only [spaced_iff]
  refine ⟨hok, fun e => ?_, fun h => ?_, fun h answer => ?_⟩
  · unfold parse
    rw [ofWords_eq_error_iff]
    simp only [spaced_iff, exists_eq_left']
  · rintro ⟨said, word, more, answer, hs, ha, hf⟩
    have hread := (hok answer).mpr ⟨said, word :: more, hs, ha, .inr hf⟩
    obtain ⟨whole, hw, hasks⟩ := (h answer).mp hread
    obtain rfl := hs.words_eq.symm.trans hw.words_eq
    exact ha.not_append hf word more hasks
  · rw [hok]
    constructor
    · rintro ⟨said, more, hs, ha, hm⟩
      cases more with
      | nil =>
        rw [List.append_nil] at hs
        exact ⟨said, hs, ha⟩
      | cons word more =>
        rcases hm with hm | hf
        · cases hm
        · exact absurd ⟨said, word, more, answer, hs, ha, hf⟩ h
    · rintro ⟨said, hs, ha⟩
      exact ⟨said, [], by rwa [List.append_nil], ha, .inl rfl⟩

/-- Three words make a stop, and a word behind the one that ends the session is no matter. -/
theorem reads_what_runs_on :
    parse "ui stop now" = .ok (.trigger (.plain .ui) .stop) ∧ parse "quit later" = .ok .quit ∧
      (∀ said answer, Spaced "ui stop now".toList said → ¬Asks said answer) ∧
      (∀ said answer, Spaced "quit later".toList said → ¬Asks said answer) ∧
      ¬∀ (line : String) (answer : InputLine),
        parse line = .ok answer ↔ ∃ said, Spaced line.toList said ∧ Asks said answer := by
  have hstop : ∀ said answer, Spaced "ui stop now".toList said → ¬Asks said answer := by
    intro said answer hs ha
    have hw : said = ["ui".toList, "stop".toList, "now".toList] := hs.words_eq.symm
    subst hw
    cases ha
  have hquit : ∀ said answer, Spaced "quit later".toList said → ¬Asks said answer := by
    intro said answer hs ha
    have hw : said = ["quit".toList, "later".toList] := hs.words_eq.symm
    subst hw
    cases ha with
    | command hr => cases hr
  refine ⟨rfl, rfl, hstop, hquit, fun h => ?_⟩
  obtain ⟨said, hs, ha⟩ := (h "quit later" .quit).mp rfl
  exact hquit said _ hs ha

end InputLine
end RestartCoordinator
