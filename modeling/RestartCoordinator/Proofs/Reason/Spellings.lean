import RestartCoordinator.Proofs.Text.Words
import RestartCoordinator.Reason.Text
/-!
# Spellings of reasons

A reason may be written with its name in letters of either case, and in a line of input also with
blanks around it and a command behind it. All these spellings are read as that reason. A subject comes
back as it was if it is not empty and no blank stands at its ends, whatever else is in it; a subject
that is read is always of this kind.
-/
namespace RestartCoordinator
open Text

variable {r : Reason} {name text word : List Char}

/-- The characters of a name: there are some, and no blank, colon or capital letter is among them. -/
def IsName (name : List Char) : Prop :=
  name ≠ [] ∧ Solid name ∧ ':' ∉ name ∧ lower name = name

instance (name : List Char) : Decidable (IsName name) :=
  inferInstanceAs (Decidable (_ ∧ _))

private theorem isName_toList {chars : List Char} (h : IsName chars) :
    IsName (String.ofList chars).toList := by
  rwa [String.toList_ofList]

namespace Reason

/-- What the reason is about, besides its name. -/
def subject? : Reason → Option String
  | .plain _ => none
  | .changed subject => some subject
  | .launchShortcut package => some package

/-- The characters that follow the name in the written form. -/
def tail (r : Reason) : List Char :=
  match r.subject? with
  | none => []
  | some subject => ':' :: subject.toList

/-- The subject, if there is one, is not empty and keeps its ends when it is read. -/
def Legible (r : Reason) : Prop := ∀ s, r.subject? = some s → s ≠ "" ∧ Flush s.toList

/-- The subject, if there is one, is a single word. -/
def OneWord (r : Reason) : Prop := ∀ s, r.subject? = some s → s ≠ "" ∧ Solid s.toList

private theorem OneWord.legible (h : r.OneWord) :
    r.Legible := fun s hs => ⟨(h s hs).1, (h s hs).2.flush⟩

private theorem toList_render (r : Reason) : r.render.toList = r.name.toList ++ r.tail := by
  cases r with
  | plain r => exact (List.append_nil _).symm
  | changed s =>
    change ("changed:" ++ s).toList = _
    simp [name, tail, subject?]
  | launchShortcut s =>
    change ("launch_shortcut:" ++ s).toList = _
    simp [name, tail, subject?]

private theorem toList_ne_nil {s : String} (h : s ≠ "") : s.toList ≠ [] := by
  intro hs
  apply h
  rw [← String.ofList_toList (s := s), hs]

private theorem isName_name (r : Reason) : IsName r.name.toList := by
  cases r with
  | plain r => cases r <;> exact isName_toList (by decide)
  | changed s => exact isName_toList (by decide)
  | launchShortcut s => exact isName_toList (by decide)

private theorem ofName?_name (r : PlainReason) : PlainReason.ofName? r.name = some r := by
  cases r <;> decide

/-- The characters are the name of the reason in letters of either case. -/
def Named (r : Reason) (name : List Char) : Prop := lower name = lower r.name.toList

private theorem Named.lower_eq (h : r.Named name) : lower name = r.name.toList :=
  h.trans r.isName_name.2.2.2

private theorem Named.solid (h : r.Named name) : Solid name := by
  apply solid_of_lower
  rw [h.lower_eq]
  exact r.isName_name.2.1

private theorem Named.ne_nil (h : r.Named name) : name ≠ [] := by
  rw [← lower_ne_nil_iff, h.lower_eq]
  exact r.isName_name.1

private theorem Named.not_mem_colon (h : r.Named name) : ':' ∉ name := by
  intro hc
  have hmem : ':' ∈ lower name := List.mem_map.mpr ⟨':', hc, rfl⟩
  rw [h.lower_eq] at hmem
  exact r.isName_name.2.2.1 hmem

private theorem splitColon?_of_not_mem (h : ':' ∉ text) : splitColon? text = none := by
  have hdrop : text.dropWhile (· != ':') = [] := by
    rw [← List.append_nil text, List.dropWhile_append_of_pos]
    · rfl
    · intro c hc
      exact bne_iff_ne.mpr fun heq => h (heq ▸ hc)
  rw [splitColon?, hdrop]

private theorem splitColon?_append (h : ':' ∉ name) (rest : List Char) :
    splitColon? (name ++ ':' :: rest) = some (name, rest) := by
  have hpos : ∀ c ∈ name, (c != ':') = true := fun c hc => bne_iff_ne.mpr fun heq => h (heq ▸ hc)
  rw [splitColon?, List.dropWhile_append_of_pos hpos, List.takeWhile_append_of_pos hpos]
  simp

private theorem flush_spelling (hr : r.Legible) (hn : r.Named name) : Flush (name ++ r.tail) := by
  have hname : Flush name := hn.solid.flush
  unfold tail
  cases hs : r.subject? with
  | none => rwa [List.append_nil]
  | some s =>
    obtain ⟨hne, hflush⟩ := hr s hs
    have hcolon : Flush [':'] := Solid.flush (by decide)
    have htail : Flush (':' :: s.toList) :=
      hcolon.append hflush (List.cons_ne_nil _ _) (toList_ne_nil hne)
    exact hname.append htail hn.ne_nil (List.cons_ne_nil _ _)

private theorem parseChars_append {s : String} (hne : s ≠ "") (hs : Flush s.toList)
    (hn : r.Named name)
    (hk : withSubject? r.name s = some r) (hf : Flush (name ++ ':' :: s.toList)) :
    parseChars (name ++ ':' :: s.toList) = .ok r := by
  have hempty : s.toList.isEmpty = false := by simpa using toList_ne_nil hne
  unfold parseChars
  simp only [trim_of_flush hf, splitColon?_append hn.not_mem_colon, trim_of_flush hs, hempty,
    trim_of_flush hn.solid.flush, hn.lower_eq, String.ofList_toList, hk, Bool.false_eq_true,
    if_false]

/-- Every spelling of a legible reason is read as that reason. -/
theorem parseChars_spelling (hr : r.Legible) (hn : r.Named name) :
    parseChars (name ++ r.tail) = .ok r := by
  have hf := flush_spelling hr hn
  cases r with
  | plain r =>
    have hcolon : splitColon? (name ++ tail (.plain r)) = none :=
      splitColon?_of_not_mem (by simpa [tail, subject?] using hn.not_mem_colon)
    have hlower : lower (name ++ tail (.plain r)) = r.name.toList := by
      rw [tail, subject?, List.append_nil]
      exact hn.lower_eq
    unfold parseChars
    simp only [trim_of_flush hf, hcolon, hlower, String.ofList_toList, ofName?_name]
  | changed s => exact parseChars_append (hr s rfl).1 (hr s rfl).2 hn rfl hf
  | launchShortcut s => exact parseChars_append (hr s rfl).1 (hr s rfl).2 hn rfl hf

private theorem subject?_of_withSubject? {kind subject : String}
    (h : withSubject? kind subject = some r) : r.subject? = some subject := by
  unfold withSubject? at h
  split at h
  · obtain rfl := Option.some.inj h
    rfl
  · split at h
    · obtain rfl := Option.some.inj h
      rfl
    · cases h

private theorem legible_of_parseChars (h : parseChars text = .ok r) : r.Legible := by
  unfold parseChars at h
  dsimp only at h
  intro s hs
  split at h
  · rename_i kind rest _
    split at h
    · cases h
    · rename_i hempty
      split at h
      · rename_i r' hk
        cases h
        obtain rfl := Option.some.inj ((subject?_of_withSubject? hk).symm.trans hs)
        rw [String.toList_ofList]
        refine ⟨fun heq => hempty ?_, flush_trim rest⟩
        have hnil : (String.ofList (trim rest)).toList = [] := by rw [heq]; rfl
        rw [String.toList_ofList] at hnil
        rw [hnil]
        rfl
      · cases h
  · split at h
    · cases h
      cases hs
    · cases h

private theorem parse_render_iff (r : Reason) : parse r.render = .ok r ↔ r.Legible := by
  constructor
  · exact legible_of_parseChars
  · intro hr
    rw [parse, toList_render]
    exact parseChars_spelling hr rfl

private theorem solid_spelling (hr : r.OneWord) (hn : r.Named name) : Solid (name ++ r.tail) := by
  intro c hc
  rcases List.mem_append.mp hc with hc | hc
  · exact hn.solid c hc
  · unfold tail at hc
    cases hs : r.subject? with
    | none => simp [hs] at hc
    | some s =>
      simp only [hs, List.mem_cons] at hc
      rcases hc with rfl | hc
      · decide
      · exact (hr s hs).2 c hc

end Reason

namespace Command

private theorem isName_name (c : Command) : IsName c.name.toList := by
  cases c <;> exact isName_toList (by decide)

private theorem ofName?_name (c : Command) : ofName? c.name = some c := by
  cases c <;> decide

/-- The characters are the name of the command in letters of either case. -/
def Named (c : Command) (word : List Char) : Prop := lower word = lower c.name.toList

variable {c : Command}

private theorem Named.lower_eq (h : c.Named word) : lower word = c.name.toList :=
  h.trans c.isName_name.2.2.2

private theorem Named.solid (h : c.Named word) : Solid word := by
  apply solid_of_lower
  rw [h.lower_eq]
  exact c.isName_name.2.1

private theorem Named.ne_nil (h : c.Named word) : word ≠ [] := by
  rw [← lower_ne_nil_iff, h.lower_eq]
  exact c.isName_name.1

private theorem parseChars_of_named (h : c.Named word) : parseChars word = .ok c := by
  unfold parseChars
  simp only [trim_of_flush h.solid.flush, h.lower_eq, String.ofList_toList, ofName?_name]

end Command

namespace InputLine

theorem control?_of_parseChars (h : Reason.parseChars word = .ok r) : control? word = none := by
  have hnot (w : String) (hw : Reason.parseChars w.toList = .error ⟨w⟩) : word ≠ w.toList := by
    rintro rfl
    rw [hw] at h
    cases h
  have hstatus := hnot "status" rfl
  have hquit := hnot "quit" rfl
  have hexit := hnot "exit" rfl
  unfold control?
  rw [if_neg hstatus, if_neg (not_or.mpr ⟨hquit, hexit⟩)]

private theorem parse_spelling {lead name trail : List Char} (hr : r.OneWord) (hn : r.Named name)
    (hl : Blanks lead) (ht : Blanks trail) :
    parse (String.ofList (lead ++ (name ++ r.tail) ++ trail)) = .ok (.trigger r r.command) ∧
      ∀ (c : Command) (gap word : List Char), gap ≠ [] → Blanks gap → c.Named word →
        parse (String.ofList (lead ++ (name ++ r.tail) ++ gap ++ word ++ trail)) =
          .ok (.trigger r c) := by
  have hsolid := Reason.solid_spelling hr hn
  have hne : name ++ r.tail ≠ [] := by simp [hn.ne_nil]
  have hread := Reason.parseChars_spelling hr.legible hn
  have hcontrol := control?_of_parseChars hread
  constructor
  · rw [parse, String.toList_ofList, words_around hl ht hsolid hne]
    simp only [ofWords, hcontrol, hread]
    rfl
  · intro c gap word hgap hg hc
    have hcommand := Command.parseChars_of_named hc
    rw [parse, String.toList_ofList, words_around_two hl hg ht hgap hsolid hne hc.solid hc.ne_nil]
    simp only [ofWords, hcontrol, hread, hcommand]
    rfl

end InputLine

namespace Reason

/-- What a text is read as is read again from its written form. A reason comes back from its written
form exactly if its subject, should it have one, is not empty and has no blank at its ends. In a line
of input a reason whose subject is a single word may be written with its name in letters of either
case, with blanks around it, and with a command behind it, also in letters of either case: the line is
a trigger with that command or, without one, with the command that the reason implies. -/
theorem spellings_read_back :
    (∀ (text : String) (r : Reason), parse text = .ok r → parse r.render = .ok r) ∧
      (∀ r : Reason, parse r.render = .ok r ↔
        ∀ s, r.subject? = some s → s ≠ "" ∧ Flush s.toList) ∧
      ∀ r : Reason, (∀ s, r.subject? = some s → s ≠ "" ∧ Solid s.toList) →
        r.render.toList = r.name.toList ++ r.tail ∧
          ∀ lead name trail : List Char, Blanks lead → Blanks trail →
            lower name = lower r.name.toList →
            InputLine.parse (String.ofList (lead ++ (name ++ r.tail) ++ trail)) =
                .ok (.trigger r r.command) ∧
              ∀ (c : Command) (gap word : List Char), gap ≠ [] → Blanks gap →
                lower word = lower c.name.toList →
                InputLine.parse (String.ofList (lead ++ (name ++ r.tail) ++ gap ++ word ++ trail)) =
                  .ok (.trigger r c) := by
  refine ⟨fun text r h => ?_, parse_render_iff, fun r hr => ⟨r.toList_render, ?_⟩⟩
  · exact r.parse_render_iff.mpr (legible_of_parseChars h)
  · intro lead name trail hl ht hn
    exact InputLine.parse_spelling hr hn hl ht

/-- A subject with a colon in it, behind a name in capital letters, between blanks of four kinds. -/
theorem spellings_read_back_of_colon :
    (parse " Changed : a b" = .ok (.changed "a b") ∧
        parse (Reason.changed "a b").render = .ok (.changed "a b")) ∧
      (Blanks ['\u00a0'] ∧ Blanks ['\u2003', ' '] ∧ Blanks ['\t'] ∧
        lower "CHANGED".toList = lower (Reason.changed "dns:Log").name.toList) ∧
      InputLine.parse (String.ofList (['\u00a0'] ++ ("CHANGED".toList ++ ":dns:Log".toList) ++
        ['\u2003', ' '] ++ "sTop".toList ++ ['\t'])) =
          .ok (.trigger (.changed "dns:Log") .stop) := by
  obtain ⟨hagain, -, hlines⟩ := spellings_read_back
  have hread : parse " Changed : a b" = .ok (.changed "a b") := rfl
  have hword : ∀ s, (Reason.changed "dns:Log").subject? = some s → s ≠ "" ∧ Solid s.toList := by
    intro s hs
    obtain rfl := Option.some.inj hs
    decide
  have hblanks : Blanks ['\u00a0'] ∧ Blanks ['\u2003', ' '] ∧ Blanks ['\t'] ∧
      lower "CHANGED".toList = lower (Reason.changed "dns:Log").name.toList := by decide
  obtain ⟨hlead, hgap, htrail, hname⟩ := hblanks
  obtain ⟨-, hline⟩ := hlines (.changed "dns:Log") hword
  refine ⟨⟨hread, hagain _ _ hread⟩, ⟨hlead, hgap, htrail, hname⟩, ?_⟩
  exact (hline _ _ _ hlead htrail hname).2 .stop _ _ (List.cons_ne_nil _ _) hgap (by decide)

end Reason
end RestartCoordinator
