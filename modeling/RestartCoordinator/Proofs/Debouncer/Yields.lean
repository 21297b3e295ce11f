import Mathlib.Data.List.Forall2
import RestartCoordinator.Proofs.Debouncer.Gathers
/-!
# What the debouncer yields

A debouncer is used by folding triggers in, closing its window, closing it only if its end has come,
and giving it up. Whatever it yields on the way stands for a block of triggers, and these blocks,
with the one that the open window has gathered, are the triggers folded in, one after the other: no
reason is lost, none is yielded twice and none changes its place.
-/
namespace RestartCoordinator

/-- One use of a debouncer. -/
inductive DebouncerMove where
  | fold (id : RequestId) (t : Trigger) (now : Time)
  | close (id : RequestId) (now : Time)
  | closeIfDue (id : RequestId) (now : Time)
  | discard

/-- What a use of the debouncer gives out. -/
inductive Yield where
  /-- A stop gave a request at once. -/
  | preempting (r : Request)
  | closed (r : Request)
  | discarded (reasons : List Reason)
deriving DecidableEq

namespace DebouncerMove

/-- The triggers that a use folds in. -/
def folded : DebouncerMove → List Trigger
  | .fold _ t _ => [t]
  | _ => []

end DebouncerMove

namespace Yield

/-- All reasons given out, those superseded first: they came before the stop. -/
def reasons : Yield → List Reason
  | .preempting r => r.superseded ++ r.reasons
  | .closed r => r.reasons
  | .discarded reasons => reasons

/-- What is given out stands for the block of triggers. -/
inductive StandsFor : Yield → List Trigger → Prop
  | preempting {r : Request} {before : List Trigger} {t : Trigger}
      (before_not_isStop : ∀ t ∈ before, t.isStop = false) (trigger_isStop : t.isStop)
      (isStop : r.isStop) (reasons_eq : r.reasons = [t.reason])
      (superseded_eq : r.superseded = before.map (·.reason)) :
      StandsFor (.preempting r) (before ++ [t])
  | closed {r : Request} {block : List Trigger} (nonempty : block ≠ [])
      (not_isStop : ∀ t ∈ block, t.isStop = false) (reasons_eq : r.reasons = block.map (·.reason))
      (command_eq : r.command = if ∃ t ∈ block, t.command = .start then .start else .reload)
      (superseded_eq : r.superseded = []) :
      StandsFor (.closed r) block
  | discarded {block : List Trigger} (not_isStop : ∀ t ∈ block, t.isStop = false) :
      StandsFor (.discarded (block.map (·.reason))) block

variable {y : Yield} {ys : List Yield} {block : List Trigger} {blocks : List (List Trigger)}

private theorem StandsFor.reasons_eq (h : y.StandsFor block) :
    y.reasons = block.map (·.reason) := by
  cases h with
  | preempting _ _ _ hr hs => simp [reasons, hr, hs]
  | closed _ _ hr => simpa [reasons] using hr
  | discarded => rfl

private theorem flatMap_reasons_eq (h : List.Forall₂ StandsFor ys blocks) :
    ys.flatMap reasons = blocks.flatten.map (·.reason) := by
  induction h with
  | nil => rfl
  | cons hy _ ih => simp [ih, hy.reasons_eq]

end Yield

namespace Debouncer

def step (d : Debouncer) : DebouncerMove → Debouncer × List Yield
  | .fold id t now =>
    match d.fold id t now with
    | (.preempted r, d') => (d', [.preempting r])
    | (_, d') => (d', [])
  | .close id now =>
    let (r, d') := d.close id now
    (d', r.toList.map .closed)
  | .closeIfDue id now =>
    let (r, d') := d.closeIfDue id now
    (d', r.toList.map .closed)
  | .discard =>
    let (reasons, d') := d.discard
    (d', [.discarded reasons])

/-- Any number of uses, with all they give out, the first first. -/
def run (d : Debouncer) : List DebouncerMove → Debouncer × List Yield
  | [] => (d, [])
  | m :: moves =>
    let (next, yields) := d.step m
    let (last, more) := next.run moves
    (last, yields ++ more)

/-- The reasons in the open window, none if it is closed. -/
def gathered (d : Debouncer) : List Reason := (d.window.map (·.reasons)).getD []

/-- The triggers fall into blocks, one for each thing given out and a last one for the open
window. -/
def Accounts (d : Debouncer) (yields : List Yield) (triggers : List Trigger) : Prop :=
  ∃ blocks rest, triggers = blocks.flatten ++ rest ∧
    List.Forall₂ Yield.StandsFor yields blocks ∧ d.Gathers rest

variable {d : Debouncer} {block triggers : List Trigger} {t : Trigger} {yields : List Yield}

private theorem Gathers.close (h : d.Gathers block) (id : RequestId) (now : Time) :
    (∃ r, d.close id now = (some r, { d with window := none }) ∧
      (Yield.closed r).StandsFor block) ∨
    (d.close id now = (none, { d with window := none }) ∧ block = []) := by
  cases hw : d.window with
  | none =>
    right
    exact ⟨by simp [Debouncer.close, hw], by simpa [Gathers, hw] using h⟩
  | some w =>
    have hg : w.Gathers block := by simpa [Gathers, hw] using h
    left
    refine ⟨⟨id, w.reasons, w.command, [], w.start, now⟩, by simp [Debouncer.close, hw], ?_⟩
    have hns : block.any (·.command == .stop) = false := by
      apply List.any_eq_false.mpr
      intro t ht
      simpa [Trigger.isStop] using hg.not_isStop t ht
    refine .closed hg.nonempty hg.not_isStop hg.reasons_eq ?_ rfl
    change w.command = _
    rw [hg.command_eq]
    simp [prevailing, hns]

/-- A block, with the triggers of one more use, is what that use gives out and what stays in the
window. -/
theorem Gathers.accounts_step (h : d.Gathers block) (m : DebouncerMove) :
    (d.step m).1.Accounts (d.step m).2 (block ++ m.folded) := by
  have hkeep {d' : Debouncer} {rest : List Trigger} (hg : d'.Gathers rest) :
      d'.Accounts [] rest := ⟨[], rest, rfl, .nil, hg⟩
  have hgive {d' : Debouncer} {y : Yield} {all : List Trigger} (hy : y.StandsFor all)
      (hd : d'.window = none) : d'.Accounts [y] all := by
    refine ⟨[all], [], by simp, .cons hy .nil, ?_⟩
    simp [Gathers, hd]
  have hclose (id : RequestId) (now : Time) :
      (d.close id now).2.Accounts ((d.close id now).1.toList.map .closed) block := by
    rcases h.close id now with ⟨r, hr, hy⟩ | ⟨hr, hb⟩
    · rw [hr]
      exact hgive hy rfl
    · rw [hr, hb]
      exact hkeep rfl
  cases m with
  | fold id t now =>
    cases ht : t.isStop with
    | true =>
      simp only [step, Debouncer.fold, ht, if_true, DebouncerMove.folded]
      have hc : t.command = .stop := by simpa [Trigger.isStop] using ht
      apply hgive _ rfl
      exact .preempting h.not_isStop ht (by simp [Request.immediate, hc]) rfl h.reasons_eq
    | false =>
      obtain ⟨hg, hn⟩ := h.fold_of_not_isStop ht id now
      have he : d.step (.fold id t now) = ((d.fold id t now).2, []) := by
        simp only [step]
      rw [he]
      exact hkeep hg
  | close id now =>
    simpa [step, DebouncerMove.folded] using hclose id now
  | closeIfDue id now =>
    simp only [step, Debouncer.closeIfDue, DebouncerMove.folded, List.append_nil]
    split
    · exact hclose id now
    · exact hkeep h
  | discard =>
    simp only [step, Debouncer.discard, DebouncerMove.folded, List.append_nil, h.reasons_eq]
    exact hgive (.discarded h.not_isStop) rfl

theorem Accounts.step (h : d.Accounts yields triggers) (m : DebouncerMove) :
    (d.step m).1.Accounts (yields ++ (d.step m).2) (triggers ++ m.folded) := by
  obtain ⟨blocks, rest, rfl, hb, hg⟩ := h
  obtain ⟨more, rest', he, hm, hg'⟩ := hg.accounts_step m
  refine ⟨blocks ++ more, rest', ?_, List.rel_append hb hm, hg'⟩
  rw [List.append_assoc, he, List.flatten_append, List.append_assoc]

theorem Accounts.run (h : d.Accounts yields triggers) (moves : List DebouncerMove) :
    (d.run moves).1.Accounts (yields ++ (d.run moves).2)
      (triggers ++ moves.flatMap DebouncerMove.folded) := by
  induction moves generalizing d yields triggers with
  | nil => simpa [Debouncer.run] using h
  | cons m moves ih =>
    have hr := ih (h.step m)
    rw [List.append_assoc, List.append_assoc] at hr
    exact hr

private theorem Accounts.reasons_eq (h : d.Accounts yields triggers) :
    yields.flatMap Yield.reasons ++ d.gathered = triggers.map (·.reason) := by
  obtain ⟨blocks, rest, rfl, hb, hg⟩ := h
  rw [Yield.flatMap_reasons_eq hb, List.map_append]
  congr 1
  exact hg.reasons_eq

private theorem Accounts.of_closed {r : Request} (h : d.Accounts yields triggers)
    (hr : .closed r ∈ yields) :
    r.reasons ≠ [] ∧ r.isStop = false ∧ r.superseded = [] := by
  obtain ⟨blocks, rest, -, hb, -⟩ := h
  induction hb with
  | nil => cases hr
  | cons hy _ ih =>
    rcases List.mem_cons.mp hr with rfl | hr
    · cases hy with
      | closed hn _ hre hc hs =>
        refine ⟨by simpa [hre] using hn, ?_, hs⟩
        unfold Request.isStop
        rw [hc]
        split <;> rfl
    · exact ih hr

theorem fold_of_isStop (d : Debouncer) (ht : t.isStop) (id : RequestId) (now : Time) :
    ∃ r, (d.fold id t now).1 = .preempted r ∧ r.isStop ∧ r.reasons = [t.reason] ∧
      r.superseded = d.gathered ∧ (d.fold id t now).2.isOpen = false := by
  have hc : t.command = .stop := by simpa [Trigger.isStop] using ht
  unfold fold
  rw [if_pos ht]
  exact ⟨_, rfl, by simp [Request.immediate, hc], rfl, rfl, rfl⟩

/-- From a new debouncer on, whatever its uses: the reasons given out and then those of the open
window are the reasons folded in, in this order, and everything given out stands for a block of the
triggers folded in, the blocks following one another. A request of a closed window does not stop and
supersedes nothing; that of a stop has its reason alone and leaves no window open. -/
theorem run_yields (interval longest : Nat) (moves : List DebouncerMove) :
    let d := ((new interval longest).run moves).1
    let yields := ((new interval longest).run moves).2
    let folded := moves.flatMap DebouncerMove.folded
    yields.flatMap Yield.reasons ++ d.gathered = folded.map (·.reason) ∧
    (∃ blocks rest, folded = blocks.flatten ++ rest ∧
      List.Forall₂ Yield.StandsFor yields blocks ∧ d.Gathers rest) ∧
    (∀ r, .closed r ∈ yields → r.reasons ≠ [] ∧ r.isStop = false ∧ r.superseded = []) ∧
    ∀ id t now, t.isStop → ∃ r, (d.fold id t now).1 = .preempted r ∧ r.isStop ∧
      r.reasons = [t.reason] ∧ r.superseded = d.gathered ∧
      (d.fold id t now).2.isOpen = false := by
  intro d yields folded
  have h : d.Accounts yields folded := by
    have h₀ : (new interval longest).Accounts [] [] := ⟨[], [], rfl, .nil, rfl⟩
    simpa using h₀.run moves
  refine ⟨h.reasons_eq, h, fun r hr => h.of_closed hr, ?_⟩
  intro id t now ht
  exact d.fold_of_isStop ht id now

/-- A burst whose window closes in its time, a reload that a stop overtakes, one that is given up,
and one that is still waiting. -/
theorem run_yields_of_bursts :
    let fold (reason : PlainReason) (now : Time) : DebouncerMove :=
      .fold .nil (.ofReason (.plain reason) "ui" now) now
    let moves := [fold .ruleChanged 0, fold .ui 100, .closeIfDue .nil 200,
      .closeIfDue .nil 700, fold .blockHost 800, fold .switchOff 900, fold .ruleChanged 1000,
      .discard, fold .blockHost 1100]
    let d := ((new 500 2000).run moves).1
    let yields := ((new 500 2000).run moves).2
    yields.map Yield.reasons = [[.plain .ruleChanged, .plain .ui],
      [.plain .blockHost, .plain .switchOff], [.plain .ruleChanged]] ∧
    d.gathered = [.plain .blockHost] ∧
    yields.flatMap Yield.reasons ++ d.gathered =
      (moves.flatMap DebouncerMove.folded).map (·.reason) ∧
    (∃ r, .closed r ∈ yields ∧ r.command = .start ∧ r.reasons ≠ [] ∧ r.isStop = false ∧
      r.superseded = []) ∧
    ∃ r, (d.fold .nil (.ofReason (.plain .switchOff) "ui" 1200) 1200).1 = .preempted r ∧
      r.isStop ∧ r.reasons = [.plain .switchOff] ∧ r.superseded = [.plain .blockHost] := by
  intro fold moves d yields
  obtain ⟨hall, -, hclosed, hstop⟩ := run_yields 500 2000 moves
  have hr : Yield.closed ⟨.nil, [.plain .ruleChanged, .plain .ui], .start, [], 0, 700⟩ ∈
      yields := by decide
  obtain ⟨r, hp, hs, hre, hsu, -⟩ :=
    hstop .nil (.ofReason (.plain .switchOff) "ui" 1200) 1200 (by decide)
  exact ⟨by decide, by decide, hall, ⟨_, hr, rfl, hclosed _ hr⟩, r, hp, hs, hre, hsu⟩

end Debouncer
end RestartCoordinator
