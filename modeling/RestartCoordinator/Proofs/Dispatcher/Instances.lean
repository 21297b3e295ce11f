import RestartCoordinator.Proofs.Dispatcher.Calls
/-!
# Instances of the service

Every start that succeeds brings up an instance, which runs until a call that stops it succeeds. At
any moment the instances that run are the one that the dispatcher knows of and, below it, those whose
release failed: the latest instance is always the first to be stopped, and one that could not be
released is never stopped later.
-/
namespace RestartCoordinator

/-- The instances that run after a call, the latest first, by those that ran before it. -/
def EndedCall.alters (running : List Handle) : EndedCall → List Handle
  | .start (.done h) => h :: running
  | .stop h (.done ()) | .release h (.done ()) => running.erase h
  | _ => running

/-- The instances that were started and have not been stopped since, the latest first. -/
def runningAfter (calls : List EndedCall) : List Handle :=
  calls.foldl EndedCall.alters []

/-- The instance that a release fails to stop. -/
def EndedCall.lost? : EndedCall → Option Handle
  | .release h answer => if answer = .done () then none else some h
  | _ => none

/-- The instances whose release failed, the latest first. -/
def lostIn (calls : List EndedCall) : List Handle :=
  (calls.filterMap EndedCall.lost?).reverse

private theorem EndedCall.alters_eq {running : List Handle} {c : EndedCall}
    (hs : ∀ h, c ≠ .start (.done h)) (hp : ∀ h, c ≠ .stop h (.done ()))
    (hr : ∀ h, c ≠ .release h (.done ())) : c.alters running = running := by
  unfold alters
  split <;> simp_all

private theorem runningAfter_append (calls : List EndedCall) (ended : Option EndedCall) :
    runningAfter (calls ++ ended.toList) =
      ended.elim (runningAfter calls) (·.alters (runningAfter calls)) := by
  cases ended <;> simp [runningAfter]

private theorem lostIn_append (calls : List EndedCall) (ended : Option EndedCall) :
    lostIn (calls ++ ended.toList) = (ended.bind EndedCall.lost?).toList ++ lostIn calls := by
  cases ended with
  | none => simp
  | some c => cases h : c.lost? <;> simp [lostIn, h]

theorem lostIn_eq_nil_iff {calls : List EndedCall} :
    lostIn calls = [] ↔ ∀ h answer, .release h answer ∈ calls → answer = .done () := by
  rw [lostIn, List.reverse_eq_nil_iff, List.filterMap_eq_nil_iff]
  constructor
  · intro hn h answer hm
    have hl := hn _ hm
    simpa [EndedCall.lost?] using hl
  · intro hd c hc
    cases c with
    | release h answer => simp [EndedCall.lost?, hd h answer hc]
    | _ => rfl

namespace Dispatcher

variable {d d' : Dispatcher} {now : Time} {s : Signal} {effects : List Effect}
  {calls : List EndedCall}

/-- What runs is the instance that the dispatcher knows of and those that it could not release. -/
def Knows (d : Dispatcher) (calls : List EndedCall) : Prop :=
  runningAfter calls = d.instance?.toList ++ lostIn calls

theorem Goes.knows (hg : d.Goes now s d' effects) (hf : d.Fits) (h : d.Knows calls) :
    d'.Knows (calls ++ (d.ended? s).toList) := by
  have hh := hg.hands hf
  unfold Knows at h ⊢
  rw [runningAfter_append, lostIn_append, h]
  generalize d.ended? s = ended at hh ⊢
  generalize d.instance? = known at hh ⊢
  generalize d'.instance? = known' at hh ⊢
  cases hh with
  | aside => rfl
  | started => rfl
  | @stopped h => exact List.erase_cons_head h (lostIn calls)
  | @released h => exact List.erase_cons_head h (lostIn calls)
  | lost ha => simp [EndedCall.alters_eq, EndedCall.lost?, ha]
  | startFailed ha => simp [EndedCall.alters_eq, EndedCall.lost?, ha]
  | stopFailed ha => simp [EndedCall.alters_eq, EndedCall.lost?, ha]

theorem Goes.instance?_of_start (hg : d.Goes now s d' effects) (hf : d.Fits)
    (hc : .called .start ∈ effects) : d'.instance? = none := by
  obtain ⟨a, ht⟩ := hg.task_of_start hc
  simp only [instance?, ht, (hg.fits hf).handle_of_calling ht]

end Dispatcher
end RestartCoordinator
