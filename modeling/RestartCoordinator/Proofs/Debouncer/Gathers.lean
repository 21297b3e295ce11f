import RestartCoordinator.Debouncer
import RestartCoordinator.Proofs.Request.Digests
/-!
# What the debouncer gathers

The open window gathers a block of triggers, none of which stops. When the window closes, its
request stands for that block; a stop gives a request for the block and itself.
-/
namespace RestartCoordinator

/-- The window was opened and joined by the triggers of the block. -/
structure Window.Gathers (w : Window) (block : List Trigger) : Prop where
  nonempty : block ≠ []
  reasons_eq : w.reasons = block.map (·.reason)
  command_eq : w.command = prevailing block
  not_isStop : ∀ t ∈ block, t.isStop = false

namespace Debouncer

/-- The block is that of the open window, or empty if none is open. -/
def Gathers (d : Debouncer) (block : List Trigger) : Prop :=
  match d.window with
  | none => block = []
  | some w => w.Gathers block

variable {d d' : Debouncer} {block : List Trigger} {t : Trigger}

theorem Gathers.not_isStop (h : d.Gathers block) : ∀ t ∈ block, t.isStop = false := by
  unfold Gathers at h
  split at h
  · rw [h]
    exact nofun
  · exact Window.Gathers.not_isStop h

theorem Gathers.reasons_eq (h : d.Gathers block) :
    (d.window.map (·.reasons)).getD [] = block.map (·.reason) := by
  unfold Gathers at h
  split at h <;> rename_i hw
  · simp [hw, h]
  · simpa [hw] using Window.Gathers.reasons_eq h

private theorem prevailing_snoc (hb : ∀ t ∈ block, t.isStop = false) (ht : t.isStop = false) :
    prevailing (block ++ [t]) = if t.command = .start then .start else prevailing block := by
  have hp : prevailing block ≠ .stop := by
    rw [Ne, prevailing_eq_stop_iff]
    rintro ⟨t, hm, hs⟩
    rw [hb t hm] at hs
    cases hs
  rw [prevailing_append, prevailing_singleton]
  cases hc : t.command <;> cases hq : prevailing block <;> simp_all [Command.join, Trigger.isStop]

theorem Gathers.fold_of_not_isStop (h : d.Gathers block) (ht : t.isStop = false)
    (id : RequestId) (now : Time) :
    (d.fold id t now).2.Gathers (block ++ [t]) ∧
      ∀ r, (d.fold id t now).1 ≠ .preempted r := by
  unfold fold
  rw [if_neg (by simp [ht])]
  cases hw : d.window with
  | none =>
    have hn : block = [] := by simpa [Gathers, hw] using h
    rw [hn, List.nil_append]
    refine ⟨⟨List.cons_ne_nil _ _, rfl, (prevailing_singleton t).symm, ?_⟩, nofun⟩
    intro t' ht'
    rwa [List.mem_singleton.mp ht']
  | some w =>
    have hg : w.Gathers block := by simpa [Gathers, hw] using h
    refine ⟨⟨List.append_ne_nil_of_left_ne_nil hg.nonempty _, ?_, ?_, ?_⟩, nofun⟩
    · simp [join, hg.reasons_eq]
    · rw [prevailing_snoc hg.not_isStop ht, ← hg.command_eq]
      rfl
    · intro t' ht'
      rcases List.mem_append.mp ht' with hm | hm
      · exact hg.not_isStop t' hm
      · rwa [List.mem_singleton.mp hm]

theorem Gathers.fold_of_isStop (h : d.Gathers block) (ht : t.isStop) (id : RequestId)
    (now : Time) :
    ∃ r, (d.fold id t now).1 = .preempted r ∧ r.Digests (block ++ [t]) ∧
      (d.fold id t now).2.Gathers [] := by
  unfold fold
  rw [if_pos ht, h.reasons_eq]
  exact ⟨_, rfl, Request.digests_preempting id now ht h.not_isStop, rfl⟩

theorem Gathers.closeIfDue {id : RequestId} {now : Time} {r : Request} (h : d.Gathers block)
    (hc : d.closeIfDue id now = (some r, d')) : r.Digests block ∧ d'.Gathers [] := by
  unfold Debouncer.closeIfDue at hc
  split at hc
  · unfold close at hc
    cases hw : d.window with
    | none => simp [hw] at hc
    | some w =>
      have hg : w.Gathers block := by simpa [Gathers, hw] using h
      simp only [hw, Option.map_some, Prod.mk.injEq, Option.some.injEq] at hc
      obtain ⟨rfl, rfl⟩ := hc
      exact ⟨Request.digests_of_reasons hg.not_isStop hg.nonempty hg.command_eq hg.reasons_eq rfl,
        rfl⟩
  · cases hc

end Debouncer
end RestartCoordinator
