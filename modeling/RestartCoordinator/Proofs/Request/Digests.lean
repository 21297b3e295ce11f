import RestartCoordinator.Proofs.Request.Merges
/-!
# What a request stands for

A request digests a block of triggers: its command is the one that prevails among theirs, and their
reasons are all there, in order. If a stop prevails, only the stops give reasons to act on, and the
others are superseded. Merging two requests puts their blocks together.
-/
namespace RestartCoordinator

/-- The command of a block of triggers: a stop if any of them stops, else a start if any starts. -/
def prevailing (block : List Trigger) : Command :=
  if block.any (·.command == .stop) then .stop
  else if block.any (·.command == .start) then .start
  else .reload

theorem prevailing_append (block more : List Trigger) :
    prevailing (block ++ more) = (prevailing block).join (prevailing more) := by
  unfold prevailing
  simp only [List.any_append]
  cases block.any (·.command == .stop) <;> cases more.any (·.command == .stop) <;>
    cases block.any (·.command == .start) <;> cases more.any (·.command == .start) <;> rfl

theorem prevailing_singleton (t : Trigger) : prevailing [t] = t.command := by
  unfold prevailing
  cases hc : t.command <;> simp [hc]

theorem prevailing_eq_stop_iff {block : List Trigger} :
    prevailing block = .stop ↔ ∃ t ∈ block, t.isStop := by
  unfold prevailing
  rw [← List.any_eq_true]
  change _ ↔ block.any (·.command == .stop) = true
  split
  · simp_all
  · split <;> simp_all

namespace Request

/-- The request stands for the block. -/
structure Digests (r : Request) (block : List Trigger) : Prop where
  nonempty : block ≠ []
  command_eq : r.command = prevailing block
  reasons_eq : r.reasons =
    if r.isStop then (block.filter (·.isStop)).map (·.reason) else block.map (·.reason)
  superseded_eq : r.superseded =
    if r.isStop then (block.filter (!·.isStop)).map (·.reason) else []

variable {r r' : Request} {block block' : List Trigger}

theorem Digests.isStop_iff (h : r.Digests block) : r.isStop ↔ ∃ t ∈ block, t.isStop := by
  rw [Request.isStop_iff, h.command_eq, prevailing_eq_stop_iff]

theorem Digests.not_isStop (h : r.Digests block) (hr : r.isStop = false) {t : Trigger}
    (ht : t ∈ block) : t.isStop = false := by
  rw [← Bool.not_eq_true]
  intro hs
  rw [h.isStop_iff.mpr ⟨t, ht, hs⟩] at hr
  cases hr

private theorem filter_isStop_eq_nil (h : ∀ t ∈ block, t.isStop = false) :
    block.filter (·.isStop) = [] :=
  List.filter_eq_nil_iff.mpr fun t ht => by simp [h t ht]

private theorem filter_not_isStop_eq_self (h : ∀ t ∈ block, t.isStop = false) :
    block.filter (!·.isStop) = block :=
  List.filter_eq_self.mpr fun t ht => by simp [h t ht]

theorem digests_preempting {t : Trigger} (id : RequestId) (now : Time) (ht : t.isStop)
    (h : ∀ t ∈ block, t.isStop = false) :
    Digests { immediate id t now with superseded := block.map (·.reason) } (block ++ [t]) := by
  have hc : t.command = .stop := by simpa [Trigger.isStop] using ht
  have hs : (immediate id t now).isStop := by simp [immediate, hc]
  have hp : prevailing (block ++ [t]) = .stop :=
    prevailing_eq_stop_iff.mpr ⟨t, List.mem_append_right _ List.mem_cons_self, ht⟩
  refine ⟨List.append_ne_nil_of_right_ne_nil _ (List.cons_ne_nil _ _), hc.trans hp.symm, ?_, ?_⟩
  · change [t.reason] = if (immediate id t now).isStop then _ else _
    rw [if_pos hs, List.filter_append, filter_isStop_eq_nil h]
    simp [ht]
  · change _ = if (immediate id t now).isStop then _ else _
    rw [if_pos hs, List.filter_append, filter_not_isStop_eq_self h]
    simp [ht]

theorem digests_of_reasons (h : ∀ t ∈ block, t.isStop = false) (hn : block ≠ [])
    (hc : r.command = prevailing block) (hr : r.reasons = block.map (·.reason))
    (hs : r.superseded = []) : r.Digests block := by
  have hf : r.isStop = false := by
    rw [← Bool.not_eq_true, Request.isStop_iff, hc, prevailing_eq_stop_iff]
    rintro ⟨t, ht, hst⟩
    rw [h t ht] at hst
    cases hst
  exact ⟨hn, hc, by simpa [hf] using hr, by simpa [hf] using hs⟩

private theorem reasonsUnder_of_ne {c : Command} (hc : c ≠ .stop) :
    r.reasonsUnder c = r.reasons :=
  if_neg fun h => hc h.1

private theorem voidedUnder_of_ne {c : Command} (hc : c ≠ .stop) : r.voidedUnder c = [] :=
  if_neg fun h => hc h.1

private theorem Digests.reasonsUnder_stop (h : r.Digests block) :
    r.reasonsUnder .stop = (block.filter (·.isStop)).map (·.reason) := by
  unfold reasonsUnder
  have hr := h.reasons_eq
  cases hb : r.isStop with
  | true => simpa [Request.isStop_iff.mp hb, hb] using hr
  | false =>
    have hc : r.command ≠ .stop := fun hc => by simp [isStop, hc] at hb
    simp [hc, filter_isStop_eq_nil fun t => h.not_isStop hb]

private theorem Digests.voidedUnder_stop (h : r.Digests block) :
    r.superseded ++ r.voidedUnder .stop = (block.filter (!·.isStop)).map (·.reason) ∧
      r.voidedUnder .stop ++ r.superseded = (block.filter (!·.isStop)).map (·.reason) := by
  unfold voidedUnder
  have hs := h.superseded_eq
  cases hb : r.isStop with
  | true => simpa [Request.isStop_iff.mp hb, hb] using hs
  | false =>
    have hc : r.command ≠ .stop := fun hc => by simp [isStop, hc] at hb
    have hr : r.reasons = block.map (·.reason) := by simpa [hb] using h.reasons_eq
    rw [hb, if_neg Bool.false_ne_true] at hs
    simp [hc, hs, hr, filter_not_isStop_eq_self fun t => h.not_isStop hb]

/-- Two requests that are merged stand for their blocks together. -/
theorem Digests.merge (h : r.Digests block) (h' : r'.Digests block') :
    (r.merge r').Digests (block ++ block') := by
  have hn : block ++ block' ≠ [] := List.append_ne_nil_of_left_ne_nil h.nonempty _
  have hc : (r.merge r').command = prevailing (block ++ block') := by
    rw [merge_command, h.command_eq, h'.command_eq, prevailing_append]
  by_cases hs : (r.merge r').command = .stop
  · have hb : (r.merge r').isStop := Request.isStop_iff.mpr hs
    refine ⟨hn, hc, ?_, ?_⟩
    · rw [if_pos hb, List.filter_append, List.map_append]
      change r.reasonsUnder (r.merge r').command ++ r'.reasonsUnder (r.merge r').command = _
      rw [hs, h.reasonsUnder_stop, h'.reasonsUnder_stop]
    · rw [if_pos hb, List.filter_append, List.map_append]
      change r.superseded ++ r.voidedUnder (r.merge r').command ++
        r'.voidedUnder (r.merge r').command ++ r'.superseded = _
      rw [hs, h.voidedUnder_stop.1, List.append_assoc, h'.voidedUnder_stop.2]
  · obtain ⟨hr, hr'⟩ := not_or.mp (mt Command.join_eq_stop_iff.mpr hs)
    have hb : r.isStop = false := by simp [isStop, hr]
    have hb' : r'.isStop = false := by simp [isStop, hr']
    refine digests_of_reasons (fun t ht => ?_) hn hc ?_ ?_
    · exact (List.mem_append.mp ht).elim (h.not_isStop hb) (h'.not_isStop hb')
    · have hq : r.reasons = block.map (·.reason) := by simpa [hb] using h.reasons_eq
      have hq' : r'.reasons = block'.map (·.reason) := by simpa [hb'] using h'.reasons_eq
      change r.reasonsUnder (r.merge r').command ++ r'.reasonsUnder (r.merge r').command = _
      rw [reasonsUnder_of_ne hs, reasonsUnder_of_ne hs, hq, hq', List.map_append]
    · have hq : r.superseded = [] := by simpa [hb] using h.superseded_eq
      have hq' : r'.superseded = [] := by simpa [hb'] using h'.superseded_eq
      change r.superseded ++ r.voidedUnder (r.merge r').command ++
        r'.voidedUnder (r.merge r').command ++ r'.superseded = _
      rw [voidedUnder_of_ne hs, voidedUnder_of_ne hs, hq, hq']
      rfl

end Request
end RestartCoordinator
