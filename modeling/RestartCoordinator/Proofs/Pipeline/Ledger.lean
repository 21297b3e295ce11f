import RestartCoordinator.Proofs.Debouncer.Gathers
import RestartCoordinator.Proofs.Pipeline.Steps
import RestartCoordinator.Proofs.TriggerQueue.Contents
/-!
# The way of the triggers

A ledger is kept beside a run of the pipeline: which triggers were accepted, which of them had to go
when a queue was full, and which requests the dispatcher took. Until a shutdown nothing else is
lost. In the order of their submission the triggers that were kept are those of the requests taken,
then those of the request that waits in the slot, then those in the open window, then those still in
the queue.
-/
namespace RestartCoordinator

structure Ledger where
  /-- The triggers that were accepted, with their numbers. -/
  accepted : List Queued := []
  /-- The triggers that went because a queue was full. -/
  displaced : List Queued := []
  /-- The requests that the dispatcher took from the slot. -/
  taken : List Request := []

def Ledger.kept (g : Ledger) : List Queued := g.accepted.filter (· ∉ g.displaced)

/-- The request stands for the triggers. -/
def Request.StandsFor (r : Request) (block : List Queued) : Prop :=
  r.Digests (block.map (·.trigger))

/-- The block is that of the request that waits, or empty if none does. -/
def PendingSlot.Waits (s : PendingSlot) (block : List Queued) : Prop :=
  match s.pending with
  | none => block = []
  | some r => r.StandsFor block

/-- The move is part of a shutdown. -/
def Move.closes : Move → Bool
  | .closeQueue | .closeSlot | .abandon => true
  | _ => false

namespace Pipeline

/-- The ledger after a move that was made. -/
def note (p : Pipeline) (g : Ledger) : Move → Ledger
  | .submit t =>
    { g with
      accepted := g.accepted ++ [⟨p.queue.nextSeq, t⟩]
      displaced := g.displaced ++ (p.queue.oldestOf? t.origin).toList }
  | .serve => { g with taken := g.taken ++ p.loop.slot.pending.toList }
  | _ => g

def ledger (p : Pipeline) (g : Ledger) : List (Time × Move) → Ledger
  | [] => g
  | (now, m) :: rest =>
    match p.step? now m with
    | some moved => ledger moved.pipeline (p.note g m) rest
    | none => ledger p g rest

/-- Everything that was kept is accounted for, apart from what the window holds. -/
structure Accounts (p : Pipeline) (g : Ledger) (blocks : List (List Queued))
    (pending window queued : List Queued) : Prop where
  kept_eq : g.kept = blocks.flatten ++ pending ++ window ++ queued
  taken : List.Forall₂ Request.StandsFor g.taken blocks
  waits : p.loop.slot.Waits pending
  held : p.queue.Holds queued
  sorted : g.accepted.Pairwise (·.seq < ·.seq)
  below : ∀ x ∈ g.accepted ++ g.displaced, x.seq < p.queue.nextSeq

section
variable {p p' : Pipeline} {g : Ledger} {blocks : List (List Queued)}
  {pending window queued : List Queued} {now : Time} {r : Request}

private theorem Accounts.nodup (h : p.Accounts g blocks pending window queued) :
    (blocks.flatten ++ pending ++ window ++ queued).Nodup :=
  h.kept_eq ▸ (TriggerQueue.nodup_of_sorted h.sorted).filter _

theorem Accounts.same (h : p.Accounts g blocks pending window queued)
    (hq : p'.queue = p.queue) (hs : p'.loop.slot = p.loop.slot) :
    p'.Accounts g blocks pending window queued :=
  ⟨h.kept_eq, h.taken, hs ▸ h.waits, hq ▸ h.held, h.sorted, hq ▸ h.below⟩

private theorem Accounts.submit {t : Trigger} {s : Submission} {q : TriggerQueue}
    (h : p.Accounts g blocks pending window queued) (hs : p.queue.submit t = .ok (s, q)) :
    Accounts { p with queue := q } (p.note g (.submit t)) blocks pending window
      (queued.filter (p.queue.oldestOf? t.origin ≠ some ·) ++ [⟨p.queue.nextSeq, t⟩]) := by
  obtain ⟨-, -, -, -, hseq, -⟩ := TriggerQueue.submit_eq_ok hs
  have hold : ∀ x, p.queue.oldestOf? t.origin = some x → x ∈ queued :=
    fun x hx => (h.held.oldestOf?_eq hx).2.1
  have hkept : (p.note g (.submit t)).kept =
      g.kept.filter (p.queue.oldestOf? t.origin ≠ some ·) ++ [⟨p.queue.nextSeq, t⟩] := by
    have hnew : (⟨p.queue.nextSeq, t⟩ : Queued) ∉
        g.displaced ++ (p.queue.oldestOf? t.origin).toList := by
      intro hm
      rcases List.mem_append.mp hm with hm | hm
      · exact Nat.lt_irrefl _ (h.below _ (List.mem_append_right _ hm))
      · exact Nat.lt_irrefl _ (h.held.below _ (hold _ (Option.mem_toList.mp hm)))
    simp only [note, Ledger.kept, List.filter_append]
    rw [List.filter_cons_of_pos (by simpa using hnew), List.filter_nil, List.filter_filter]
    congr 1
    refine List.filter_congr fun x _ => ?_
    rw [Bool.eq_iff_iff]
    simp only [decide_eq_true_iff, Bool.and_eq_true, List.mem_append, Option.mem_toList, not_or]
    exact and_comm
  have hrest : (blocks.flatten ++ pending ++ window).filter
      (p.queue.oldestOf? t.origin ≠ some ·) = blocks.flatten ++ pending ++ window := by
    refine List.filter_eq_self.mpr fun x hx => decide_eq_true fun ho => ?_
    exact (List.nodup_append.mp h.nodup).2.2 x hx x (hold x ho) rfl
  have hlt : ∀ x ∈ g.accepted ++ g.displaced, x.seq < p.queue.nextSeq + 1 :=
    fun x hx => Nat.lt_succ_of_lt (h.below x hx)
  refine ⟨?_, h.taken, h.waits, h.held.submit hs, ?_, ?_⟩
  · rw [hkept, h.kept_eq, List.filter_append, hrest, List.append_assoc]
  · refine List.pairwise_append.mpr ⟨h.sorted, List.pairwise_singleton .., fun x hx y hy => ?_⟩
    obtain rfl := List.mem_singleton.mp hy
    exact h.below x (List.mem_append_left _ hx)
  · intro x hx
    rw [hseq]
    simp only [note, List.mem_append, List.mem_singleton, Option.mem_toList] at hx
    rcases hx with (hx | rfl) | hx | hx
    · exact hlt x (List.mem_append_left _ hx)
    · exact Nat.lt_succ_self _
    · exact hlt x (List.mem_append_right _ hx)
    · exact Nat.lt_succ_of_lt (h.held.below x (hold x hx))

theorem Accounts.serve (h : p.Accounts g blocks pending window queued)
    (hp : p.loop.slot.pending = some r) (hq : p'.queue = p.queue)
    (hs : p'.loop.slot = p.loop.slot.take.2) :
    p'.Accounts (p.note g .serve) (blocks ++ [pending]) [] window queued := by
  have hw : r.StandsFor pending := by simpa [PendingSlot.Waits, hp] using h.waits
  refine ⟨?_, ?_, ?_, hq ▸ h.held, h.sorted, hq ▸ h.below⟩
  · rw [List.flatten_append, List.flatten_singleton, List.append_nil]
    exact h.kept_eq
  · simp only [note, hp, Option.toList_some]
    exact List.rel_append h.taken (.cons hw .nil)
  · rw [hs]
    rfl

private theorem Accounts.offer {more rest : List Queued}
    (h : p.Accounts g blocks pending window queued)
    (ho : p.loop.slot.closed = false) (hr : r.StandsFor more)
    (hs : p'.loop.slot = (p.loop.slot.offer r).2) (hw : window ++ queued = more ++ rest)
    (hq : p'.queue.Holds rest) (hn : p'.queue.nextSeq = p.queue.nextSeq) :
    p'.Accounts g blocks (pending ++ more) [] rest := by
  refine ⟨?_, h.taken, ?_, hq, h.sorted, hn ▸ h.below⟩
  · rw [h.kept_eq, List.append_assoc _ window, hw]
    simp
  · have hw := h.waits
    unfold PendingSlot.Waits at hw ⊢
    rw [hs]
    simp only [PendingSlot.offer, ho, PendingSlot.joined]
    cases hp : p.loop.slot.pending with
    | none =>
      obtain rfl : pending = [] := by simpa [hp] using hw
      exact hr
    | some waiting =>
      have hw : waiting.StandsFor pending := by simpa [hp] using hw
      change Request.Digests _ _
      rw [List.map_append]
      exact Request.Digests.merge hw hr

private theorem Accounts.gather {x : Queued} {rest : List Queued}
    (h : p.Accounts g blocks pending window (x :: rest)) (hq : p'.queue.Holds rest)
    (hn : p'.queue.nextSeq = p.queue.nextSeq) (hs : p'.loop.slot = p.loop.slot) :
    p'.Accounts g blocks pending (window ++ [x]) rest := by
  refine ⟨?_, h.taken, hs ▸ h.waits, hq, h.sorted, hn ▸ h.below⟩
  rw [h.kept_eq]
  simp

end

/-- Before a shutdown, what the accounts leave to the window is what the debouncer gathers. -/
structure Flows (p : Pipeline) (g : Ledger) (blocks : List (List Queued))
    (pending window queued : List Queued) : Prop
    extends Accounts p g blocks pending window queued where
  gathers : p.debouncer.Gathers (window.map (·.trigger))
  not_cancelled : p.cancelled = false
  queue_open : p.queue.closed = false
  slot_open : p.loop.slot.closed = false

theorem flows_new (c : Config) : (new c).Flows {} [] [] [] [] where
  kept_eq := rfl
  taken := .nil
  waits := rfl
  held := TriggerQueue.holds_new _
  sorted := .nil
  below := nofun
  gathers := rfl
  not_cancelled := rfl
  queue_open := rfl
  slot_open := rfl

section
variable {p p' : Pipeline} {g : Ledger} {moved : Moved} {now : Time}
  {blocks : List (List Queued)} {pending window queued : List Queued}

private theorem Flows.aside (h : p.Flows g blocks pending window queued) (ha : p.Aside p') :
    p'.Flows g blocks pending window queued :=
  { h.same ha.queue_eq ha.slot_eq with
    gathers := ha.debouncer_eq ▸ h.gathers
    not_cancelled := ha.cancelled_eq ▸ h.not_cancelled
    queue_open := ha.queue_eq ▸ h.queue_open
    slot_open := ha.slot_eq ▸ h.slot_open }

private theorem offer_closed {s : PendingSlot} (r : Request) (h : s.closed = false) :
    (s.offer r).2.closed = false := by
  simp [PendingSlot.offer, h]

private theorem Flows.flush (h : p.Flows g blocks pending window queued)
    (hs : p.step? now .flush = some moved) :
    moved.pipeline.Flows g blocks (pending ++ window) [] queued := by
  obtain ⟨-, r, hc, hq, hn, hl⟩ := step?_flush hs
  obtain ⟨hr, hg⟩ := h.gathers.closeIfDue hc
  have hw : window ++ queued = window ++ queued := rfl
  have ha := h.toAccounts.offer h.slot_open hr (congrArg DispatchLoop.slot hl) hw (hq ▸ h.held)
    (congrArg TriggerQueue.nextSeq hq)
  exact { ha with
    gathers := hg
    not_cancelled := hn.trans h.not_cancelled
    queue_open := hq ▸ h.queue_open
    slot_open := hl ▸ offer_closed r h.slot_open }

private theorem Flows.fold (h : p.Flows g blocks pending window queued)
    (hs : p.step? now .fold = some moved) :
    ∃ x rest, queued = x :: rest ∧
      (moved.pipeline.Flows g blocks pending (window ++ [x]) rest ∨
        moved.pipeline.Flows g blocks (pending ++ (window ++ [x])) [] rest) := by
  obtain ⟨-, t, ht, hd, hn, hl⟩ := step?_fold hs
  cases queued with
  | nil =>
    rw [h.held.take?_nil] at ht
    cases ht
  | cons x rest =>
    refine ⟨x, rest, rfl, ?_⟩
    obtain ⟨q, htake, hq, hseq, hclosed, -⟩ := h.held.take?_cons
    obtain ⟨rfl, rfl⟩ := Prod.mk.inj (Option.some.inj (htake.symm.trans ht))
    have hopen := hclosed.trans h.queue_open
    have hmap : (window ++ [x]).map (·.trigger) = window.map (·.trigger) ++ [x.trigger] :=
      List.map_append
    cases hx : x.trigger.isStop with
    | false =>
      obtain ⟨hg, hp⟩ := h.gathers.fold_of_not_isStop hx p.nextId now
      have hloop : moved.pipeline.loop = p.loop := by
        rw [hl]
        split
        · rename_i r hr
          exact absurd hr (hp r)
        · rfl
      have ha := h.toAccounts.gather hq hseq (congrArg DispatchLoop.slot hloop)
      exact .inl { ha with
        gathers := hmap ▸ hd ▸ hg
        not_cancelled := hn.trans h.not_cancelled
        queue_open := hopen
        slot_open := hloop ▸ h.slot_open }
    | true =>
      obtain ⟨r, hf, hr, hg⟩ := h.gathers.fold_of_isStop hx p.nextId now
      simp only [hf] at hl
      have hr : r.StandsFor (window ++ [x]) := by rwa [Request.StandsFor, hmap]
      have hw : window ++ x :: rest = window ++ [x] ++ rest := by simp
      have ha := h.toAccounts.offer h.slot_open hr (congrArg DispatchLoop.slot hl) hw hq hseq
      exact .inr { ha with
        gathers := hd ▸ hg
        not_cancelled := hn.trans h.not_cancelled
        queue_open := hopen
        slot_open := hl ▸ offer_closed r h.slot_open }

theorem Flows.step {m : Move} (h : p.Flows g blocks pending window queued)
    (hm : m.closes = false) (hs : p.step? now m = some moved) :
    ∃ blocks pending window queued,
      moved.pipeline.Flows (p.note g m) blocks pending window queued := by
  cases m with
  | submit t =>
    obtain ⟨s, q, hq, hp⟩ := step?_submit hs
    rw [hp]
    exact ⟨_, _, _, _, { h.toAccounts.submit hq with
      gathers := h.gathers
      not_cancelled := h.not_cancelled
      queue_open := (TriggerQueue.submit_eq_ok hq).2.2.1
      slot_open := h.slot_open }⟩
  | start => exact ⟨_, _, _, _, h.aside (step?_start hs)⟩
  | flush => exact ⟨_, _, _, _, h.flush hs⟩
  | fold =>
    obtain ⟨x, rest, -, hf | hf⟩ := h.fold hs
    · exact ⟨_, _, _, _, hf⟩
    · exact ⟨_, _, _, _, hf⟩
  | endCoalescing =>
    obtain ⟨hc, -⟩ := step?_endCoalescing hs
    simp [h.not_cancelled, h.queue_open] at hc
  | serve =>
    obtain ⟨r, hp, hq, hd, hn, hl⟩ := step?_serve hs
    exact ⟨_, _, _, _, { h.toAccounts.serve hp hq hl with
      gathers := hd ▸ h.gathers
      not_cancelled := hn.trans h.not_cancelled
      queue_open := hq ▸ h.queue_open
      slot_open := hl ▸ h.slot_open }⟩
  | signal s => exact ⟨_, _, _, _, h.aside (step?_signal hs)⟩
  | leave => exact ⟨_, _, _, _, h.aside (step?_leave hs)⟩
  | observe index => exact ⟨_, _, _, _, h.aside (step?_observe hs)⟩
  | drained => exact ⟨_, _, _, _, h.aside (step?_drained hs)⟩
  | closeQueue | closeSlot | abandon => cases hm

theorem Flows.run (h : p.Flows g blocks pending window queued) {moves : List (Time × Move)}
    (hm : ∀ m ∈ moves, m.2.closes = false) :
    ∃ blocks pending window queued,
      (p.run moves).Flows (p.ledger g moves) blocks pending window queued := by
  induction moves generalizing p g blocks pending window queued with
  | nil => exact ⟨_, _, _, _, h⟩
  | cons head rest ih =>
    obtain ⟨now, m⟩ := head
    have hr := fun m hm' => hm m (List.mem_cons_of_mem _ hm')
    simp only [Pipeline.run, ledger]
    cases hs : p.step? now m with
    | none => exact ih h hr
    | some moved =>
      obtain ⟨_, _, _, _, hn⟩ := h.step (hm (now, m) List.mem_cons_self) hs
      exact ih hn hr

end

/-- Until a shutdown, whatever is submitted and in whatever order the steps are made: the triggers
that no full queue dropped are, in the order of their submission, a block for each request that the
dispatcher took, the block of the request that waits, those in the open window, and those in the
queue. -/
theorem kept_eq_blocks (c : Config) (moves : List (Time × Move))
    (hm : ∀ m ∈ moves, m.2.closes = false) :
    let p := (new c).run moves
    let g := (new c).ledger {} moves
    ∃ blocks pending window,
      g.kept = blocks.flatten ++ pending ++ window ++ p.queue.contents ∧
        List.Forall₂ Request.StandsFor g.taken blocks ∧ p.loop.slot.Waits pending ∧
        p.debouncer.Gathers (window.map (·.trigger)) := by
  obtain ⟨blocks, pending, window, queued, h⟩ := (flows_new c).run hm
  exact ⟨blocks, pending, window, h.held.contents_eq ▸ h.kept_eq, h.taken, h.waits, h.gathers⟩

/-- A run after which all four places are in use: a start was taken, a stop waits, a reload is in
the window and another one in the queue. -/
theorem kept_eq_blocks_of_four :
    let t (r : PlainReason) : Trigger := .ofReason (.plain r) "ui" 0
    let moves := [(0, .start), (0, .submit (t .ui)), (0, .fold), (500, .flush), (500, .serve),
      (600, .submit (t .switchOff)), (600, .fold), (700, .submit (t .ruleChanged)), (700, .fold),
      (800, .submit (t .ruleChanged))]
    let p := (new {}).run moves
    let g := (new {}).ledger {} moves
    (g.taken.length = 1 ∧ p.loop.slot.pending.isSome ∧ p.debouncer.window.isSome ∧
        p.queue.size = 1) ∧
      ∃ blocks pending window,
        g.kept = blocks.flatten ++ pending ++ window ++ p.queue.contents ∧
          List.Forall₂ Request.StandsFor g.taken blocks ∧ p.loop.slot.Waits pending ∧
          p.debouncer.Gathers (window.map (·.trigger)) := by
  intro t moves
  have hm : ∀ m ∈ moves, m.2.closes = false := by decide
  exact ⟨by decide, kept_eq_blocks {} moves hm⟩

end Pipeline
end RestartCoordinator
