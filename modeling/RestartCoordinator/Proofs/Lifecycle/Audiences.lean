import RestartCoordinator.Proofs.Lifecycle.Views
/-!
# Those who watch a lifecycle machine

Views of a machine are made, copied and used while the machine is called and after it is gone, and
calls that wait for a snapshot are started, run and dropped, in any order. A failure shows twice,
first its move and then its message, and those who watch may look between the two. Whatever is shown
is later than what was shown before, and this is all that the views and the calls rest on.
-/
namespace RestartCoordinator.Lifecycle

/-- A machine and those who watch it. -/
structure Audience where
  watch : Watch
  /-- The message of a failure of which only the move is on show so far. -/
  unsaid : Option String
  /-- Every snapshot that was on show, in order. -/
  shown : List Snapshot
  readers : List Reader
  waits : List (Option Wait)

/-- What can happen to a machine and to those who watch it. -/
inductive WatchMove where
  | call (c : MachineCall)
  /-- A failure shows its move, and has yet to show its message. -/
  | failBegins (failure : Failure) (reasons : List Reason)
  | failEnds
  /-- The machine is dropped. -/
  | close
  | view
  | copyView (reader : Nat)
  | changed (reader : Nat)
  /-- A call that waits is started, on whichever view. -/
  | start (wanted : Snapshot → Bool)
  | run (wait : Nat)
  | drop (wait : Nat)

/-- No failure is caught between its move and its message. -/
def WatchMove.isWhole : WatchMove → Bool
  | .failBegins .. | .failEnds => false
  | _ => true

namespace Audience

def new : Audience := ⟨.new, none, [.initial], [], []⟩

/-- The machine shows something new. -/
def present (a : Audience) (w : Watch) : Audience :=
  { a with watch := w, shown := a.shown ++ [w.snapshot] }

/-- The machine is there and can be called. -/
def isFree (a : Audience) : Bool := !a.watch.closed && a.unsaid.isNone

def step (a : Audience) : WatchMove → Audience
  | .call c =>
    if a.isFree then
      match a.watch.call c with
      | .ok w => a.present w
      | .error _ => a
    else a
  | .failBegins failure reasons =>
    if a.isFree then
      match a.watch.apply .failed reasons with
      | .ok w => { a.present w with unsaid := some failure.message }
      | .error _ => a
    else a
  | .failEnds =>
    match a.unsaid with
    | some message =>
      { a.present (a.watch.publish { a.watch.snapshot with lastError := some message }) with
        unsaid := none }
    | none => a
  | .close => if a.isFree then { a with watch := a.watch.close } else a
  | .view =>
    if a.isFree then { a with readers := a.readers ++ [⟨a.watch.view, [a.watch.snapshot]⟩] } else a
  | .copyView i =>
    match a.readers[i]? with
    | some r => { a with readers := a.readers ++ [⟨r.view, r.told.getLast?.toList⟩] }
    | none => a
  | .changed i =>
    match a.readers[i]? with
    | some r => { a with readers := a.readers.set i (r.learn a.watch) }
    | none => a
  | .start wanted => { a with waits := a.waits ++ [some ⟨wanted, none⟩] }
  | .run i =>
    match a.waits[i]? with
    | some (some x) =>
      match x.run a.watch with
      | (.pending, v) => { a with waits := a.waits.set i (some { x with view? := some v }) }
      | (.ready _, _) => { a with waits := a.waits.set i none }
    | _ => a
  | .drop i => { a with waits := a.waits.set i none }

def run (a : Audience) (moves : List WatchMove) : Audience := moves.foldl step a

end Audience

namespace Audience

variable {a : Audience} {w : Watch}

/-- A machine has a message only when it has failed, and a failure that has yet to show its message
has none. -/
structure Steady (a : Audience) : Prop where
  failed : a.watch.snapshot.lastError.isSome → a.watch.snapshot.state = .failed
  unsaid : a.unsaid.isSome →
    a.watch.snapshot.state = .failed ∧ a.watch.snapshot.lastError = none

/-- What was shown came one later than the other, the views follow it, and the calls that wait have
looked. -/
structure Informed (a : Audience) : Prop where
  last : a.shown.getLast? = some a.watch.snapshot
  later : a.shown.Pairwise Snapshot.Later
  readers : ∀ r ∈ a.readers, r.Follows a.shown a.watch
  waits : ∀ x, some x ∈ a.waits → x.Looked a.watch

private theorem pairwise_concat {R : Snapshot → Snapshot → Prop} {shown : List Snapshot}
    {s t : Snapshot}
    (trans : ∀ {s t u}, R s t → R t u → R s u) (h : shown.Pairwise R)
    (hs : shown.getLast? = some s) (ht : R s t) : (shown ++ [t]).Pairwise R := by
  obtain ⟨before, rfl⟩ := List.getLast?_eq_some_iff.mp hs
  have hb := (List.pairwise_append.mp h).2.2
  refine List.pairwise_append.mpr ⟨h, List.pairwise_singleton _ _, fun x hx y hy => ?_⟩
  obtain rfl := List.mem_singleton.mp hy
  rcases List.mem_append.mp hx with hx | hx
  · exact trans (hb x hx s List.mem_cons_self) ht
  · obtain rfl := List.mem_singleton.mp hx
    exact ht

private theorem Informed.present (h : a.Informed) (hl : a.watch.snapshot.Later w.snapshot)
    (hv : a.watch.version < w.version) : (a.present w).Informed where
  last := List.getLast?_concat
  later := pairwise_concat Snapshot.Later.trans h.later h.last hl
  readers := fun r hr => (h.readers r hr).present hl hv
  waits := fun x hx => (h.waits x hx).present hv

private theorem new_steady : new.Steady := ⟨nofun, nofun⟩

private theorem new_informed : new.Informed :=
  ⟨rfl, List.pairwise_singleton _ _, nofun, nofun⟩

private theorem isFree_iff : a.isFree ↔ a.watch.closed = false ∧ a.unsaid = none := by
  simp [isFree]

/-- Where the views after a move come from. -/
inductive ReaderFrom (a : Audience) : Reader → Prop where
  | old {r : Reader} (h : r ∈ a.readers) : ReaderFrom a r
  | made : ReaderFrom a ⟨a.watch.view, [a.watch.snapshot]⟩
  | copied {r : Reader} (h : r ∈ a.readers) : ReaderFrom a ⟨r.view, r.told.getLast?.toList⟩
  | learnt {r : Reader} (h : r ∈ a.readers) : ReaderFrom a (r.learn a.watch)

/-- Where the calls that wait after a move come from. -/
inductive WaitFrom (a : Audience) : Wait → Prop where
  | old {x : Wait} (h : some x ∈ a.waits) : WaitFrom a x
  | started (wanted : Snapshot → Bool) : WaitFrom a ⟨wanted, none⟩
  | waits {x : Wait} (h : some x ∈ a.waits) (hp : (x.run a.watch).1 = .pending) :
      WaitFrom a { x with view? := some (x.run a.watch).2 }

/-- What a move does: the machine shows something new, or is gone, or those who watch it go on. -/
inductive Shows (a : Audience) : WatchMove → Audience → Prop where
  | called {c : MachineCall} {w : Watch} (hu : a.unsaid = none) (h : a.watch.call c = .ok w) :
      Shows a (.call c) (a.present w)
  | began {failure : Failure} {reasons : List Reason} {w : Watch} (hu : a.unsaid = none)
      (h : a.watch.apply .failed reasons = .ok w) :
      Shows a (.failBegins failure reasons) { a.present w with unsaid := some failure.message }
  | ended {message : String} (h : a.unsaid = some message) :
      Shows a .failEnds
        { a.present (a.watch.publish { a.watch.snapshot with lastError := some message }) with
          unsaid := none }
  | closed : Shows a .close { a with watch := a.watch.close }
  | watched {m : WatchMove} {readers : List Reader} {waits : List (Option Wait)}
      (hr : ∀ r ∈ readers, a.ReaderFrom r) (hw : ∀ x, some x ∈ waits → a.WaitFrom x) :
      Shows a m { a with readers, waits }

private theorem Shows.unchanged (a : Audience) (m : WatchMove) : Shows a m a :=
  .watched (fun _ => .old) (fun _ => .old)

private theorem Shows.readers {m : WatchMove} {readers : List Reader}
    (hr : ∀ r ∈ readers, a.ReaderFrom r) : Shows a m { a with readers } :=
  .watched hr (fun _ => .old)

private theorem Shows.waits {m : WatchMove} {waits : List (Option Wait)}
    (hw : ∀ x, some x ∈ waits → a.WaitFrom x) : Shows a m { a with waits } :=
  .watched (fun _ => .old) hw

private theorem readerFrom_append {r : Reader} (hr : a.ReaderFrom r) :
    ∀ x ∈ a.readers ++ [r], a.ReaderFrom x := by
  intro x hx
  rcases List.mem_append.mp hx with hx | hx
  · exact .old hx
  · obtain rfl := List.mem_singleton.mp hx
    exact hr

private theorem waitFrom_set (i : Nat) {new : Option Wait}
    (hn : ∀ x, new = some x → a.WaitFrom x) :
    ∀ x, some x ∈ a.waits.set i new → a.WaitFrom x := by
  intro x hx
  rcases List.mem_or_eq_of_mem_set hx with hx | hx
  · exact .old hx
  · exact hn x hx.symm

theorem step_shows (a : Audience) (m : WatchMove) : Shows a m (a.step m) := by
  cases m with
  | call c =>
    dsimp only [step]
    split
    · rename_i hfree
      split
      · rename_i w hc
        exact .called (isFree_iff.mp hfree).2 hc
      · exact .unchanged a _
    · exact .unchanged a _
  | failBegins failure reasons =>
    dsimp only [step]
    split
    · rename_i hfree
      split
      · rename_i w hc
        exact .began (isFree_iff.mp hfree).2 hc
      · exact .unchanged a _
    · exact .unchanged a _
  | failEnds =>
    dsimp only [step]
    split
    · rename_i message hu
      exact .ended hu
    · exact .unchanged a _
  | close =>
    dsimp only [step]
    split
    · exact .closed
    · exact .unchanged a _
  | view =>
    dsimp only [step]
    split
    · exact .readers (readerFrom_append .made)
    · exact .unchanged a _
  | copyView i =>
    dsimp only [step]
    split
    · rename_i r hr
      exact .readers (readerFrom_append (.copied (List.mem_of_getElem? hr)))
    · exact .unchanged a _
  | changed i =>
    dsimp only [step]
    split
    · rename_i r hr
      apply Shows.readers
      intro x hx
      rcases List.mem_or_eq_of_mem_set hx with hx | rfl
      · exact .old hx
      · exact .learnt (List.mem_of_getElem? hr)
    · exact .unchanged a _
  | start wanted =>
    apply Shows.waits
    intro x hx
    rcases List.mem_append.mp hx with hx | hx
    · exact .old hx
    · obtain rfl := Option.some.inj (List.mem_singleton.mp hx)
      exact .started wanted
  | run i =>
    dsimp only [step]
    split
    · rename_i x hx
      have hmem : some x ∈ a.waits := List.mem_of_getElem? hx
      split
      · rename_i v hrun
        apply Shows.waits
        apply waitFrom_set i
        rintro _ ⟨⟩
        have hfrom := WaitFrom.waits hmem (congrArg Prod.fst hrun)
        rwa [hrun] at hfrom
      · exact .waits (waitFrom_set i nofun)
    · exact .unchanged a _
  | drop i => exact .waits (waitFrom_set i nofun)

variable {a' : Audience} {m : WatchMove}

private theorem Shows.steady (hs : a.Shows m a') (h : a.Steady) : a'.Steady := by
  cases hs with
  | called hu hc => exact ⟨(Watch.advances_of_call hc).2.2, by simp [present, hu]⟩
  | began hu hc =>
    refine ⟨(Watch.advances_of_apply hc).2.2, fun _ => ?_⟩
    obtain ⟨state, hn, rfl⟩ := Watch.apply_eq_ok hc
    obtain rfl := State.eq_failed_of_next? hn
    have hnone := mt h.failed (State.ne_failed_of_next? hn).1
    refine ⟨rfl, ?_⟩
    simpa [present, Watch.publish, Snapshot.moveTo] using hnone
  | ended hu =>
    exact ⟨fun _ => (h.unsaid (by rw [hu]; rfl)).1, fun hn => absurd hn Bool.false_ne_true⟩
  | closed => exact ⟨h.failed, h.unsaid⟩
  | watched => exact ⟨h.failed, h.unsaid⟩

private theorem Informed.readerFrom (h : a.Informed) {r : Reader} (hr : a.ReaderFrom r) :
    r.Follows a.shown a.watch := by
  cases hr with
  | old hr => exact h.readers _ hr
  | made =>
    refine ⟨?_, fun _ => rfl, fun hne => absurd rfl hne⟩
    exact List.singleton_sublist.mpr (List.mem_of_getLast? h.last)
  | @copied r hr =>
    have hf := h.readers r hr
    have hlast : r.told.getLast?.toList.getLast? = r.told.getLast? := by
      cases r.told.getLast? <;> rfl
    constructor
    · cases ht : r.told.getLast? with
      | none => exact List.nil_sublist _
      | some s => exact (List.singleton_sublist.mpr (List.mem_of_getLast? ht)).trans hf.sublist
    · intro he
      exact hlast.trans (hf.current he)
    · intro hne
      obtain ⟨hlt, s, hs, hlater⟩ := hf.behind hne
      exact ⟨hlt, s, hlast.trans hs, hlater⟩
  | learnt hr => exact (h.readers _ hr).learn h.last

private theorem Informed.waitFrom (h : a.Informed) {x : Wait} (hx : a.WaitFrom x) :
    x.Looked a.watch := by
  cases hx with
  | old hx => exact h.waits _ hx
  | started wanted => exact Wait.looked_new wanted a.watch
  | waits hx hp => exact (h.waits _ hx).waits hp

private theorem Shows.informed (hs : a.Shows m a') (h : a.Informed) (ht : a.Steady) :
    a'.Informed := by
  cases hs with
  | called hu hc =>
    obtain ⟨hg, hv, -⟩ := Watch.advances_of_call hc
    exact h.present (.inl hg) hv
  | began hu hc =>
    obtain ⟨hg, hv, -⟩ := Watch.advances_of_apply hc
    have hp := h.present (.inl hg) hv
    exact ⟨hp.last, hp.later, hp.readers, hp.waits⟩
  | @ended message hu =>
    have hnone := (ht.unsaid (by rw [hu]; rfl)).2
    have hp := h.present (w := a.watch.publish { a.watch.snapshot with lastError := some message })
      (.inr ⟨hnone, message, rfl⟩) (Nat.lt_succ_self _)
    exact ⟨hp.last, hp.later, hp.readers, hp.waits⟩
  | closed =>
    refine ⟨h.last, h.later, fun r hr => ?_, h.waits⟩
    exact ⟨(h.readers r hr).sublist, (h.readers r hr).current, (h.readers r hr).behind⟩
  | watched hr hw =>
    exact ⟨h.last, h.later, fun r h' => h.readerFrom (hr r h'), fun x h' => h.waitFrom (hw x h')⟩

theorem run_informed (h : a.Informed) (hs : a.Steady) (moves : List WatchMove) :
    (a.run moves).Informed := by
  induction moves generalizing a with
  | nil => exact h
  | cons m rest ih =>
    have hm := a.step_shows m
    exact ih (hm.informed h hs) (hm.steady hs)

/-- If no failure is caught in the middle, what is shown is always of a later generation. -/
theorem run_generations (h : a.Informed) (hs : a.Steady) (hu : a.unsaid = none)
    (hg : a.shown.Pairwise (·.generation < ·.generation)) {moves : List WatchMove}
    (hm : ∀ m ∈ moves, m.isWhole) :
    (a.run moves).shown.Pairwise (·.generation < ·.generation) := by
  induction moves generalizing a with
  | nil => exact hg
  | cons m rest ih =>
    obtain ⟨hwhole, hrest⟩ := List.forall_mem_cons.mp hm
    have hshows := a.step_shows m
    have hnext : (a.step m).unsaid = none ∧
        (a.step m).shown.Pairwise (·.generation < ·.generation) := by
      generalize a.step m = a' at hshows ⊢
      cases hshows with
      | called _ hc =>
        have hlt := (Watch.advances_of_call hc).1
        exact ⟨hu, pairwise_concat Nat.lt_trans hg h.last hlt⟩
      | began => cases hwhole
      | ended hu' =>
        rw [hu] at hu'
        cases hu'
      | closed => exact ⟨hu, hg⟩
      | watched => exact ⟨hu, hg⟩
    exact ih (hshows.informed h hs) (hshows.steady hs) hnext.1 hnext.2 hrest

/-- In every history of a machine, of its views and of the calls that wait on it:
* a run of a call that waits for a snapshot answers with the one on show exactly if it is wanted,
  with none exactly if it is not wanted and the machine is gone, and waits otherwise; before it
  would answer it is woken, as something newer than it saw is on show or the machine is gone;
* the snapshots that were learnt by a view are among those that were shown and come one later than
  the other, until the one on show was learnt; what was not learnt is earlier than that one, or
  given next;
* unless a failure is caught between its move and its message, later means of a later generation. -/
theorem watchers_answer (moves : List WatchMove) :
    let a := new.run moves
    (∀ x, some x ∈ a.waits → x.Answers a.watch) ∧
      (∀ r ∈ a.readers, r.Answers a.shown a.watch) ∧
      a.shown.getLast? = some a.watch.snapshot ∧
      ((∀ m ∈ moves, m.isWhole) →
        ∀ r ∈ a.readers, r.told.Pairwise (·.generation < ·.generation)) := by
  intro a
  have h : a.Informed := run_informed new_informed new_steady moves
  refine ⟨fun x hx => (h.waits x hx).answers, ?_, h.last, ?_⟩
  · intro r hr
    exact (h.readers r hr).answers h.last h.later
  · intro hwhole r hr
    have hg : a.shown.Pairwise (·.generation < ·.generation) :=
      run_generations new_informed new_steady rfl (List.pairwise_singleton _ _) hwhole
    exact hg.sublist (h.readers r hr).sublist

/-- A call waits for running, and is not run while the service is running; another one waits for a
failure. A view learns that the service is running and is copied, and learns that it has failed before
the machine is gone; the copy has still to learn it. In another history a failure is caught in the
middle: the call that waits for a message goes on waiting, and the view, which has learnt the move,
learns the message as a snapshot of the same generation. -/
theorem watchers_answer_of_failure :
    let failure : Failure := .timedOut "start" (.ofMillis 5)
    let moves : List WatchMove := [.view, .start (·.state = .running), .run 0,
      .call (.apply .start []), .run 0, .call (.apply .startSucceeded []), .changed 0, .copyView 0,
      .start (·.state = .failed), .run 1, .call (.apply .restart []), .call (.fail failure []),
      .changed 0, .close]
    let a := new.run moves
    let failed : Snapshot := ⟨.failed, 4, [], some failure.message⟩
    let split : List WatchMove := [.view, .start (·.lastError.isSome), .call (.apply .start []),
      .failBegins failure [], .run 0, .changed 0]
    let half := new.run split
    let whole := new.run (split ++ [.failEnds])
    let moved : Snapshot := ⟨.failed, 2, [], none⟩
    let said : Snapshot := ⟨.failed, 2, [], some failure.message⟩
    (a.waits = [some ⟨(·.state = .running), some ⟨1⟩⟩, some ⟨(·.state = .failed), some ⟨2⟩⟩] ∧
      (∀ m ∈ moves, m.isWhole) ∧
      (Wait.run ⟨(·.state = .running), some ⟨1⟩⟩ a.watch).1 = .ready none ∧
      (Wait.run ⟨(·.state = .failed), some ⟨2⟩⟩ a.watch).1 = .ready (some failed) ∧
      ∃ r copy, a.readers = [r, copy] ∧ r.told.map (·.generation) = [0, 2, 4] ∧
        r.told.Pairwise (·.generation < ·.generation) ∧ (r.view.changed a.watch).1 = .ready none ∧
        copy.told.map (·.generation) = [2] ∧
        (copy.view.changed a.watch).1 = .ready (some failed)) ∧
      half.waits = [some ⟨(·.lastError.isSome), some ⟨2⟩⟩] ∧
      (Wait.run ⟨(·.lastError.isSome), some ⟨2⟩⟩ half.watch).1 = .pending ∧
      (Wait.run ⟨(·.lastError.isSome), some ⟨2⟩⟩ whole.watch).1 = .ready (some said) ∧
      ∃ r, whole.readers = [r] ∧ r.told = [.initial, moved] ∧
        (r.view.changed whole.watch).1 = .ready (some said) := by
  intro failure moves a failed split half whole moved said
  constructor
  · have hw : a.waits =
        [some ⟨(·.state = .running), some ⟨1⟩⟩, some ⟨(·.state = .failed), some ⟨2⟩⟩] := rfl
    have hm : ∀ m ∈ moves, m.isWhole := by simp [moves, WatchMove.isWhole]
    obtain ⟨hwaits, hreaders, -, hwhole⟩ := watchers_answer moves
    have hrunning := hwaits ⟨(·.state = .running), some ⟨1⟩⟩ (by rw [hw]; simp)
    have hfailed := hwaits ⟨(·.state = .failed), some ⟨2⟩⟩ (by rw [hw]; simp)
    refine ⟨hw, hm, hrunning.none.mpr ⟨rfl, rfl⟩, (hfailed.found failed).mpr ⟨rfl, rfl⟩, ?_⟩
    let running : Snapshot := ⟨.running, 2, [], none⟩
    have hr : a.readers = [⟨⟨5⟩, [.initial, running, failed]⟩, ⟨⟨2⟩, [running]⟩] := rfl
    have hfirst : (⟨⟨5⟩, [.initial, running, failed]⟩ : Reader) ∈ a.readers := by simp [hr]
    have hcopy : (⟨⟨2⟩, [running]⟩ : Reader) ∈ a.readers := by simp [hr]
    refine ⟨_, _, hr, rfl, hwhole hm _ hfirst, ?_, rfl, ?_⟩
    · exact (hreaders _ hfirst).none.mpr ⟨rfl, rfl⟩
    · refine ((hreaders _ hcopy).next failed).mpr ⟨rfl, ?_⟩
      intro heq
      exact absurd (congrArg Snapshot.generation (Option.some.inj heq)) (by decide)
  · have hhalf : half.waits = [some ⟨(·.lastError.isSome), some ⟨2⟩⟩] := rfl
    have hend : whole.waits = [some ⟨(·.lastError.isSome), some ⟨2⟩⟩] := rfl
    obtain ⟨hbetween, -⟩ := watchers_answer split
    obtain ⟨hafter, hreaders, -⟩ := watchers_answer (split ++ [.failEnds])
    have hpending := hbetween ⟨(·.lastError.isSome), some ⟨2⟩⟩ (by rw [hhalf]; simp)
    have hfound := hafter ⟨(·.lastError.isSome), some ⟨2⟩⟩ (by rw [hend]; simp)
    have hr : whole.readers = [⟨⟨2⟩, [.initial, moved]⟩] := rfl
    have hreader := hreaders ⟨⟨2⟩, [.initial, moved]⟩ (by rw [hr]; simp)
    refine ⟨hhalf, hpending.pending.mpr ⟨rfl, rfl⟩, (hfound.found said).mpr ⟨rfl, rfl⟩, _, hr, rfl,
      (hreader.next said).mpr ⟨rfl, ?_⟩⟩
    intro heq
    cases congrArg Snapshot.lastError (Option.some.inj heq)

end Audience
end RestartCoordinator.Lifecycle
