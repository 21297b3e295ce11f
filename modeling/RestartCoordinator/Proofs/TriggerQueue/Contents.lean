import Mathlib.Data.List.Basic
import Mathlib.Data.List.Nodup
import Mathlib.Data.List.Sort
import RestartCoordinator.TriggerQueue
/-!
# The contents of the trigger queue

The queue keeps one lane for each producer, but it is one list to those who use it: its *contents*,
everything held in the order in which it came. A submission puts the new trigger at the end, after
the oldest one of its producer was dropped if the lane was full, and what is taken out is the head.
-/
namespace RestartCoordinator
namespace TriggerQueue

/-- Everything that is held, in the order in which it came. -/
def contents (q : TriggerQueue) : List Queued :=
  (q.lanes.flatMap (·.queued)).mergeSort (fun a b => a.seq ≤ b.seq)

/-- The trigger that has to go before a full queue can take another, with its number. -/
def oldestOf? (q : TriggerQueue) (producer : String) : Option Queued :=
  if q.capacity ≤ (q.lane producer).length then (q.lane producer).head? else none

/-- The lanes are those of the list, which is in the order of the numbers given out. -/
structure Holds (q : TriggerQueue) (held : List Queued) : Prop where
  sorted : held.Pairwise (·.seq < ·.seq)
  below : ∀ x ∈ held, x.seq < q.nextSeq
  nodup : (q.lanes.map (·.producer)).Nodup
  nonempty : ∀ l ∈ q.lanes, l.queued ≠ []
  lane_eq : ∀ producer, q.lane producer = held.filter (·.trigger.origin == producer)

theorem holds_new (capacity : Nat) : (new capacity).Holds [] :=
  ⟨.nil, nofun, List.nodup_nil, nofun, fun _ => rfl⟩

section
variable {lanes : List Lane} {l : Lane} {producer : String}

private def laneIn (lanes : List Lane) (producer : String) : List Queued :=
  ((lanes.find? (·.producer == producer)).map (·.queued)).getD []

private theorem laneIn_cons :
    laneIn (l :: lanes) producer =
      if l.producer = producer then l.queued else laneIn lanes producer := by
  unfold laneIn
  by_cases h : l.producer = producer <;> simp [h]

private theorem laneIn_of_mem (hn : (lanes.map (·.producer)).Nodup) (hl : l ∈ lanes) :
    laneIn lanes l.producer = l.queued := by
  induction lanes with
  | nil => cases hl
  | cons head rest ih =>
    obtain ⟨hh, hr⟩ := List.nodup_cons.mp hn
    rw [laneIn_cons]
    rcases List.mem_cons.mp hl with rfl | hl
    · exact if_pos rfl
    · have hne : head.producer ≠ l.producer := fun he =>
        hh (List.mem_map.mpr ⟨l, hl, he.symm⟩)
      rw [if_neg hne, ih hr hl]

private theorem laneIn_eq_nil (h : ∀ l ∈ lanes, l.producer ≠ producer) :
    laneIn lanes producer = [] := by
  have hn : lanes.find? (·.producer == producer) = none :=
    List.find?_eq_none.mpr fun l hl => by simpa using h l hl
  simp [laneIn, hn]

private theorem exists_of_laneIn_ne_nil (h : laneIn lanes producer ≠ []) :
    ∃ l ∈ lanes, l.producer = producer ∧ l.queued = laneIn lanes producer := by
  induction lanes with
  | nil => exact absurd rfl h
  | cons head rest ih =>
    rw [laneIn_cons] at h ⊢
    by_cases hp : head.producer = producer
    · exact ⟨head, List.mem_cons_self, hp, by rw [if_pos hp]⟩
    · rw [if_neg hp] at h ⊢
      obtain ⟨l, hl, hlp, hq⟩ := ih h
      exact ⟨l, List.mem_cons_of_mem _ hl, hlp, hq⟩

private theorem laneIn_append (h : l.producer ∉ lanes.map (·.producer)) :
    laneIn (lanes ++ [l]) producer =
      if producer = l.producer then l.queued else laneIn lanes producer := by
  induction lanes with
  | nil =>
    rw [List.nil_append, laneIn_cons]
    simp only [eq_comm]
  | cons head rest ih =>
    rw [List.map_cons, List.mem_cons, not_or] at h
    rw [List.cons_append, laneIn_cons, laneIn_cons, ih h.2]
    by_cases hp : head.producer = producer
    · have hne : producer ≠ l.producer := hp ▸ h.1 ∘ Eq.symm
      rw [if_pos hp, if_neg hne, if_pos hp]
    · rw [if_neg hp, if_neg hp]

private theorem laneIn_replace (h : l.producer ∈ lanes.map (·.producer)) :
    laneIn (lanes.map fun old => if old.producer == l.producer then l else old) producer =
      if producer = l.producer then l.queued else laneIn lanes producer := by
  have replaced (old : Lane) :
      (if old.producer == l.producer then l else old).producer = old.producer := by
    split <;> simp_all
  by_cases hp : producer = l.producer
  · subst hp
    rw [if_pos rfl]
    induction lanes with
    | nil => cases h
    | cons head rest ih =>
      rw [List.map_cons, laneIn_cons, replaced]
      by_cases hh : head.producer = l.producer
      · simp [hh]
      · rw [if_neg hh]
        refine ih ((List.mem_cons.mp h).resolve_left fun he => hh he.symm)
  · rw [if_neg hp]
    clear h
    induction lanes with
    | nil => rfl
    | cons head rest ih =>
      rw [List.map_cons, laneIn_cons, laneIn_cons, replaced, ih]
      by_cases hh : head.producer = producer
      · have hne : (head.producer == l.producer) = false := by
          simpa [hh] using hp
        simp [hne]
      · simp [hh]

private theorem any_producer_eq (lanes : List Lane) (producer : String) :
    lanes.any (·.producer == producer) = decide (producer ∈ lanes.map (·.producer)) := by
  rw [Bool.eq_iff_iff]
  simp only [List.any_eq_true, beq_iff_eq, decide_eq_true_iff, List.mem_map]

private theorem laneIn_setLane (lanes : List Lane) (l : Lane) (producer : String) :
    laneIn (setLane lanes l) producer =
      if producer = l.producer then l.queued else laneIn lanes producer := by
  unfold setLane
  rw [any_producer_eq]
  by_cases h : l.producer ∈ lanes.map (·.producer)
  · rw [if_pos (decide_eq_true h)]
    exact laneIn_replace h
  · rw [if_neg (by simpa using h)]
    exact laneIn_append h

private theorem producers_setLane (lanes : List Lane) (l : Lane) :
    (setLane lanes l).map (·.producer) =
      if l.producer ∈ lanes.map (·.producer) then lanes.map (·.producer)
      else lanes.map (·.producer) ++ [l.producer] := by
  unfold setLane
  rw [any_producer_eq]
  by_cases h : l.producer ∈ lanes.map (·.producer)
  · rw [if_pos (decide_eq_true h), if_pos h, List.map_map]
    refine List.map_congr_left fun old _ => ?_
    by_cases ho : old.producer = l.producer <;> simp [ho]
  · rw [if_neg (by simpa using h), if_neg h]
    simp

private theorem nodup_setLane (hn : (lanes.map (·.producer)).Nodup) :
    ((setLane lanes l).map (·.producer)).Nodup := by
  rw [producers_setLane]
  by_cases h : l.producer ∈ lanes.map (·.producer)
  · rwa [if_pos h]
  · rw [if_neg h]
    exact List.nodup_append.mpr ⟨hn, List.nodup_singleton _, fun a ha b hb he =>
      h ((List.mem_singleton.mp hb) ▸ he ▸ ha)⟩

private theorem laneIn_filter (lanes : List Lane) (dropped producer : String) :
    laneIn (lanes.filter (·.producer != dropped)) producer =
      if producer = dropped then [] else laneIn lanes producer := by
  by_cases hp : producer = dropped
  · subst hp
    rw [if_pos rfl]
    exact laneIn_eq_nil fun l hl => by simpa using (List.mem_filter.mp hl).2
  · rw [if_neg hp]
    induction lanes with
    | nil => rfl
    | cons head rest ih =>
      rw [laneIn_cons]
      by_cases hh : head.producer = dropped
      · rw [List.filter_cons_of_neg (by simpa using hh), ih,
          if_neg (hh ▸ Ne.symm hp)]
      · rw [List.filter_cons_of_pos (by simpa using hh), laneIn_cons, ih]

private theorem mem_setLane {l' : Lane} (h : l' ∈ setLane lanes l) : l' = l ∨ l' ∈ lanes := by
  unfold setLane at h
  split at h
  · obtain ⟨old, ho, rfl⟩ := List.mem_map.mp h
    split
    · exact .inl rfl
    · exact .inr ho
  · rcases List.mem_append.mp h with h | h
    · exact .inr h
    · exact .inl (List.mem_singleton.mp h)

private theorem oldestLane?_eq_none (hq : ∀ l ∈ lanes, l.queued ≠ [])
    (h : oldestLane? lanes = none) : lanes = [] := by
  cases lanes with
  | nil => rfl
  | cons head rest =>
    obtain ⟨first, others, hf⟩ := List.exists_cons_of_ne_nil (hq head List.mem_cons_self)
    have hh : head.queued.head? = some first := by rw [hf, List.head?_cons]
    simp only [oldestLane?, hh] at h
    split at h
    · rename_i hn
      cases hn
    · cases h
    · split at h
      · split at h <;> cases h
      · cases h

private theorem oldestLane?_spec (hq : ∀ l ∈ lanes, l.queued ≠ [])
    (h : oldestLane? lanes = some l) :
    l ∈ lanes ∧ ∃ first rest, l.queued = first :: rest ∧
      ∀ l' ∈ lanes, ∀ x, l'.queued.head? = some x → first.seq ≤ x.seq := by
  induction lanes generalizing l with
  | nil => cases h
  | cons head rest ih =>
    obtain ⟨first, others, hf⟩ := List.exists_cons_of_ne_nil (hq head List.mem_cons_self)
    have hh : head.queued.head? = some first := by rw [hf, List.head?_cons]
    have hr := fun l' hl => hq l' (List.mem_cons_of_mem head hl)
    cases ho : oldestLane? rest with
    | none =>
      obtain rfl := oldestLane?_eq_none hr ho
      simp only [oldestLane?, hh] at h
      obtain rfl := Option.some.inj h
      refine ⟨List.mem_cons_self, first, others, hf, fun l' hl x hx => ?_⟩
      obtain rfl := List.mem_singleton.mp hl
      rw [hh] at hx
      exact (Option.some.inj hx) ▸ Nat.le_refl _
    | some best =>
      obtain ⟨hb, b, bs, hbq, hmin⟩ := ih hr ho
      have hbh : best.queued.head? = some b := by rw [hbq, List.head?_cons]
      simp only [oldestLane?, hh, ho, hbh] at h
      split at h
      · rename_i hle
        obtain rfl := Option.some.inj h
        refine ⟨List.mem_cons_self, first, others, hf, fun l' hl x hx => ?_⟩
        rcases List.mem_cons.mp hl with rfl | hl
        · rw [hh] at hx
          exact (Option.some.inj hx) ▸ Nat.le_refl _
        · exact Nat.le_trans hle (hmin l' hl x hx)
      · rename_i hle
        obtain rfl := Option.some.inj h
        refine ⟨List.mem_cons_of_mem _ hb, b, bs, hbq, fun l' hl x hx => ?_⟩
        rcases List.mem_cons.mp hl with rfl | hl
        · rw [hh] at hx
          exact (Option.some.inj hx) ▸ (Nat.le_of_not_le hle)
        · exact hmin l' hl x hx

end

section
variable {q q' : TriggerQueue} {held : List Queued} {t : Trigger} {x : Queued}

theorem Holds.queued_eq (h : q.Holds held) {l : Lane} (hl : l ∈ q.lanes) :
    l.queued = held.filter (·.trigger.origin == l.producer) :=
  (laneIn_of_mem h.nodup hl).symm.trans (h.lane_eq l.producer)

private theorem Holds.exists_lane (h : q.Holds held) (hx : x ∈ held) :
    ∃ l ∈ q.lanes, l.producer = x.trigger.origin ∧ x ∈ l.queued := by
  have hm : x ∈ laneIn q.lanes x.trigger.origin := by
    change x ∈ q.lane x.trigger.origin
    rw [h.lane_eq]
    exact List.mem_filter.mpr ⟨hx, beq_self_eq_true _⟩
  obtain ⟨l, hl, hp, hq⟩ := exists_of_laneIn_ne_nil (List.ne_nil_of_mem hm)
  exact ⟨l, hl, hp, hq ▸ hm⟩

private theorem Holds.mem_of_mem_lane (h : q.Holds held) {l : Lane} (hl : l ∈ q.lanes)
    (hx : x ∈ l.queued) : x ∈ held ∧ x.trigger.origin = l.producer := by
  rw [h.queued_eq hl, List.mem_filter, beq_iff_eq] at hx
  exact hx

private theorem nodup_seq (h : held.Pairwise (·.seq < ·.seq)) : (held.map (·.seq)).Nodup :=
  List.pairwise_map.mpr (h.imp Nat.ne_of_lt)

theorem nodup_of_sorted (h : held.Pairwise (·.seq < ·.seq)) : held.Nodup := (nodup_seq h).of_map

theorem Holds.nodup_held (h : q.Holds held) : held.Nodup := nodup_of_sorted h.sorted

/-- What is held, taken lane by lane and put in order, is the contents. -/
theorem Holds.contents_eq (h : q.Holds held) : q.contents = held := by
  have hd : q.lanes.Pairwise fun l l' => List.Disjoint l.queued l'.queued := by
    refine (List.pairwise_map.mp h.nodup).imp_of_mem fun hl hl' hne x hx hx' => hne ?_
    exact (h.mem_of_mem_lane hl hx).2.symm.trans (h.mem_of_mem_lane hl' hx').2
  have hn : (q.lanes.flatMap (·.queued)).Nodup :=
    List.nodup_flatMap.mpr ⟨fun l hl => h.queued_eq hl ▸ h.nodup_held.filter _, hd⟩
  have hp : (q.lanes.flatMap (·.queued)).Perm held := by
    refine (List.perm_ext_iff_of_nodup hn h.nodup_held).mpr fun x => ?_
    rw [List.mem_flatMap]
    constructor
    · rintro ⟨l, hl, hx⟩
      exact (h.mem_of_mem_lane hl hx).1
    · intro hx
      obtain ⟨l, hl, -, hm⟩ := h.exists_lane hx
      exact ⟨l, hl, hm⟩
  have hs : q.contents.Pairwise (fun a b => a.seq ≤ b.seq) := by
    have hle : q.contents.Pairwise (fun a b => decide (a.seq ≤ b.seq) = true) :=
      List.pairwise_mergeSort (by simpa using fun a b c => Nat.le_trans)
        (by simpa using fun a b => Nat.le_total _ _) _
    simpa using hle
  have hm : q.contents.Perm held := (List.mergeSort_perm _ _).trans hp
  refine hm.eq_of_pairwise ?_ hs (h.sorted.imp Nat.le_of_lt)
  intro a b ha hb hab hba
  exact List.inj_on_of_nodup_map (nodup_seq h.sorted) (hm.mem_iff.mp ha) hb (Nat.le_antisymm hab hba)

theorem Holds.close (h : q.Holds held) : q.close.Holds held :=
  ⟨h.sorted, h.below, h.nodup, h.nonempty, h.lane_eq⟩

theorem displacedBy_eq (q : TriggerQueue) (producer : String) :
    q.displacedBy producer = (q.oldestOf? producer).map (·.trigger) := by
  unfold displacedBy oldestOf?
  split <;> rfl

theorem submit_eq_ok {s : Submission} (hs : q.submit t = .ok (s, q')) :
    q.closed = false ∧
      s = ((q.oldestOf? t.origin).elim .accepted fun x => .displaced x.trigger) ∧
      q'.closed = false ∧ q'.capacity = q.capacity ∧ q'.nextSeq = q.nextSeq + 1 ∧
      q'.lanes = setLane q.lanes ⟨t.origin,
        (if (q.oldestOf? t.origin).isSome then (q.lane t.origin).tail else q.lane t.origin) ++
          [⟨q.nextSeq, t⟩]⟩ := by
  unfold submit at hs
  cases hc : q.closed with
  | true => simp [hc] at hs
  | false =>
    simp only [hc, displacedBy_eq] at hs
    cases ho : q.oldestOf? t.origin <;>
    · simp_all
      obtain ⟨-, rfl⟩ := hs
      exact ⟨rfl, rfl, rfl, rfl⟩

theorem lane_submit {s : Submission} (hs : q.submit t = .ok (s, q')) (producer : String) :
    q'.lane producer =
      if producer = t.origin then
        (if (q.oldestOf? t.origin).isSome then (q.lane t.origin).tail else q.lane t.origin) ++
          [⟨q.nextSeq, t⟩]
      else q.lane producer := by
  obtain ⟨-, -, -, -, -, hlanes⟩ := submit_eq_ok hs
  change laneIn q'.lanes producer = _
  rw [hlanes, laneIn_setLane]
  rfl

theorem Holds.oldestOf?_eq (h : q.Holds held) {producer : String}
    (hx : q.oldestOf? producer = some x) :
    q.capacity ≤ (q.lane producer).length ∧ x ∈ held ∧ x.trigger.origin = producer ∧
      ∃ rest, q.lane producer = x :: rest := by
  unfold oldestOf? at hx
  obtain ⟨hc, hh⟩ := Option.ite_none_right_eq_some.mp hx
  have hm : x ∈ q.lane producer := List.mem_of_mem_head? hh
  rw [h.lane_eq, List.mem_filter, beq_iff_eq] at hm
  exact ⟨hc, hm.1, hm.2, List.head?_eq_some_iff.mp hh⟩

private theorem lane_dropped (h : q.Holds held) (producer : String) :
    (held.filter (q.oldestOf? producer ≠ some ·)).filter (·.trigger.origin == producer) =
      if (q.oldestOf? producer).isSome then (q.lane producer).tail else q.lane producer := by
  have hl := h.lane_eq producer
  cases ho : q.oldestOf? producer with
  | none => simp [hl]
  | some x =>
    obtain ⟨-, -, -, rest, hr⟩ := h.oldestOf?_eq ho
    have hn : (x :: rest).Nodup := hr ▸ hl ▸ h.nodup_held.filter _
    have hf : ∀ y ∈ rest, (decide (some x ≠ some y)) = true := fun y hy =>
      decide_eq_true fun he => (List.nodup_cons.mp hn).1 (Option.some.inj he ▸ hy)
    rw [List.filter_comm, ← hl, hr, List.filter_cons_of_neg (by simp), List.filter_eq_self.mpr hf]
    rfl

/-- A submission puts the new trigger at the end, after the one that has to go has gone. -/
theorem Holds.submit (h : q.Holds held) {s : Submission} (hs : q.submit t = .ok (s, q')) :
    q'.Holds (held.filter (q.oldestOf? t.origin ≠ some ·) ++ [⟨q.nextSeq, t⟩]) := by
  obtain ⟨-, -, -, -, hseq, hlanes⟩ := submit_eq_ok hs
  have hlt : ∀ x ∈ held.filter (q.oldestOf? t.origin ≠ some ·), x.seq < q.nextSeq :=
    fun x hx => h.below x (List.mem_of_mem_filter hx)
  constructor
  · refine List.pairwise_append.mpr ⟨h.sorted.filter _, List.pairwise_singleton .., ?_⟩
    intro x hx y hy
    obtain rfl := List.mem_singleton.mp hy
    exact hlt x hx
  · intro x hx
    rw [hseq]
    rcases List.mem_append.mp hx with hx | hx
    · exact Nat.lt_succ_of_lt (hlt x hx)
    · obtain rfl := List.mem_singleton.mp hx
      exact Nat.lt_succ_self _
  · exact hlanes ▸ nodup_setLane h.nodup
  · intro l hl
    rcases mem_setLane (hlanes ▸ hl) with rfl | hl
    · exact List.append_ne_nil_of_right_ne_nil _ (List.cons_ne_nil _ _)
    · exact h.nonempty l hl
  · intro producer
    rw [lane_submit hs, List.filter_append]
    by_cases hp : producer = t.origin
    · subst hp
      rw [if_pos rfl, lane_dropped h]
      simp
    · have hf : ∀ x ∈ held.filter (·.trigger.origin == producer),
          (decide (q.oldestOf? t.origin ≠ some x)) = true := by
        intro x hx
        rw [List.mem_filter, beq_iff_eq] at hx
        refine decide_eq_true fun ho => hp ?_
        exact hx.2.symm.trans (h.oldestOf?_eq ho).2.2.1
      rw [if_neg hp, List.filter_comm, List.filter_eq_self.mpr hf]
      exact (h.lane_eq producer).trans (by simp [Ne.symm hp])

theorem take?_frame (ht : q.take? = some (t, q')) :
    ∃ lanes, q' = { q with lanes, delivered := q.delivered + 1 } := by
  unfold take? at ht
  split at ht
  · cases ht
  · split at ht
    · cases ht
    · obtain ⟨-, rfl⟩ := Prod.mk.inj (Option.some.inj ht)
      exact ⟨_, rfl⟩

theorem Holds.take?_nil (h : q.Holds []) : q.take? = none := by
  have hl : q.lanes = [] := List.eq_nil_iff_forall_not_mem.mpr fun l hl =>
    h.nonempty l hl (by simpa using h.queued_eq hl)
  simp [take?, hl, oldestLane?]

private theorem oldestLane?_of_cons (h : q.Holds (x :: held)) :
    ∃ l, oldestLane? q.lanes = some l ∧ l.producer = x.trigger.origin ∧
      l.queued = x :: held.filter (·.trigger.origin == l.producer) := by
  obtain ⟨lx, hlx, hpx, -⟩ := h.exists_lane List.mem_cons_self
  have hhead : lx.queued.head? = some x := by
    rw [h.queued_eq hlx, List.filter_cons_of_pos (by simp [hpx]), List.head?_cons]
  cases ho : oldestLane? q.lanes with
  | none =>
    rw [oldestLane?_eq_none h.nonempty ho] at hlx
    cases hlx
  | some l =>
    obtain ⟨hl, first, rest, hq, hmin⟩ := oldestLane?_spec h.nonempty ho
    obtain ⟨hm, hp⟩ := h.mem_of_mem_lane hl (hq ▸ List.mem_cons_self)
    obtain rfl : first = x := by
      rcases List.mem_cons.mp hm with hf | hf
      · exact hf
      · have hlt := (List.pairwise_cons.mp h.sorted).1 first hf
        have hle := hmin lx hlx x hhead
        omega
    refine ⟨l, rfl, hp.symm, (h.queued_eq hl).trans ?_⟩
    rw [List.filter_cons_of_pos (by simpa using hp)]

private theorem holds_tail {l : Lane} {rest : List Queued} (h : q.Holds (x :: held))
    (hp : l.producer = x.trigger.origin)
    (hr : rest = held.filter (·.trigger.origin == l.producer)) :
    Holds { q with
      lanes := if rest.isEmpty then q.lanes.filter (·.producer != l.producer)
        else setLane q.lanes ⟨l.producer, rest⟩
      delivered := q.delivered + 1 } held := by
  have hother {producer : String} (hne : producer ≠ l.producer) :
      laneIn q.lanes producer = held.filter (·.trigger.origin == producer) := by
    refine (h.lane_eq producer).trans (List.filter_cons_of_neg ?_)
    simpa [hp] using Ne.symm (hp ▸ hne)
  refine ⟨h.sorted.of_cons, fun y hy => h.below y (List.mem_cons_of_mem _ hy), ?_, ?_, ?_⟩
  · dsimp only
    split
    · exact h.nodup.sublist (List.filter_sublist.map _)
    · exact nodup_setLane h.nodup
  · intro l' hl'
    dsimp only at hl'
    split at hl'
    · exact h.nonempty l' (List.mem_of_mem_filter hl')
    · rename_i he
      rcases mem_setLane hl' with rfl | hl'
      · simpa using he
      · exact h.nonempty l' hl'
  · intro producer
    change laneIn (ite ..) producer = _
    split
    · rename_i he
      rw [laneIn_filter]
      by_cases hpr : producer = l.producer
      · rw [if_pos hpr, hpr, ← hr, List.isEmpty_iff.mp he]
      · rw [if_neg hpr, hother hpr]
    · rw [laneIn_setLane]
      by_cases hpr : producer = l.producer
      · rw [if_pos hpr, hpr, ← hr]
      · rw [if_neg hpr, hother hpr]

theorem Holds.take?_cons (h : q.Holds (x :: held)) :
    ∃ q', q.take? = some (x.trigger, q') ∧ q'.Holds held ∧ q'.nextSeq = q.nextSeq ∧
      q'.closed = q.closed ∧ q'.capacity = q.capacity := by
  obtain ⟨l, ho, hp, hq⟩ := oldestLane?_of_cons h
  refine ⟨_, ?_, holds_tail h hp rfl, rfl, rfl, rfl⟩
  simp only [take?, ho, hq]

end

end TriggerQueue
end RestartCoordinator
