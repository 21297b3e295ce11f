import Mathlib.Data.List.Basic
import RestartCoordinator.Debouncer
import RestartCoordinator.Proofs.Request.Merges
/-!
# Merging in any grouping

However the requests of a list are grouped when they are merged, the result is the same, and it can be
told from the list as a whole. This takes that only stops have superseded reasons, as is the case for
every request of the debouncer and for every merge of such requests. Without it the grouping matters,
but no reason is lost or doubled.
-/
namespace RestartCoordinator

/-- A way to merge the requests of a list two by two. -/
inductive Bracketing where
  | one (r : Request)
  | both (earlier later : Bracketing)

namespace Bracketing

/-- The requests, the earliest first. -/
def requests : Bracketing → List Request
  | one r => [r]
  | both a b => a.requests ++ b.requests

def merged : Bracketing → Request
  | one r => r
  | both a b => a.merged.merge b.merged

end Bracketing

namespace Request

/-- A request that does not stop supersedes nothing. -/
def Plain (r : Request) : Prop := r.isStop = false → r.superseded = []

/-- A request is what a list of requests comes to. -/
structure Combines (whole : Request) (parts : List Request) : Prop where
  id_eq : parts.head?.map (·.id) = some whole.id
  command_eq : whole.command =
    if ∃ r ∈ parts, r.command = .stop then .stop
    else if ∃ r ∈ parts, r.command = .start then .start
    else .reload
  reasons_eq : whole.reasons =
    if ∃ r ∈ parts, r.command = .stop then (parts.filter (·.isStop)).flatMap (·.reasons)
    else parts.flatMap (·.reasons)
  superseded_eq : whole.superseded =
    if ∃ r ∈ parts, r.command = .stop then
      parts.flatMap fun r => if r.isStop then r.superseded else r.reasons
    else []
  windowStart_eq : (parts.map (·.windowStart)).min? = some whole.windowStart
  windowEnd_eq : (parts.map (·.windowEnd)).max? = some whole.windowEnd

variable {a b r whole whole' : Request} {as bs parts : List Request}

private theorem Combines.unique (h : whole.Combines parts) (h' : whole'.Combines parts) :
    whole = whole' := by
  have hid : whole.id = whole'.id := Option.some.inj (h.id_eq.symm.trans h'.id_eq)
  have hcommand : whole.command = whole'.command := h.command_eq.trans h'.command_eq.symm
  have hreasons : whole.reasons = whole'.reasons := h.reasons_eq.trans h'.reasons_eq.symm
  have hsuperseded : whole.superseded = whole'.superseded :=
    h.superseded_eq.trans h'.superseded_eq.symm
  have hstart : whole.windowStart = whole'.windowStart :=
    Option.some.inj (h.windowStart_eq.symm.trans h'.windowStart_eq)
  have hend : whole.windowEnd = whole'.windowEnd :=
    Option.some.inj (h.windowEnd_eq.symm.trans h'.windowEnd_eq)
  cases whole
  cases whole'
  simp_all

private theorem combines_singleton (h : r.Plain) : r.Combines [r] := by
  have hs : r.isStop = false ↔ r.command ≠ .stop := by simp [isStop]
  refine ⟨rfl, ?_, ?_, ?_, rfl, rfl⟩
  · cases hc : r.command <;> simp [hc]
  · by_cases hc : r.command = .stop <;> simp [hc, isStop]
  · by_cases hc : r.command = .stop
    · simp [hc, isStop]
    · simp [hc, h (hs.mpr hc)]

private theorem Combines.stop_iff (h : whole.Combines parts) :
    whole.command = .stop ↔ ∃ r ∈ parts, r.command = .stop := by
  rw [h.command_eq]
  split
  · simpa
  · rename_i hn
    simp only [hn, iff_false]
    split <;> nofun

private theorem Combines.of_not_stop (h : whole.Combines parts) (hc : whole.command ≠ .stop) :
    whole.reasons = parts.flatMap (·.reasons) ∧ whole.superseded = [] := by
  have hn : ¬ ∃ r ∈ parts, r.command = .stop := mt h.stop_iff.mpr hc
  rw [h.reasons_eq, h.superseded_eq, if_neg hn, if_neg hn]
  exact ⟨rfl, rfl⟩

private theorem Combines.plain (h : whole.Combines parts) : whole.Plain := by
  intro hs
  exact (h.of_not_stop (by simpa [isStop] using hs)).2

private theorem Combines.reasonsUnder_stop (h : whole.Combines parts) :
    whole.reasonsUnder .stop = (parts.filter (·.isStop)).flatMap (·.reasons) := by
  unfold reasonsUnder
  by_cases hc : whole.command = .stop
  · simp [hc, h.reasons_eq, h.stop_iff.mp hc]
  · have hf : parts.filter (·.isStop) = [] := by
      apply List.filter_eq_nil_iff.mpr
      intro r hr hs
      exact hc (h.stop_iff.mpr ⟨r, hr, isStop_iff.mp hs⟩)
    simp [hc, hf]

private theorem Combines.voidedUnder_stop (h : whole.Combines parts) :
    whole.superseded ++ whole.voidedUnder .stop =
      parts.flatMap (fun r => if r.isStop then r.superseded else r.reasons) ∧
    whole.voidedUnder .stop ++ whole.superseded =
      parts.flatMap fun r => if r.isStop then r.superseded else r.reasons := by
  unfold voidedUnder
  by_cases hc : whole.command = .stop
  · simp [hc, h.superseded_eq, h.stop_iff.mp hc]
  · obtain ⟨hr, hs⟩ := h.of_not_stop hc
    have hparts : parts.flatMap (·.reasons) =
        parts.flatMap fun r => if r.isStop then r.superseded else r.reasons := by
      apply List.flatMap_congr
      intro r hr
      have hn : ¬ r.isStop := fun hs => hc (h.stop_iff.mpr ⟨r, hr, isStop_iff.mp hs⟩)
      rw [if_neg hn]
    rw [if_pos ⟨rfl, hc⟩, hs, hr, hparts, List.nil_append, List.append_nil]
    exact ⟨rfl, rfl⟩

private theorem min?_append_eq {xs ys : List Nat} {x y : Nat} (hx : xs.min? = some x)
    (hy : ys.min? = some y) : (xs ++ ys).min? = some (min x y) := by
  rw [List.min?_eq_some_iff] at hx hy ⊢
  obtain ⟨hx, hxs⟩ := hx
  obtain ⟨hy, hys⟩ := hy
  constructor
  · rcases Nat.le_total x y with h | h <;> simp [h, hx, hy]
  · intro z hz
    rcases List.mem_append.mp hz with hz | hz
    · have := hxs z hz
      omega
    · have := hys z hz
      omega

private theorem max?_append_eq {xs ys : List Nat} {x y : Nat} (hx : xs.max? = some x)
    (hy : ys.max? = some y) : (xs ++ ys).max? = some (max x y) := by
  rw [List.max?_eq_some_iff] at hx hy ⊢
  obtain ⟨hx, hxs⟩ := hx
  obtain ⟨hy, hys⟩ := hy
  constructor
  · rcases Nat.le_total x y with h | h <;> simp [h, hx, hy]
  · intro z hz
    rcases List.mem_append.mp hz with hz | hz
    · have := hxs z hz
      omega
    · have := hys z hz
      omega

/-- Two requests merged are what their lists, put together, come to. -/
theorem Combines.merge (ha : a.Combines as) (hb : b.Combines bs) :
    (a.merge b).Combines (as ++ bs) := by
  have hor (c : Command) : (∃ r ∈ as ++ bs, r.command = c) ↔
      (∃ r ∈ as, r.command = c) ∨ ∃ r ∈ bs, r.command = c := by
    simp only [List.mem_append, or_and_right, exists_or]
  have hc : (a.merge b).command = .stop ↔ ∃ r ∈ as ++ bs, r.command = .stop := by
    rw [merge_command, Command.join_eq_stop_iff, hor, ha.stop_iff, hb.stop_iff]
  refine ⟨?_, ?_, ?_, ?_, ?_, ?_⟩
  · cases as with
    | nil => simpa using ha.id_eq
    | cons r as => exact ha.id_eq
  · rw [merge_command, ha.command_eq, hb.command_eq]
    simp only [hor]
    by_cases h₁ : ∃ r ∈ as, r.command = .stop <;> by_cases h₂ : ∃ r ∈ bs, r.command = .stop <;>
      by_cases h₃ : ∃ r ∈ as, r.command = .start <;>
        by_cases h₄ : ∃ r ∈ bs, r.command = .start <;>
          simp only [h₁, h₂, h₃, h₄, or_true, or_false, if_true, if_false] <;> rfl
  · change a.reasonsUnder (a.merge b).command ++ b.reasonsUnder (a.merge b).command = _
    by_cases hs : (a.merge b).command = .stop
    · rw [if_pos (hc.mp hs), hs, ha.reasonsUnder_stop, hb.reasonsUnder_stop, List.filter_append,
        List.flatMap_append]
    · obtain ⟨hna, hnb⟩ := not_or.mp (mt Command.join_eq_stop_iff.mpr hs)
      rw [if_neg (mt hc.mpr hs), reasonsUnder, reasonsUnder, if_neg (mt And.left hs),
        if_neg (mt And.left hs), (ha.of_not_stop hna).1, (hb.of_not_stop hnb).1,
        List.flatMap_append]
  · change a.superseded ++ a.voidedUnder (a.merge b).command ++
      b.voidedUnder (a.merge b).command ++ b.superseded = _
    by_cases hs : (a.merge b).command = .stop
    · rw [if_pos (hc.mp hs), hs, ha.voidedUnder_stop.1, List.append_assoc, hb.voidedUnder_stop.2,
        List.flatMap_append]
    · obtain ⟨hna, hnb⟩ := not_or.mp (mt Command.join_eq_stop_iff.mpr hs)
      rw [if_neg (mt hc.mpr hs), voidedUnder, voidedUnder, if_neg (mt And.left hs),
        if_neg (mt And.left hs), (ha.of_not_stop hna).2, (hb.of_not_stop hnb).2]
      rfl
  · rw [List.map_append]
    exact min?_append_eq ha.windowStart_eq hb.windowStart_eq
  · rw [List.map_append]
    exact max?_append_eq ha.windowEnd_eq hb.windowEnd_eq

private theorem reasonsUnder_append_voidedUnder (c : Command) (r : Request) :
    r.reasonsUnder c ++ r.voidedUnder c = r.reasons := by
  unfold reasonsUnder voidedUnder
  split
  · exact List.nil_append _
  · exact List.append_nil _

/-- Whatever the requests, a merge loses no reason and doubles none. -/
theorem merge_perm (a b : Request) :
    ((a.merge b).reasons ++ (a.merge b).superseded).Perm
      (a.reasons ++ a.superseded ++ (b.reasons ++ b.superseded)) := by
  rw [← reasonsUnder_append_voidedUnder (a.merge b).command a,
    ← reasonsUnder_append_voidedUnder (a.merge b).command b]
  apply List.perm_iff_count.mpr
  intro x
  simp only [merge, List.count_append]
  omega

end Request

/-- The request is one that the debouncer gives out. -/
inductive Debouncer.Emits (d : Debouncer) (r : Request) : Prop
  | preempted (id : RequestId) (t : Trigger) (now : Time)
      (h : (d.fold id t now).1 = .preempted r)
  | closed (id : RequestId) (now : Time) (h : (d.close id now).1 = some r)
  | closedIfDue (id : RequestId) (now : Time) (h : (d.closeIfDue id now).1 = some r)

private theorem Debouncer.Emits.plain {d : Debouncer} {r : Request} (h : d.Emits r) : r.Plain := by
  have hclose (id : RequestId) (now : Time) (h : (d.close id now).1 = some r) : r.Plain := by
    obtain ⟨w, -, rfl⟩ := Option.map_eq_some_iff.mp h
    intro _
    rfl
  cases h with
  | preempted id t now h =>
    unfold fold at h
    split at h
    · rename_i ht
      obtain rfl := Folded.preempted.inj h
      intro hr
      have hs : t.isStop = false := hr
      rw [hs] at ht
      cases ht
    · split at h <;> cases h
  | closed id now h => exact hclose id now h
  | closedIfDue id now h =>
    unfold closeIfDue at h
    split at h
    · exact hclose id now h
    · cases h

namespace Bracketing

private theorem combines (tree : Bracketing) (h : ∀ r ∈ tree.requests, r.Plain) :
    tree.merged.Combines tree.requests := by
  induction tree with
  | one r =>
    apply Request.combines_singleton
    exact h r (List.mem_singleton_self r)
  | both a b iha ihb =>
    apply Request.Combines.merge
    · exact iha fun r hr => h r (List.mem_append_left _ hr)
    · exact ihb fun r hr => h r (List.mem_append_right _ hr)

private theorem merged_perm (tree : Bracketing) :
    (tree.merged.reasons ++ tree.merged.superseded).Perm
      (tree.requests.flatMap fun r => r.reasons ++ r.superseded) := by
  induction tree with
  | one r => simp [merged, requests]
  | both a b iha ihb =>
    rw [requests, List.flatMap_append]
    exact (Request.merge_perm _ _).trans (iha.append ihb)

/-- Where only stops supersede, the list decides what its requests are merged into, and the grouping
has no part in it; the debouncer gives out no others, and merging makes no others. In general the
reasons, with those superseded, are kept in number. -/
theorem merged_eq_of_requests (tree : Bracketing) :
    ((∀ r ∈ tree.requests, r.Plain) → tree.merged.Combines tree.requests ∧
      ∀ other : Bracketing, other.requests = tree.requests → other.merged = tree.merged) ∧
    (∀ (d : Debouncer) (r : Request), d.Emits r → r.Plain) ∧
    (∀ a b : Request, a.Plain → b.Plain → (a.merge b).Plain) ∧
    (tree.merged.reasons ++ tree.merged.superseded).Perm
      (tree.requests.flatMap fun r => r.reasons ++ r.superseded) := by
  refine ⟨fun h => ⟨tree.combines h, ?_⟩, fun d r => Debouncer.Emits.plain, ?_, tree.merged_perm⟩
  · intro other he
    have ho := other.combines (he ▸ h)
    rw [he] at ho
    exact ho.unique (tree.combines h)
  · intro a b ha hb
    exact ((Request.combines_singleton ha).merge (Request.combines_singleton hb)).plain

/-- A reload that a window gave, a stop that had superseded a start, a start and one more stop. -/
theorem merged_eq_of_requests_of_four :
    let d := ((Debouncer.new 4 20).fold .nil (.ofReason (.plain .ruleChanged) "rules" 5) 5).2
    let reload : Request := ⟨⟨1⟩, [.plain .ruleChanged], .reload, [], 5, 9⟩
    let stop : Request := ⟨⟨2⟩, [.plain .switchOff], .stop, [.plain .ui], 3, 4⟩
    let start : Request := ⟨⟨3⟩, [.plain .prepared], .start, [], 6, 11⟩
    let last : Request := ⟨⟨4⟩, [.plain .dataImport], .stop, [], 12, 12⟩
    let left := both (both (both (one reload) (one stop)) (one start)) (one last)
    let right := both (one reload) (both (one stop) (both (one start) (one last)))
    d.Emits reload ∧ reload.Plain ∧ (∀ r ∈ left.requests, r.Plain) ∧
      right.merged = left.merged ∧ left.merged.Combines [reload, stop, start, last] ∧
      left.merged = ⟨⟨1⟩, [.plain .switchOff, .plain .dataImport], .stop,
        [.plain .ruleChanged, .plain .ui, .plain .prepared], 3, 12⟩ := by
  intro d reload stop start last left right
  obtain ⟨hlist, hemitted, -⟩ := merged_eq_of_requests left
  have hd : d.Emits reload := .closedIfDue ⟨1⟩ 9 (by decide)
  have hplain : ∀ r ∈ left.requests, r.Plain := by
    unfold Request.Plain
    decide
  obtain ⟨hcombines, hsame⟩ := hlist hplain
  exact ⟨hd, hemitted d reload hd, hplain, hsame right rfl, hcombines, by decide⟩

/-- A reload that supersedes something: the grouping then decides where that ends up. -/
example :
    let reload : Request := ⟨⟨1⟩, [.plain .ruleChanged], .reload, [], 0, 0⟩
    let odd : Request := ⟨⟨2⟩, [.plain .blockHost], .reload, [.plain .ui], 0, 0⟩
    let stop : Request := ⟨⟨3⟩, [.plain .switchOff], .stop, [], 0, 0⟩
    (both (both (one reload) (one odd)) (one stop)).merged.superseded ≠
      (both (one reload) (both (one odd) (one stop))).merged.superseded := by
  decide

end Bracketing
end RestartCoordinator
