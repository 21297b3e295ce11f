import RestartCoordinator.Request
/-!
# Merging many requests

Requests that come one after the other are merged from left to right. The result stops the service
exactly if one of them does, and then it has the reasons of every stop among them.
-/
namespace RestartCoordinator

theorem Command.join_eq_stop_iff {a b : Command} : a.join b = .stop ↔ a = .stop ∨ b = .stop := by
  cases a <;> cases b <;> simp [join]

namespace Request

/-- One request for all of a list, merged from left to right. -/
def mergeAll : List Request → Option Request
  | [] => none
  | r :: rest => some (rest.foldl merge r)

variable {a b r whole : Request} {rs : List Request}

theorem mergeAll_eq_none_iff : mergeAll rs = none ↔ rs = [] := by
  cases rs <;> simp [mergeAll]

theorem mergeAll_append_singleton (rs : List Request) (r : Request) :
    mergeAll (rs ++ [r]) = some ((mergeAll rs).elim r (·.merge r)) := by
  cases rs with
  | nil => rfl
  | cons first rest => simp [mergeAll, List.foldl_append]

theorem isStop_merge : (a.merge b).isStop ↔ a.isStop ∨ b.isStop := by
  simp only [isStop_iff, merge_command, Command.join_eq_stop_iff]

private theorem reasons_infix_merge (h : a.isStop) :
    a.reasons <:+: (a.merge b).reasons ∧ a.reasons <:+: (b.merge a).reasons := by
  have hc : a.command = .stop := isStop_iff.mp h
  have hu (c : Command) : a.reasonsUnder c = a.reasons := by simp [reasonsUnder, hc]
  have hl : (a.merge b).reasons = a.reasons ++ b.reasonsUnder (a.merge b).command := by
    change a.reasonsUnder _ ++ _ = _
    rw [hu]
    rfl
  have hr : (b.merge a).reasons = b.reasonsUnder (b.merge a).command ++ a.reasons := by
    change _ ++ a.reasonsUnder _ = _
    rw [hu]
    rfl
  rw [hl, hr]
  exact ⟨(List.prefix_append ..).isInfix, (List.suffix_append ..).isInfix⟩

private theorem isStop_foldl (first : Request) (rest : List Request) :
    (rest.foldl merge first).isStop ↔ ∃ r ∈ first :: rest, r.isStop := by
  induction rest generalizing first with
  | nil => simp
  | cons next rest ih =>
    rw [List.foldl_cons, ih]
    simp only [List.mem_cons, exists_eq_or_imp, isStop_merge, or_assoc]

private theorem reasons_infix_foldl (first : Request) (rest : List Request)
    (hr : r ∈ first :: rest) (hs : r.isStop) :
    r.reasons <:+: (rest.foldl merge first).reasons := by
  induction rest generalizing first r with
  | nil =>
    obtain rfl := List.mem_singleton.mp hr
    exact List.infix_rfl
  | cons next rest ih =>
    rw [List.foldl_cons]
    have hfirst (hi : r.reasons <:+: (first.merge next).reasons)
        (hm : first.isStop ∨ next.isStop) :
        r.reasons <:+: (rest.foldl merge (first.merge next)).reasons :=
      hi.trans (ih _ List.mem_cons_self (isStop_merge.mpr hm))
    rcases List.mem_cons.mp hr with he | hr
    · subst he
      exact hfirst (reasons_infix_merge hs).1 (.inl hs)
    · rcases List.mem_cons.mp hr with he | hr
      · subst he
        exact hfirst (reasons_infix_merge hs).2 (.inr hs)
      · exact ih _ (List.mem_cons_of_mem _ hr) hs

theorem isStop_of_mergeAll (h : mergeAll rs = some whole) :
    whole.isStop ↔ ∃ r ∈ rs, r.isStop := by
  cases rs with
  | nil => cases h
  | cons first rest =>
    obtain rfl := Option.some.inj h
    exact isStop_foldl first rest

theorem reasons_infix_of_mergeAll (h : mergeAll rs = some whole) (hr : r ∈ rs) (hs : r.isStop) :
    r.reasons <:+: whole.reasons := by
  cases rs with
  | nil => cases h
  | cons first rest =>
    obtain rfl := Option.some.inj h
    exact reasons_infix_foldl first rest hr hs

end Request
end RestartCoordinator
