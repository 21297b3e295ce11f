import Mathlib.Data.List.Forall2
import RestartCoordinator.Observers
/-!
# What observers have heard

An observer that does not break down has handled the first of the reports that it was told, in their
order, and the others wait in its queue. Being told of one more report and handling one keep this,
whichever observer works and when. So once nothing waits, it has handled what it was told.
-/
namespace RestartCoordinator

/-- Observers of this kind come to the end of every report that they begin. -/
def Observer.Kind.returns : Observer.Kind → Bool
  | .broken => false
  | _ => true

namespace Observer

variable {o o' : Observer} {kind : Kind} {told : List Report}

/-- The observer is of a kind, and if that returns, what it has handled and what waits are together
what it was told. -/
structure Attends (told : List Report) (o : Observer) (kind : Kind) : Prop where
  kind_eq : o.kind = kind
  alive : kind.returns → o.alive
  told_eq : kind.returns → o.handled ++ o.waiting = told

private theorem attends_new (kind : Kind) : Attends [] (new kind) kind :=
  ⟨rfl, fun _ => rfl, fun _ => rfl⟩

private theorem Attends.tell (h : o.Attends told kind) (r : Report) :
    (o.tell r).Attends (told ++ [r]) kind := by
  unfold Observer.tell
  by_cases ha : o.alive = true
  · rw [if_pos ha]
    refine ⟨h.kind_eq, fun _ => ha, fun hk => ?_⟩
    rw [← h.told_eq hk, List.append_assoc]
  · rw [if_neg ha]
    exact ⟨h.kind_eq, h.alive, fun hk => absurd (h.alive hk) ha⟩

private theorem work?_cases (hw : o.work? = some o') :
    ∃ r rest, o.waiting = r :: rest ∧
      (o.kind.returns ∧ o' = { o with waiting := rest, handled := o.handled ++ [r] } ∨
        o.kind.returns = false ∧ o' = { o with waiting := [], alive := false }) := by
  unfold Observer.work? at hw
  cases hq : o.waiting with
  | nil => simp [hq] at hw
  | cons r rest =>
    refine ⟨r, rest, rfl, ?_⟩
    rw [hq] at hw
    cases hk : o.kind <;> simp only [hk] at hw <;> obtain rfl := Option.some.inj hw
    case broken => exact .inr ⟨rfl, rfl⟩
    all_goals exact .inl ⟨rfl, rfl⟩

private theorem Attends.work? (h : o.Attends told kind) (hw : o.work? = some o') :
    o'.Attends told kind := by
  obtain ⟨r, rest, hq, ⟨-, rfl⟩ | ⟨hk, rfl⟩⟩ := work?_cases hw
  · refine ⟨h.kind_eq, h.alive, fun hr => ?_⟩
    rw [← h.told_eq hr, hq, List.append_assoc]
    rfl
  · rw [h.kind_eq] at hk
    constructor
    · exact h.kind_eq
    · simp [hk]
    · simp [hk]

/-- The observer has handled everything that it was told, unless it breaks down. -/
def Heard (told : List Report) (o : Observer) (kind : Kind) : Prop :=
  o.kind = kind ∧ (kind.returns → o.handled = told ∧ o.waiting = [])

private theorem Attends.heard (h : o.Attends told kind) (hw : o.kind.returns → o.waiting = []) :
    o.Heard told kind := by
  refine ⟨h.kind_eq, fun hr => ?_⟩
  have hnil : o.waiting = [] := hw (h.kind_eq ▸ hr)
  have htold := h.told_eq hr
  rw [hnil, List.append_nil] at htold
  exact ⟨htold, hnil⟩

end Observer

namespace Observers

variable {os os' : Observers} {kinds : List Observer.Kind} {told : List Report}

/-- The observers are those of the kinds that were added, in their order, and attend to what they
were told. -/
def Attend (told : List Report) (os : Observers) (kinds : List Observer.Kind) : Prop :=
  List.Forall₂ (Observer.Attends told) os kinds

/-- Nothing waits for an observer that does not break down. -/
def Rest (os : Observers) : Prop := ∀ o ∈ os, o.kind.returns → o.waiting = []

theorem rest_of_isDrained (h : os.isDrained) : os.Rest := by
  intro o ho _
  have hempty := List.all_eq_true.mp h o ho
  exact List.isEmpty_iff.mp hempty

theorem Attend.add (h : os.Attend [] kinds) (kind : Observer.Kind) :
    Attend [] (os ++ [.new kind]) (kinds ++ [kind]) :=
  List.rel_append h (.cons (Observer.attends_new kind) .nil)

private theorem Attend.tell (h : os.Attend told kinds) (r : Report) :
    (os.tell r).Attend (told ++ [r]) kinds := by
  induction h with
  | nil => exact .nil
  | cons ho _ ih => exact .cons (ho.tell r) ih

theorem Attend.tellAll (h : os.Attend told kinds) (rs : List Report) :
    (os.tellAll rs).Attend (told ++ rs) kinds := by
  induction rs generalizing os told with
  | nil =>
    rw [List.append_nil]
    exact h
  | cons r rest ih =>
    have hrest := ih (h.tell r)
    rw [List.append_assoc] at hrest
    exact hrest

private theorem work?_eq_some {index : Nat} (hw : os.work? index = some os') :
    ∃ o o', os[index]? = some o ∧ o.work? = some o' ∧ os' = os.set index o' := by
  obtain ⟨o, ho, hw⟩ := Option.bind_eq_some_iff.mp hw
  obtain ⟨o', ho', hw⟩ := Option.bind_eq_some_iff.mp hw
  exact ⟨o, o', ho, ho', (Option.some.inj hw).symm⟩

theorem Attend.rest_of_nil (h : os.Attend told kinds) (hn : told = []) : os.Rest := by
  subst hn
  induction h with
  | nil => exact fun o ho => absurd ho List.not_mem_nil
  | cons hhead _ ih =>
    intro o ho hreturns
    rcases List.mem_cons.mp ho with rfl | ho
    · exact (List.append_eq_nil_iff.mp (hhead.told_eq (hhead.kind_eq ▸ hreturns))).2
    · exact ih o ho hreturns

theorem Attend.work? {index : Nat} (h : os.Attend told kinds) (hw : os.work? index = some os') :
    os'.Attend told kinds := by
  obtain ⟨o, o', ho, ho', rfl⟩ := work?_eq_some hw
  clear hw
  induction h generalizing index with
  | nil => exact .nil
  | cons hhead htail ih =>
    cases index with
    | zero =>
      obtain rfl := Option.some.inj ho
      exact .cons (hhead.work? ho') htail
    | succ index => exact .cons hhead (ih ho)

theorem Rest.work? {index : Nat} (hr : os.Rest) (hw : os.work? index = some os') : os'.Rest := by
  obtain ⟨o, o', ho, ho', rfl⟩ := work?_eq_some hw
  have hmem : o ∈ os := List.mem_of_getElem? ho
  intro x hx hreturns
  rcases List.mem_or_eq_of_mem_set hx with hx | rfl
  · exact hr x hx hreturns
  · obtain ⟨r, rest, hq, ⟨hk, -⟩ | ⟨-, rfl⟩⟩ := Observer.work?_cases ho'
    · rw [hr o hmem hk] at hq
      cases hq
    · rfl

theorem Attend.heard (h : os.Attend told kinds) (hr : os.Rest) :
    List.Forall₂ (Observer.Heard told) os kinds := by
  induction h with
  | nil => exact .nil
  | cons ho _ ih =>
    exact .cons (ho.heard (hr _ List.mem_cons_self))
      (ih fun x hx => hr x (List.mem_cons_of_mem _ hx))

end Observers
end RestartCoordinator
