import VoiceProcessing.History

/-!
# The latest event of a history

Much of what an object shows was left there by the latest call of some kind, however long ago that
was. An *event* says of each call, in the state that the call meets, whether it is of the kind and
what it leaves. If one call changes what is observed exactly as the event says, then what is
observed after a history is what its latest event left, and nothing that came before it has any
influence.
-/

namespace VoiceProcessing.History

variable {Op State Reply A B : Type} (step : Op → State → Reply × State)

/-- What the latest event of a history left, if there was any. -/
def latest (event : Op → State → Option A) : List Op → State → Option A
  | [], _ => none
  | op :: ops, s => (latest event ops (step op s).2).or (event op s)

variable (event : Op → State → Option A)

@[simp] theorem latest_nil (s : State) : latest step event [] s = none := rfl

theorem latest_cons (op : Op) (ops : List Op) (s : State) :
    latest step event (op :: ops) s = (latest step event ops (step op s).2).or (event op s) := rfl

/-- Nothing was left exactly if no call of the history was an event. -/
theorem latest_eq_none_iff (ops : List Op) (s : State) :
    latest step event ops s = none ↔
      ∀ before op later, ops = before ++ op :: later → event op (after step before s) = none := by
  induction ops generalizing s with
  | nil => simp
  | cons first ops ih =>
    rw [latest_cons, Option.or_eq_none_iff, ih]
    constructor
    · rintro ⟨hlater, hfirst⟩ before op later hsplit
      cases before with
      | nil =>
        obtain ⟨rfl, -⟩ := List.cons.inj hsplit
        exact hfirst
      | cons first' before =>
        obtain ⟨rfl, hrest⟩ := List.cons.inj hsplit
        exact hlater before op later hrest
    · intro hnone
      refine ⟨?_, hnone [] first ops rfl⟩
      intro before op later hsplit
      exact hnone (first :: before) op later (by rw [hsplit, List.cons_append])

/-- Something was left exactly if some call was an event that left it and none has been since. -/
theorem latest_eq_some_iff (ops : List Op) (s : State) (a : A) :
    latest step event ops s = some a ↔
      ∃ before op later, ops = before ++ op :: later ∧ event op (after step before s) = some a ∧
        latest step event later (after step (before ++ [op]) s) = none := by
  induction ops generalizing s with
  | nil => simp
  | cons first ops ih =>
    rw [latest_cons, Option.or_eq_some_iff, ih]
    constructor
    · rintro (⟨before, op, later, hsplit, hevent, hsince⟩ | ⟨hsince, hfirst⟩)
      · exact ⟨first :: before, op, later, by rw [hsplit, List.cons_append], hevent, hsince⟩
      · exact ⟨[], first, ops, rfl, hfirst, hsince⟩
    · rintro ⟨before, op, later, hsplit, hevent, hsince⟩
      cases before with
      | nil =>
        obtain ⟨rfl, rfl⟩ := List.cons.inj hsplit
        exact .inr ⟨hsince, hevent⟩
      | cons first' before =>
        obtain ⟨rfl, hrest⟩ := List.cons.inj hsplit
        exact .inl ⟨before, op, later, hrest, hevent, hsince⟩

/-- What is made of all that events leave is made of what the latest one left. -/
theorem latest_map (f : A → B) (ops : List Op) (s : State) :
    latest step (fun op s => (event op s).map f) ops s = (latest step event ops s).map f := by
  induction ops generalizing s with
  | nil => rfl
  | cons op ops ih => rw [latest_cons, latest_cons, ih, Option.map_or]

variable {step}

/-- What each call of a history changes only as its event says is after the history what the latest
event left, or else what it was before. -/
theorem observe_after (observe : State → A) {P : State → Prop} {ops : List Op}
    (keeps : ∀ op ∈ ops, ∀ s, P s → P (step op s).2)
    (writes : ∀ op ∈ ops, ∀ s, P s → observe (step op s).2 = (event op s).getD (observe s))
    {s : State} (h : P s) :
    observe (after step ops s) = (latest step event ops s).getD (observe s) := by
  induction ops generalizing s with
  | nil => rfl
  | cons op ops ih =>
    have hlater := ih (fun op' hop' => keeps op' (List.mem_cons_of_mem op hop'))
      (fun op' hop' => writes op' (List.mem_cons_of_mem op hop')) (keeps op List.mem_cons_self s h)
    rw [after_cons, hlater, writes op List.mem_cons_self s h, latest_cons, Option.getD_or]

/-- So it is with something that need not be there at all, once it has been. -/
theorem observe_after_of_some (observe : State → Option A) {P : State → Prop} {ops : List Op}
    (keeps : ∀ op ∈ ops, ∀ s, P s → P (step op s).2)
    (writes : ∀ op ∈ ops, ∀ s, P s → ∀ a, observe s = some a →
      observe (step op s).2 = some ((event op s).getD a))
    {s : State} (h : P s) {a : A} (hthere : observe s = some a) :
    observe (after step ops s) = some ((latest step event ops s).getD a) := by
  induction ops generalizing s a with
  | nil => exact hthere
  | cons op ops ih =>
    have hlater := ih (fun op' hop' => keeps op' (List.mem_cons_of_mem op hop'))
      (fun op' hop' => writes op' (List.mem_cons_of_mem op hop')) (keeps op List.mem_cons_self s h)
      (writes op List.mem_cons_self s h a hthere)
    rw [after_cons, hlater, latest_cons, Option.getD_or]

end VoiceProcessing.History
