/-!
# Histories

An object that answers operations is a step function: an operation and a state give a reply and the
next state. A history is a list of operations, performed from left to right.
-/

namespace VoiceProcessing.History

variable {Op State Reply : Type}

/-- Perform a list of operations, collecting the replies. -/
def run (step : Op → State → Reply × State) : List Op → State → List Reply × State
  | [], s => ([], s)
  | op :: ops, s =>
    let (reply, s) := step op s
    let (replies, s) := run step ops s
    (reply :: replies, s)

/-- The state after a history. -/
def after (step : Op → State → Reply × State) (ops : List Op) (s : State) : State :=
  (run step ops s).2

variable (step : Op → State → Reply × State)

theorem run_append (ops more : List Op) (s : State) :
    run step (ops ++ more) s =
      ((run step ops s).1 ++ (run step more (after step ops s)).1,
        (run step more (after step ops s)).2) := by
  induction ops generalizing s with
  | nil => rfl
  | cons op ops ih => simp [run, after, ih]

@[simp] theorem after_nil (s : State) : after step [] s = s := rfl

@[simp] theorem after_cons (op : Op) (ops : List Op) (s : State) :
    after step (op :: ops) s = after step ops (step op s).2 := rfl

theorem after_append (ops more : List Op) (s : State) :
    after step (ops ++ more) s = after step more (after step ops s) := by
  simp [after, run_append]

/-- What comes after two histories that cannot be told apart does not tell them apart either. -/
theorem run_append_congr {before before' : List Op} {s s' : State}
    (hsame : run step before s = run step before' s') (ops : List Op) :
    run step (before ++ ops) s = run step (before' ++ ops) s' := by
  rw [run_append, run_append, after, after, hsame]

/-- An object that every operation leaves as it is gives to each the same answer forever. -/
theorem run_of_unchanged {reply : Op → Reply} {s : State} (h : ∀ op, step op s = (reply op, s))
    (ops : List Op) : run step ops s = (ops.map reply, s) := by
  induction ops with
  | nil => rfl
  | cons op ops ih => simp only [run, h, ih, List.map_cons]

/-- What every operation of a history keeps, the history keeps. -/
theorem after_invariant_of_mem {P : State → Prop} {ops : List Op}
    (keeps : ∀ op ∈ ops, ∀ s, P s → P (step op s).2) {s : State} (h : P s) :
    P (after step ops s) := by
  induction ops generalizing s with
  | nil => exact h
  | cons op ops ih =>
    exact ih (fun op' hop' => keeps op' (List.mem_cons_of_mem op hop'))
      (keeps op List.mem_cons_self s h)

/-- What every operation keeps, every history keeps. -/
theorem after_invariant {P : State → Prop} (keeps : ∀ op s, P s → P (step op s).2)
    (ops : List Op) {s : State} (h : P s) : P (after step ops s) :=
  after_invariant_of_mem step (fun op _ => keeps op) h

/-- What holds of every answer given in states that every operation keeps within, holds of all the
answers to a history. -/
theorem forall_mem_run {P : State → Prop} {Q : Reply → Prop}
    (answers : ∀ op s, P s → Q (step op s).1) (keeps : ∀ op s, P s → P (step op s).2)
    (ops : List Op) {s : State} (h : P s) : ∀ reply ∈ (run step ops s).1, Q reply := by
  induction ops generalizing s with
  | nil => exact List.forall_mem_nil Q
  | cons op ops ih => exact List.forall_mem_cons.mpr ⟨answers op s h, ih (keeps op s h)⟩

/-- The states that histories lead to from an initial state. -/
def Reachable (initial : State → Prop) (s : State) : Prop :=
  ∃ s₀ ops, initial s₀ ∧ after step ops s₀ = s

/-- An initial state is reached by doing nothing. -/
theorem Reachable.of_initial {initial : State → Prop} {s : State} (h : initial s) :
    Reachable step initial s :=
  ⟨s, [], h, rfl⟩

/-- Whatever is reachable stays so under further operations. -/
theorem Reachable.later {initial : State → Prop} {s : State} (h : Reachable step initial s)
    (ops : List Op) : Reachable step initial (after step ops s) := by
  obtain ⟨s₀, before, hinitial, rfl⟩ := h
  exact ⟨s₀, before ++ ops, hinitial, after_append step before ops s₀⟩

variable {step}

/-- What holds initially and is kept by every operation holds of every reachable state. -/
theorem Reachable.invariant {initial P : State → Prop} (begins : ∀ s, initial s → P s)
    (keeps : ∀ op s, P s → P (step op s).2) {s : State} (h : Reachable step initial s) : P s := by
  obtain ⟨s₀, ops, hinitial, rfl⟩ := h
  exact after_invariant step keeps ops (begins s₀ hinitial)

/-- If each operation of one object is matched by a list of operations of another, then so is each
history. -/
theorem after_related {Op' State' Reply' : Type} {step' : Op' → State' → Reply' × State'}
    {translate : Op → List Op'} {R : State → State' → Prop}
    (matched : ∀ op s t, R s t → R (step op s).2 (after step' (translate op) t))
    (ops : List Op) {s : State} {t : State'} (h : R s t) :
    R (after step ops s) (after step' (ops.flatMap translate) t) := by
  induction ops generalizing s t with
  | nil => exact h
  | cons op ops ih =>
    rw [List.flatMap_cons, after_append, after_cons]
    exact ih (matched op s t h)

/-- Two objects whose replies to every operation look the same, from any states that are related,
and that are in related states after it, give replies that look the same to every history. -/
theorem run_looksAlike {State' Reply' A : Type} {step' : Op → State' → Reply' × State'}
    {R : State → State' → Prop} {look : Reply → A} {look' : Reply' → A}
    (agrees : ∀ op s t, R s t →
      look (step op s).1 = look' (step' op t).1 ∧ R (step op s).2 (step' op t).2)
    (ops : List Op) {s : State} {t : State'} (h : R s t) :
    (run step ops s).1.map look = (run step' ops t).1.map look' ∧
      R (run step ops s).2 (run step' ops t).2 := by
  induction ops generalizing s t with
  | nil => exact ⟨rfl, h⟩
  | cons op ops ih =>
    obtain ⟨hreply, hnext⟩ := agrees op s t h
    obtain ⟨hreplies, hlast⟩ := ih hnext
    refine ⟨?_, hlast⟩
    simp only [run, List.map_cons, hreply, hreplies]

/-- Two objects that give the same reply to every operation, from any states that are related, and
are in related states after it, give the same replies to every history. -/
theorem run_agrees {State' : Type} {step' : Op → State' → Reply × State'}
    {R : State → State' → Prop}
    (agrees : ∀ op s t, R s t → (step op s).1 = (step' op t).1 ∧ R (step op s).2 (step' op t).2)
    (ops : List Op) {s : State} {t : State'} (h : R s t) :
    (run step ops s).1 = (run step' ops t).1 ∧ R (run step ops s).2 (run step' ops t).2 := by
  have hlooks (op : Op) (s : State) (t : State') (h : R s t) :
      id (step op s).1 = id (step' op t).1 ∧ R (step op s).2 (step' op t).2 := agrees op s t h
  have hruns := run_looksAlike hlooks ops h
  rwa [List.map_id, List.map_id] at hruns

end VoiceProcessing.History
