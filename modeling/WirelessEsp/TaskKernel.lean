import Mathlib.Logic.Function.Basic
import WirelessEsp.Transition

namespace WirelessEsp.TaskKernel

open Function (update)

abbrev TaskId := Nat

inductive Flow (ρ : Type)
  | goto (point : ρ)
  | ret (value : Nat)

/-- What a task can do in one step; handles are read from the shared memory. -/
inductive Op (μ ε : Type)
  | read (f : μ → Nat)
  | write (f : TaskId → μ → μ)
  | ask
  | take
  | give
  | notifyTake
  | notifyGive (handle : μ → Option TaskId)
  | create (entry : ε) (store : TaskId → μ → μ)
  | delete (handle : μ → Option TaskId)

structure Instr (μ ε ρ : Type) where
  op : Op μ ε
  next : Nat → Flow ρ

/-- The code of all tasks: `back` tells where a task waits when its function has returned. -/
structure Program (μ ε π : Type) where
  entry : ε → π
  instr : π → Option (Instr μ ε π)
  back : π → Option π
  accepts : π → π → Bool

/-- One binary semaphore, the memory and the tasks that have not been deleted. -/
structure State (μ π : Type) where
  memory : μ
  free : Bool
  tasks : TaskId → Option π
  notified : TaskId → Nat
  fresh : TaskId

inductive Action (π : Type)
  | run (t : TaskId) (answer : Nat)
  | call (t : TaskId) (point : π)

variable {μ ε ρ π β : Type}

def Flow.within (f : Flow ρ) (point : ρ → π) (k : Nat → Flow π) : Flow π :=
  match f with
  | .goto p => .goto (point p)
  | .ret value => k value

def Instr.within (i : Instr μ ε ρ) (point : ρ → π) (k : Nat → Flow π) : Instr μ ε π :=
  ⟨i.op, fun v => (i.next v).within point k⟩

def Flow.point (f : Flow π) (back : Option π) : Option π :=
  match f with
  | .goto p => some p
  | .ret _ => back

/-- Whether control goes to one of the points `there` or returns one of the values `ret`. -/
def leads (there : ρ → Bool) (ret : Nat → Bool) : Flow ρ → Bool
  | .goto p => there p
  | .ret value => ret value

/-- The handle that a deletion names; `NULL` is the calling task. -/
def State.named (s : State μ π) (handle : μ → Option TaskId) (t : TaskId) : TaskId :=
  (handle s.memory).getD t

def State.notify (s : State μ π) : Option TaskId → State μ π
  | none => s
  | some u => { s with notified := update s.notified u (s.notified u + 1) }

def State.At (s : State μ π) (t : TaskId) (Q : π → Prop) : Prop := ∀ p, s.tasks t = some p → Q p

instance (s : State μ π) (t : TaskId) (Q : π → Prop) [DecidablePred Q] : Decidable (s.At t Q) :=
  match h : s.tasks t with
  | none => isTrue fun _ hp => nomatch h.symm.trans hp
  | some p => decidable_of_iff (Q p)
      ⟨fun hQ _ hq => Option.some.inj (h.symm.trans hq) ▸ hQ, fun hall => hall p h⟩

variable (P : Program μ ε π)

/-- One operation of task `t`, with the value it yields. A take that finds the semaphore taken
is one that times out, and so is a wait for a notification that finds none. -/
def exec (s : State μ π) (t : TaskId) (answer : Nat) : Op μ ε → State μ π × Nat
  | .read f => (s, f s.memory)
  | .write f => ({ s with memory := f t s.memory }, 0)
  | .ask => (s, answer)
  | .take => ({ s with free := false }, if s.free then 1 else 0)
  | .give => ({ s with free := true }, 0)
  | .notifyTake => ({ s with notified := update s.notified t 0 }, s.notified t)
  | .notifyGive handle => (s.notify (handle s.memory), 0)
  | .create e store =>
      ({ s with
          memory := store s.fresh s.memory
          tasks := update s.tasks s.fresh (some (P.entry e))
          notified := update s.notified s.fresh 0
          fresh := s.fresh + 1 }, 0)
  | .delete handle => ({ s with tasks := update s.tasks (s.named handle t) none }, 0)

def resume (s : State μ π) (t : TaskId) (next : Option π) : State μ π :=
  if (s.tasks t).isSome then { s with tasks := update s.tasks t next } else s

def after (s : State μ π) (t : TaskId) (answer : Nat) (p : π) (i : Instr μ ε π) : State μ π :=
  let r := exec P s t answer i.op
  resume r.1 t ((i.next r.2).point (P.back p))

def step (s : State μ π) : Action π → Option (State μ π)
  | .run t answer => match s.tasks t with
      | none => none
      | some p => match P.instr p with
          | none => none
          | some i => some (after P s t answer p i)
  | .call t point => match s.tasks t with
      | none => none
      | some p => if P.accepts p point
          then some { s with tasks := update s.tasks t (some point) }
          else none

/-- A task executes an instruction: what a proof about a step starts from. -/
structure Runs (s : State μ π) (t : TaskId) (answer : Nat) (p : π) (i : Instr μ ε π)
    (s' : State μ π) : Prop where
  point : s.tasks t = some p
  instr : P.instr p = some i
  result : s' = after P s t answer p i

structure Calls (s : State μ π) (t : TaskId) (p point : π) (s' : State μ π) : Prop where
  waits : s.tasks t = some p
  accepts : P.accepts p point = true
  result : s' = { s with tasks := update s.tasks t (some point) }

variable {P} {s s' : State μ π} {t u : TaskId} {answer : Nat} {p q point : π} {i : Instr μ ε π}

section Leads

variable {there : π → Bool} {ret : Nat → Bool}

theorem leads_within (there : π → Bool) (ret : Nat → Bool) (f : Flow ρ) (point : ρ → π)
    (k : Nat → Flow π) : leads there ret (f.within point k) =
      leads (fun q => there (point q)) (fun v => leads there ret (k v)) f := by
  cases f <;> rfl

theorem leads_false (hthere : ∀ q, there q = false) (hret : ∀ v, ret v = false) (f : Flow π) :
    leads there ret f = false := by
  cases f with
  | goto q => exact hthere q
  | ret v => exact hret v

theorem leads_const (f : Flow ρ) : leads (fun _ => false) (fun _ => false) f = false :=
  leads_false (fun _ => rfl) (fun _ => rfl) f

theorem leads_if {c : Prop} [Decidable c] {f g : Flow π} (hf : leads there ret f = false)
    (hg : leads there ret g = false) : leads there ret (if c then f else g) = false := by
  split
  · exact hf
  · exact hg

theorem leads_point (there : π → Bool) (f : Flow π) (back : Option π) :
    leads there (fun _ => back.any there) f = (f.point back).any there := by
  cases f <;> rfl

theorem point_within {j : Instr μ ε ρ} {point : ρ → π} {v : Nat} {back : Option π}
    (h : ((j.within point .ret).next v).point back = some q) :
    (∃ g, j.next v = .goto g ∧ q = point g) ∨ back = some q := by
  rw [Instr.within] at h
  cases hv : j.next v with
  | goto g =>
      simp only [hv] at h
      exact .inl ⟨g, rfl, (Option.some.inj h).symm⟩
  | ret value =>
      simp only [hv] at h
      exact .inr h

theorem not_there {f : Flow π} {back : Option π}
    (h : leads there (fun _ => back.any there) f = false) (hq : f.point back = some q) :
    there q = false := by
  rw [leads_point, hq] at h
  exact h

end Leads

theorem step_run (h : step P s (.run t answer) = some s') : ∃ p i, Runs P s t answer p i s' := by
  rw [step] at h
  split at h
  next => cases h
  next p hp =>
    split at h
    next => cases h
    next i hi => exact ⟨p, i, hp, hi, (Option.some.inj h).symm⟩

theorem step_call (h : step P s (.call t q) = some s') : ∃ p, Calls P s t p q s' := by
  rw [step] at h
  split at h
  next => cases h
  next p hp =>
    split at h
    next ha => exact ⟨p, hp, ha, (Option.some.inj h).symm⟩
    next => cases h

@[simp]
theorem notify_memory (h : Option TaskId) : (s.notify h).memory = s.memory := by
  cases h <;> rfl

@[simp]
theorem notify_free (h : Option TaskId) : (s.notify h).free = s.free := by
  cases h <;> rfl

@[simp]
theorem notify_tasks (h : Option TaskId) : (s.notify h).tasks = s.tasks := by
  cases h <;> rfl

@[simp]
theorem notify_fresh (h : Option TaskId) : (s.notify h).fresh = s.fresh := by
  cases h <;> rfl

@[simp]
theorem resume_memory (next : Option π) : (resume s t next).memory = s.memory := by
  unfold resume
  split <;> rfl

@[simp]
theorem resume_free (next : Option π) : (resume s t next).free = s.free := by
  unfold resume
  split <;> rfl

@[simp]
theorem resume_notified (next : Option π) : (resume s t next).notified = s.notified := by
  unfold resume
  split <;> rfl

@[simp]
theorem resume_fresh (next : Option π) : (resume s t next).fresh = s.fresh := by
  unfold resume
  split <;> rfl

theorem resume_other (next : Option π) (h : u ≠ t) : (resume s t next).tasks u = s.tasks u := by
  unfold resume
  split
  · exact Function.update_of_ne h _ _
  · rfl

theorem resume_self {next : Option π} (h : (resume s t next).tasks t = some q) :
    next = some q ∧ (s.tasks t).isSome := by
  unfold resume at h
  split at h
  next hsome =>
    simp only [Function.update_self] at h
    exact ⟨h, hsome⟩
  next hnone => exact absurd (Option.isSome_of_eq_some h) hnone

def Op.Keeps (view : μ → β) : Op μ ε → Prop
  | .write f => ∀ t m, view (f t m) = view m
  | .create _ store => ∀ t m, view (store t m) = view m
  | _ => True

def Op.entry : Op μ ε → Option ε
  | .create e _ => some e
  | _ => none

def Op.deletes : Op μ ε → Bool
  | .delete _ => true
  | _ => false

theorem exec_view {view : μ → β} {op : Op μ ε} (h : op.Keeps view) (s : State μ π) (t : TaskId)
    (answer : Nat) : view (exec P s t answer op).1.memory = view s.memory := by
  cases op with
  | write f => exact h t s.memory
  | create e store => exact h s.fresh s.memory
  | notifyGive handle => exact congrArg view (notify_memory (handle s.memory))
  | read f | ask | take | give | notifyTake | delete handle => rfl

def Fresh (s : State μ π) : Prop := ∀ t, s.fresh ≤ t → s.tasks t = none

theorem Fresh.lt (h : Fresh s) (ht : s.tasks t = some p) : t < s.fresh := by
  by_contra hge
  rw [h t (Nat.le_of_not_lt hge)] at ht
  cases ht

theorem exec_tasks (op : Op μ ε) (h : (exec P s t answer op).1.tasks u = some q) :
    (s.tasks u = some q ∧ ∀ handle, op = .delete handle → u ≠ s.named handle t) ∨
    ∃ e store, op = .create e store ∧ u = s.fresh ∧ q = P.entry e := by
  cases op with
  | create e store =>
      by_cases hu : u = s.fresh
      · subst hu
        simp only [exec, Function.update_self] at h
        exact .inr ⟨e, store, rfl, rfl, (Option.some.inj h).symm⟩
      · simp only [exec, Function.update_of_ne hu] at h
        exact .inl ⟨h, fun _ hd => (by cases hd)⟩
  | delete handle =>
      by_cases hu : u = s.named handle t
      · simp only [exec, hu, Function.update_self] at h
        cases h
      · simp only [exec, Function.update_of_ne hu] at h
        refine .inl ⟨h, ?_⟩
        intro handle' hd
        cases hd
        exact hu
  | notifyGive handle =>
      simp only [exec, notify_tasks] at h
      exact .inl ⟨h, fun _ hd => (by cases hd)⟩
  | read f | write f | ask | take | give | notifyTake =>
      exact .inl ⟨h, fun _ hd => (by cases hd)⟩

theorem exec_kept (op : Op μ ε) (h : s.tasks u = some q) (hf : u ≠ s.fresh)
    (hd : ∀ handle, op = .delete handle → u ≠ s.named handle t) :
    (exec P s t answer op).1.tasks u = some q := by
  cases op with
  | create e store => exact (Function.update_of_ne hf _ _).trans h
  | delete handle => exact (Function.update_of_ne (hd handle rfl) _ _).trans h
  | notifyGive handle => exact (congrFun (notify_tasks _) u).trans h
  | read f | write f | ask | take | give | notifyTake => exact h

theorem exec_fresh (op : Op μ ε) : s.fresh ≤ (exec P s t answer op).1.fresh := by
  cases op with
  | create e store => exact Nat.le_succ _
  | notifyGive handle => exact Nat.le_of_eq (notify_fresh (handle s.memory)).symm
  | read f | write f | ask | take | give | notifyTake | delete handle => exact Nat.le_refl _

theorem exec_notified (op : Op μ ε) (hu : u ≠ t) (hf : u ≠ s.fresh) :
    s.notified u ≤ (exec P s t answer op).1.notified u := by
  cases op with
  | notifyTake => exact Nat.le_of_eq (Function.update_of_ne hu _ _).symm
  | create e store => exact Nat.le_of_eq (Function.update_of_ne hf _ _).symm
  | notifyGive handle =>
      simp only [exec]
      cases handle s.memory with
      | none => exact Nat.le_refl _
      | some w =>
          by_cases hw : u = w
          · subst hw
            simp only [State.notify, Function.update_self]
            exact Nat.le_succ _
          · simp only [State.notify, Function.update_of_ne hw]
            exact Nat.le_refl _
  | read f | write f | ask | take | give | delete handle => exact Nat.le_refl _

theorem Runs.fresh_le (h : Runs P s t answer p i s') : s.fresh ≤ s'.fresh := by
  rw [h.result, after, resume_fresh]
  exact exec_fresh i.op

theorem Runs.self (h : Runs P s t answer p i s') (hq : s'.tasks t = some q) :
    (i.next (exec P s t answer i.op).2).point (P.back p) = some q ∧
    ((exec P s t answer i.op).1.tasks t).isSome := by
  rw [h.result, after] at hq
  exact resume_self hq

theorem Runs.next (h : Runs P s t answer p i s')
    (halive : ((exec P s t answer i.op).1.tasks t).isSome) :
    s'.tasks t = (i.next (exec P s t answer i.op).2).point (P.back p) := by
  rw [h.result, after, resume, if_pos halive]
  exact Function.update_self ..

theorem Runs.kept (h : Runs P s t answer p i s') (hs : Fresh s) (hu : u ≠ t)
    (hq : s.tasks u = some q) (hd : ∀ handle, i.op = .delete handle → u ≠ s.named handle t) :
    s'.tasks u = some q := by
  have hf : u ≠ s.fresh := Nat.ne_of_lt (hs.lt hq)
  rw [h.result, after, resume_other _ hu]
  exact exec_kept i.op hq hf hd

theorem Runs.notified (h : Runs P s t answer p i s') (hs : Fresh s) (hu : u ≠ t)
    (hq : s.tasks u = some q) : s.notified u ≤ s'.notified u := by
  rw [h.result, after, resume_notified]
  exact exec_notified i.op hu (Nat.ne_of_lt (hs.lt hq))

theorem Runs.other (h : Runs P s t answer p i s') (hu : u ≠ t) (hq : s'.tasks u = some q) :
    (s.tasks u = some q ∧ ∀ handle, i.op = .delete handle → u ≠ s.named handle t) ∨
    ∃ e store, i.op = .create e store ∧ u = s.fresh ∧ q = P.entry e := by
  rw [h.result, after, resume_other _ hu] at hq
  exact exec_tasks _ hq

theorem Calls.self (h : Calls P s t p point s') (hq : s'.tasks t = some q) : q = point := by
  rw [h.result] at hq
  simp only [Function.update_self, Option.some.injEq] at hq
  exact hq.symm

theorem Calls.other (h : Calls P s t p point s') (hu : u ≠ t) : s'.tasks u = s.tasks u := by
  rw [h.result]
  exact Function.update_of_ne hu _ _

theorem Fresh.ne (h : Fresh s) (ht : s.tasks t = some p) (hu : s.fresh ≤ u) : u ≠ t := by
  intro heq
  rw [← heq, h u hu] at ht
  cases ht

theorem step_fresh {a : Action π} (hs : Fresh s) (h : step P s a = some s') : Fresh s' := by
  cases a with
  | run t answer =>
      obtain ⟨p, i, hrun⟩ := step_run h
      have hfresh : s'.fresh = (exec P s t answer i.op).1.fresh := by
        rw [hrun.result, after, resume_fresh]
      intro u hu
      rw [hfresh] at hu
      have hge : s.fresh ≤ u := Nat.le_trans (exec_fresh i.op) hu
      cases hq : s'.tasks u with
      | none => rfl
      | some q =>
          rcases hrun.other (hs.ne hrun.point hge) hq with ⟨hold, -⟩ | ⟨e, store, hop, hnew, -⟩
          · rw [hs u hge] at hold
            cases hold
          · rw [hop, hnew] at hu
            exact absurd hu (Nat.not_succ_le_self s.fresh)
  | call t point =>
      obtain ⟨p, hcall⟩ := step_call h
      intro u hu
      have hge : s.fresh ≤ u := by
        rw [hcall.result] at hu
        exact hu
      exact (hcall.other (hs.ne hcall.waits hge)).trans (hs u hge)

theorem points_step {Q : TaskId → π → Prop} {a : Action π} (h : step P s a = some s')
    (hold : ∀ u q, s.tasks u = some q → Q u q)
    (hnext : ∀ t answer p i q, a = .run t answer → Runs P s t answer p i s' →
      (i.next (exec P s t answer i.op).2).point (P.back p) = some q → Q t q)
    (hentry : ∀ e, Q s.fresh (P.entry e))
    (hcall : ∀ t p q, a = .call t q → P.accepts p q = true → Q t q) :
    ∀ u q, s'.tasks u = some q → Q u q := by
  intro u q hq
  cases a with
  | run t answer =>
      obtain ⟨p, i, hrun⟩ := step_run h
      by_cases hu : u = t
      · subst hu
        exact hnext u answer p i q rfl hrun (hrun.self hq).1
      · rcases hrun.other hu hq with ⟨hsame, -⟩ | ⟨e, store, -, rfl, rfl⟩
        · exact hold u q hsame
        · exact hentry e
  | call t point =>
      obtain ⟨p, hc⟩ := step_call h
      by_cases hu : u = t
      · subst hu
        rw [hc.self hq]
        exact hcall u p point rfl hc.accepts
      · rw [hc.other hu] at hq
        exact hold u q hq

end WirelessEsp.TaskKernel
