import WirelessEsp.TaskKernel

namespace WirelessEsp.LockOwner

open TaskKernel Transition

variable {μ ε π : Type} (P : Program μ ε π) (inside : π → Bool)

/-- The owner after an operation of task `t`. A task created inside its section takes over from
its creator, and a task that deletes the owner takes over from the owner. -/
def ownerOn (o : Option TaskId) (s : State μ π) (t : TaskId) : Op μ ε → Option TaskId
  | .take => if s.free then some t else o
  | .give => none
  | .create e _ => if inside (P.entry e) ∧ o = some t then some s.fresh else o
  | .delete handle => if o = some (s.named handle t) then some t else o
  | _ => o

def ownerAfter (o : Option TaskId) (s : State μ π) : Action π → Option TaskId
  | .run t _ => match (s.tasks t).bind P.instr with
      | none => o
      | some i => ownerOn P inside o s t i.op
  | .call _ _ => o

/-- What an operation must respect, where `here` and `next` tell whether its task is inside its
section before and after it. -/
def Lawful (x : State μ π × Option TaskId) (t : TaskId) (here : Bool) (next : Nat → Bool) :
    Op μ ε → Prop
  | .take => x.1.free = true ∨ (next 0 = true → x.2 = some t)
  | .give => here = true ∧ next 0 = false
  | .create e _ => (inside (P.entry e) = true → here = true ∧ next 0 = false) ∧
      (next 0 = true → here = true)
  | .delete handle => next 0 = true →
      x.2 = some t ∨ x.2 = some (x.1.named handle t) ∨ x.1.named handle t = t
  | _ => ∀ v, next v = true → here = true

def LawfulAt {ρ : Type} (x : State μ π × Option TaskId) (t : TaskId) (here : Bool)
    (there : ρ → Bool) (ret : Nat → Bool) (i : Instr μ ε ρ) : Prop :=
  Lawful P inside x t here (fun v => leads there ret (i.next v)) i.op

def LawfulInstr (x : State μ π × Option TaskId) (t : TaskId) (p : π) (i : Instr μ ε π) : Prop :=
  LawfulAt P inside x t (inside p) inside (fun _ => (P.back p).any inside) i

def Neutral : Op μ ε → Prop
  | .take | .give | .delete _ => False
  | .create e _ => inside (P.entry e) = false
  | _ => True

structure Guarded (x : State μ π × Option TaskId) : Prop where
  fresh : Fresh x.1
  free : x.1.free = x.2.isNone
  owner : ∀ t p, x.1.tasks t = some p → inside p = true → x.2 = some t

/-- No two tasks are inside their sections. -/
def Exclusive (s : State μ π) : Prop :=
  ∀ t u p q, s.tasks t = some p → s.tasks u = some q → inside p = true → inside q = true → t = u

def GivenByOwner (x : State μ π × Option TaskId) (a : Action π) : Prop :=
  ∀ t answer p i, a = .run t answer → x.1.tasks t = some p → P.instr p = some i →
    i.op = .give → x.2 = some t

variable {P inside} {x : State μ π × Option TaskId} {s' : State μ π} {t u : TaskId} {answer : Nat}
  {p q : π} {i : Instr μ ε π}

theorem Guarded.exclusive (h : Guarded inside x) : Exclusive inside x.1 := by
  intro t u p q hp hq hip hiq
  have ht := h.owner t p hp hip
  rw [h.owner u q hq hiq] at ht
  exact (Option.some.inj ht).symm

section Lawful

variable {ρ σ : Type} {here : Bool}

theorem LawfulAt.within {there : σ → Bool} {ret : Nat → Bool} {j : Instr μ ε ρ} {point : ρ → σ}
    {k : Nat → Flow σ} (h : LawfulAt P inside x t here (fun q => there (point q))
      (fun v => leads there ret (k v)) j) :
    LawfulAt P inside x t here there ret (j.within point k) := by
  have hnext : (fun v => leads there ret ((j.within point k).next v)) =
      fun v => leads (fun q => there (point q)) (fun v => leads there ret (k v)) (j.next v) := by
    funext v
    exact leads_within there ret (j.next v) point k
  rw [LawfulAt, hnext]
  exact h

theorem lawful_of_neutral {op : Op μ ε} {next : Nat → Bool} (h : Neutral P inside op)
    (hnext : ∀ v, next v = true → here = true) : Lawful P inside x t here next op := by
  cases op with
  | take | give | delete handle => exact h.elim
  | create e store =>
      refine ⟨fun he => ?_, hnext 0⟩
      rw [show inside (P.entry e) = false from h] at he
      cases he
  | read f | write f | ask | notifyTake | notifyGive handle => exact hnext

theorem lawful_inside {there : ρ → Bool} {ret : Nat → Bool} {j : Instr μ ε ρ}
    (h : Neutral P inside j.op) : LawfulAt P inside x t true there ret j :=
  lawful_of_neutral h fun _ _ => rfl

theorem lawful_outside {there : ρ → Bool} {ret : Nat → Bool} {j : Instr μ ε ρ}
    (h : Neutral P inside j.op) (hnext : ∀ v, leads there ret (j.next v) = false) :
    LawfulAt P inside x t here there ret j :=
  lawful_of_neutral h fun v hv => absurd hv (Bool.eq_false_iff.mp (hnext v))

end Lawful

theorem ownerAfter_run (h : Runs P x.1 t answer p i s') :
    ownerAfter P inside x.2 x.1 (.run t answer) = ownerOn P inside x.2 x.1 t i.op := by
  simp only [ownerAfter, h.point, Option.bind_some, h.instr]

theorem free_after (h : Guarded inside x) (hrun : Runs P x.1 t answer p i s') :
    s'.free = (ownerOn P inside x.2 x.1 t i.op).isNone := by
  have hfree := h.free
  rw [hrun.result, after, resume_free]
  cases i.op with
  | take =>
      simp only [exec, ownerOn]
      split
      next => rfl
      next hf => rw [← hfree, Bool.eq_false_iff.mpr hf]
  | give => rfl
  | create e store =>
      simp only [exec, ownerOn]
      split
      next ho => rw [hfree, ho.2]; rfl
      next => exact hfree
  | delete handle =>
      simp only [exec, ownerOn]
      split
      next ho => rw [hfree, ho]; rfl
      next => exact hfree
  | notifyGive handle => exact (notify_free _).trans hfree
  | read f | write f | ask | notifyTake => exact hfree

theorem owner_self (h : Guarded inside x) (hrun : Runs P x.1 t answer p i s')
    (hl : LawfulInstr P inside x t p i) (hq : s'.tasks t = some q) (hin : inside q = true) :
    ownerOn P inside x.2 x.1 t i.op = some t := by
  obtain ⟨hnext, halive⟩ := hrun.self hq
  have hwas : inside p = true → x.2 = some t := h.owner t p hrun.point
  have henters : leads inside (fun _ => (P.back p).any inside)
      (i.next (exec P x.1 t answer i.op).2) = true := by
    rw [leads_point, hnext]
    exact hin
  clear hnext
  obtain ⟨op, next⟩ := i
  unfold LawfulInstr LawfulAt at hl
  cases op with
  | take =>
      simp only [exec] at henters
      simp only [ownerOn]
      split
      next => rfl
      next hf =>
        rw [if_neg hf] at henters
        exact (hl.resolve_left hf) henters
  | give => exact absurd henters (Bool.eq_false_iff.mp hl.2)
  | create e store =>
      have howner := hwas (hl.2 henters)
      have hentry : ¬ inside (P.entry e) = true := by
        intro he
        exact absurd henters (Bool.eq_false_iff.mp (hl.1 he).2)
      simp only [ownerOn]
      rw [if_neg (fun hc => hentry hc.1), howner]
  | delete handle =>
      have hne : x.1.named handle t ≠ t := by
        intro heq
        simp only [exec, heq, Function.update_self] at halive
        cases halive
      simp only [ownerOn]
      split
      next => rfl
      next hother => exact (hl henters).resolve_right (fun hc => hc.elim hother hne)
  | read f | write f | ask | notifyTake | notifyGive handle => exact hwas (hl _ henters)

theorem owner_other (h : Guarded inside x) (hrun : Runs P x.1 t answer p i s')
    (hl : LawfulInstr P inside x t p i) (hu : u ≠ t) (hq : s'.tasks u = some q)
    (hin : inside q = true) : ownerOn P inside x.2 x.1 t i.op = some u := by
  have hwas : inside p = true → x.2 = some t := h.owner t p hrun.point
  have hfree := h.free
  have hcases := hrun.other hu hq
  obtain ⟨op, next⟩ := i
  unfold LawfulInstr LawfulAt at hl
  rcases hcases with ⟨hold, hkept⟩ | ⟨e, store, rfl, rfl, rfl⟩
  · have ho := h.owner u q hold hin
    have hnot : x.2 ≠ some t := by
      rw [ho]
      exact fun hc => hu (Option.some.inj hc)
    rw [ho] at hfree
    cases op with
    | take => exact (if_neg (Bool.eq_false_iff.mp hfree)).trans ho
    | give => exact absurd (hwas hl.1) hnot
    | create e store => exact (if_neg (fun hc => hnot hc.2)).trans ho
    | delete handle =>
        refine (if_neg ?_).trans ho
        rw [ho]
        exact fun hc => hkept handle rfl (Option.some.inj hc)
    | read f | write f | ask | notifyTake | notifyGive handle => exact ho
  · exact if_pos ⟨hin, hwas (hl.1 hin).1⟩

/-- The lock discipline from what the instruction respects: no step enters a section beside
another task, and none gives a semaphore that its task does not own. -/
theorem guarded_step {y : State μ π × Option TaskId} {a : Action π} (h : Guarded inside x)
    (hlawful : ∀ t answer p i, a = .run t answer → x.1.tasks t = some p → P.instr p = some i →
      LawfulInstr P inside x t p i)
    (hcalls : ∀ p q, P.accepts p q = true → inside q = false)
    (hstep : observe (step P) (ownerAfter P inside) x a = some y) :
    Guarded inside y ∧ GivenByOwner P x a := by
  obtain ⟨hs, ho⟩ := observe_some hstep
  have hfresh := step_fresh h.fresh hs
  cases a with
  | run t answer =>
      obtain ⟨p, i, hrun⟩ := step_run hs
      have hl := hlawful t answer p i rfl hrun.point hrun.instr
      rw [ownerAfter_run hrun] at ho
      refine ⟨⟨hfresh, ?_, ?_⟩, ?_⟩
      · rw [ho]
        exact free_after h hrun
      · intro u q hq hin
        rw [ho]
        by_cases hu : u = t
        · subst hu
          exact owner_self h hrun hl hq hin
        · exact owner_other h hrun hl hu hq hin
      · rintro t' answer' p' i' heq hp' hi' hop
        cases heq
        rw [hrun.point] at hp'
        cases hp'
        rw [hrun.instr] at hi'
        cases hi'
        rw [LawfulInstr, LawfulAt, hop] at hl
        exact h.owner t p hrun.point hl.1
  | call t point =>
      obtain ⟨p, hcall⟩ := step_call hs
      refine ⟨⟨hfresh, ?_, ?_⟩, fun _ _ _ _ heq => (by cases heq)⟩
      · rw [ho, hcall.result]
        exact h.free
      · intro u q hq hin
        rw [ho]
        by_cases hu : u = t
        · subst hu
          rw [hcall.self hq, hcalls p point hcall.accepts] at hin
          cases hin
        · rw [hcall.other hu] at hq
          exact h.owner u q hq hin

end WirelessEsp.LockOwner
