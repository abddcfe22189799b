import Mathlib.Logic.Function.Basic
import WirelessEsp.Transition

namespace WirelessEsp.Programs

open Function (update)

/-- What a task does for a request: it returns, performs an operation and goes on with its answer,
or gives an item to a queue. It is done with the request when the queue takes the item, and goes
on when it does not. -/
inductive Code (ω : Type) (Ans : ω → Type) (κ α : Type)
  | ret (a : α)
  | op (o : ω) (next : Ans o → Code ω Ans κ α)
  | give (item : κ) (refused : Code ω Ans κ α)

variable {ω : Type} {Ans : ω → Type} {κ α β : Type}

def Code.bind : Code ω Ans κ α → (α → Code ω Ans κ β) → Code ω Ans κ β
  | .ret a, f => f a
  | .op o next, f => .op o fun a => (next a).bind f
  | .give item refused, f => .give item (refused.bind f)

instance : Monad (Code ω Ans κ) where
  pure := .ret
  bind := Code.bind

def perform (o : ω) : Code ω Ans κ (Ans o) := .op o .ret

def handOver (item : κ) : Code ω Ans κ Unit := .give item (.ret ())

@[simp]
theorem pure_eq (a : α) : (pure a : Code ω Ans κ α) = .ret a := rfl

@[simp]
theorem ret_bind (a : α) (f : α → Code ω Ans κ β) : (Code.ret a >>= f) = f a := rfl

@[simp]
theorem op_bind (o : ω) (next : Ans o → Code ω Ans κ α) (f : α → Code ω Ans κ β) :
    (Code.op o next >>= f) = .op o fun a => next a >>= f := rfl

@[simp]
theorem give_bind (item : κ) (refused : Code ω Ans κ α) (f : α → Code ω Ans κ β) :
    (Code.give item refused >>= f) = .give item (refused >>= f) := rfl

@[simp]
theorem perform_bind (o : ω) (f : Ans o → Code ω Ans κ β) : (perform o >>= f) = .op o f := rfl

@[simp]
theorem handOver_bind (item : κ) (f : Unit → Code ω Ans κ β) :
    (handOver item >>= f) = .give item (f ()) := rfl

theorem bind_assoc {γ : Type} (code : Code ω Ans κ α) (f : α → Code ω Ans κ β)
    (g : β → Code ω Ans κ γ) : (code >>= f >>= g) = (code >>= fun a => f a >>= g) := by
  induction code with
  | ret a => rfl
  | op o next ih => exact congrArg (Code.op o) (funext ih)
  | give item refused ih => exact congrArg (Code.give item) ih

inductive Event (ω : Type) (Ans : ω → Type) (κ : Type)
  | did (o : ω) (a : Ans o)
  | gave (item : κ) (taken : Bool)

/-- What can happen to a request from a place in its code on to its end: `consume` is what is done
with an item that a queue has taken, and `tells` which answers an operation gives. -/
inductive Life (consume : κ → Code ω Ans κ α) (tells : (o : ω) → Ans o → Prop) :
    Code ω Ans κ α → List (Event ω Ans κ) → Prop
  | ret (a : α) : Life consume tells (.ret a) []
  | op {o : ω} {next : Ans o → Code ω Ans κ α} {a : Ans o} {es : List (Event ω Ans κ)}
      (ha : tells o a) (h : Life consume tells (next a) es) :
      Life consume tells (.op o next) (.did o a :: es)
  | taken {item : κ} {refused : Code ω Ans κ α} {es : List (Event ω Ans κ)}
      (h : Life consume tells (consume item) es) :
      Life consume tells (.give item refused) (.gave item true :: es)
  | refused {item : κ} {refused : Code ω Ans κ α} {es : List (Event ω Ans κ)}
      (h : Life consume tells refused es) :
      Life consume tells (.give item refused) (.gave item false :: es)

section Life

variable {consume : κ → Code ω Ans κ α} {tells : (o : ω) → Ans o → Prop}
  {es : List (Event ω Ans κ)}

@[simp]
theorem life_ret (a : α) : Life consume tells (.ret a) es ↔ es = [] := by
  constructor
  · intro h
    cases h
    rfl
  · rintro rfl
    exact .ret a

@[simp]
theorem life_op (o : ω) (next : Ans o → Code ω Ans κ α) :
    Life consume tells (.op o next) es ↔
      ∃ a, tells o a ∧ ∃ es', Life consume tells (next a) es' ∧ es = .did o a :: es' := by
  constructor
  · intro h
    cases h with
    | op ha h => exact ⟨_, ha, _, h, rfl⟩
  · rintro ⟨a, ha, es', h, rfl⟩
    exact .op ha h

@[simp]
theorem life_give (item : κ) (refused : Code ω Ans κ α) :
    Life consume tells (.give item refused) es ↔
      (∃ es', Life consume tells (consume item) es' ∧ es = .gave item true :: es') ∨
        ∃ es', Life consume tells refused es' ∧ es = .gave item false :: es' := by
  constructor
  · intro h
    cases h with
    | taken h => exact .inl ⟨_, h, rfl⟩
    | refused h => exact .inr ⟨_, h, rfl⟩
  · rintro (⟨es', h, rfl⟩ | ⟨es', h, rfl⟩)
    · exact .taken h
    · exact .refused h

theorem exists_life (htells : ∀ o, ∃ a, tells o a) (code : Code ω Ans κ α) :
    ∃ es, Life consume tells code es := by
  induction code with
  | ret a => exact ⟨[], .ret a⟩
  | op o next ih =>
      obtain ⟨a, ha⟩ := htells o
      obtain ⟨es, hes⟩ := ih a
      exact ⟨_, .op ha hes⟩
  | give item refused ih =>
      obtain ⟨es, hes⟩ := ih
      exact ⟨_, .refused hes⟩

theorem Life.mono {tells' : (o : ω) → Ans o → Prop} (htells : ∀ o a, tells o a → tells' o a)
    {code : Code ω Ans κ α} (h : Life consume tells code es) : Life consume tells' code es := by
  induction h with
  | ret a => exact .ret a
  | op ha _ ih => exact .op (htells _ _ ha) ih
  | taken _ ih => exact .taken ih
  | refused _ ih => exact .refused ih

end Life

section Every

variable (consume : κ → Code ω Ans κ α) (tells : (o : ω) → Ans o → Prop)
  (Q : List (Event ω Ans κ) → Prop)

def Every (code : Code ω Ans κ α) : Prop := ∀ es, Life consume tells code es → Q es

@[simp]
theorem every_ret (a : α) : Every consume tells Q (.ret a) ↔ Q [] := by
  simp only [Every, life_ret, forall_eq]

@[simp]
theorem every_op (o : ω) (next : Ans o → Code ω Ans κ α) :
    Every consume tells Q (.op o next) ↔
      ∀ a, tells o a → Every consume tells (fun es => Q (.did o a :: es)) (next a) := by
  constructor
  · exact fun h a ha es hes => h _ (.op ha hes)
  · intro h es hes
    cases hes with
    | op ha hes => exact h _ ha _ hes

@[simp]
theorem every_give (item : κ) (refused : Code ω Ans κ α) :
    Every consume tells Q (.give item refused) ↔
      Every consume tells (fun es => Q (.gave item true :: es)) (consume item) ∧
        Every consume tells (fun es => Q (.gave item false :: es)) refused := by
  constructor
  · exact fun h => ⟨fun es hes => h _ (.taken hes), fun es hes => h _ (.refused hes)⟩
  · intro h es hes
    cases hes with
    | taken hes => exact h.1 _ hes
    | refused hes => exact h.2 _ hes

end Every

/-- `starter` takes the requests `φ` of the outside, each with a world `W` that tells the answers
to its operations; `answer` is nothing when an assertion fails. The queue of an item takes it or
not by its length, and the tasks that serve a queue do with an item what `consume` says. -/
structure Machine (ω : Type) (Ans : ω → Type) (κ T Q π W φ : Type) where
  starter : T
  entry : φ → Code ω Ans κ Unit
  consume : κ → Code ω Ans κ Unit
  queue : κ → Q
  takes : W → κ → Nat → Bool
  serves : T → Q → Bool
  answer : W → π → (o : ω) → Option (Ans o × π)

/-- The requests by their numbers. `rest` is what is still to be done for one, in the task that
runs it or by the one that takes it from its queue. -/
structure State (ω : Type) (Ans : ω → Type) (κ T Q π W φ : Type) where
  shared : π
  running : T → Option Nat
  queued : Q → List Nat
  made : Nat
  world : Nat → W
  front : Nat → φ
  rest : Nat → Code ω Ans κ Unit
  trace : Nat → List (Event ω Ans κ)

inductive Action (T Q W φ : Type)
  | start (w : W) (f : φ)
  | receive (t : T) (q : Q)
  | run (t : T)

variable {T Q π W φ : Type}

section Steps

variable [DecidableEq T] [DecidableEq Q] (M : Machine ω Ans κ T Q π W φ)

namespace State

variable (s : State ω Ans κ T Q π W φ)

def start (w : W) (f : φ) : State ω Ans κ T Q π W φ :=
  { s with
    running := update s.running M.starter (some s.made)
    made := s.made + 1
    world := update s.world s.made w
    front := update s.front s.made f
    rest := update s.rest s.made (M.entry f)
    trace := update s.trace s.made [] }

/-- Something happens to request `r`, and `code` is left to do. -/
def happens (r : Nat) (e : Event ω Ans κ) (code : Code ω Ans κ Unit) : State ω Ans κ T Q π W φ :=
  { s with rest := update s.rest r code, trace := update s.trace r (s.trace r ++ [e]) }

def idle (t : T) : State ω Ans κ T Q π W φ := { s with running := update s.running t none }

def enqueue (q : Q) (r : Nat) : State ω Ans κ T Q π W φ :=
  { s with queued := update s.queued q (s.queued q ++ [r]) }

def advance (t : T) (r : Nat) : Option (State ω Ans κ T Q π W φ) :=
  match s.rest r with
  | .ret _ => some (s.idle t)
  | .op o next => (M.answer (s.world r) s.shared o).map fun x =>
      { s.happens r (.did o x.1) (next x.1) with shared := x.2 }
  | .give item refused =>
      if M.takes (s.world r) item (s.queued (M.queue item)).length then
        some (((s.happens r (.gave item true) (M.consume item)).idle t).enqueue (M.queue item) r)
      else some (s.happens r (.gave item false) refused)

end State

def step (s : State ω Ans κ T Q π W φ) : Action T Q W φ → Option (State ω Ans κ T Q π W φ)
  | .start w f => if s.running M.starter = none then some (s.start M w f) else none
  | .receive t q =>
      if M.serves t q ∧ s.running t = none then
        match s.queued q with
        | [] => none
        | r :: rs => some { s with
            running := update s.running t (some r), queued := update s.queued q rs }
      else none
  | .run t => match s.running t with
      | none => none
      | some r => s.advance M t r

inductive Does (s : State ω Ans κ T Q π W φ) : State ω Ans κ T Q π W φ → Prop
  | start (w : W) (f : φ) (hidle : s.running M.starter = none) : Does s (s.start M w f)
  | receive {t : T} {q : Q} {r : Nat} {rs : List Nat} (hidle : s.running t = none)
      (hq : s.queued q = r :: rs) :
      Does s { s with running := update s.running t (some r), queued := update s.queued q rs }
  | ret {t : T} {r : Nat} {u : Unit} (hrun : s.running t = some r) (hrest : s.rest r = .ret u) :
      Does s (s.idle t)
  | did {t : T} {r : Nat} {o : ω} {next : Ans o → Code ω Ans κ Unit} {a : Ans o} {p : π}
      (hrun : s.running t = some r) (hrest : s.rest r = .op o next)
      (hanswer : M.answer (s.world r) s.shared o = some (a, p)) :
      Does s { s.happens r (.did o a) (next a) with shared := p }
  | taken {t : T} {r : Nat} {item : κ} {refused : Code ω Ans κ Unit}
      (hrun : s.running t = some r) (hrest : s.rest r = .give item refused) :
      Does s (((s.happens r (.gave item true) (M.consume item)).idle t).enqueue (M.queue item) r)
  | refused {t : T} {r : Nat} {item : κ} {refused : Code ω Ans κ Unit}
      (hrun : s.running t = some r) (hrest : s.rest r = .give item refused) :
      Does s (s.happens r (.gave item false) refused)

theorem does_of_step {M : Machine ω Ans κ T Q π W φ} {s s' : State ω Ans κ T Q π W φ}
    {a : Action T Q W φ} (h : step M s a = some s') : Does M s s' := by
  cases a with
  | start w f =>
      simp only [step, Option.ite_none_right_eq_some, Option.some.injEq] at h
      obtain ⟨hidle, rfl⟩ := h
      exact .start w f hidle
  | receive t q =>
      simp only [step, Option.ite_none_right_eq_some] at h
      obtain ⟨⟨-, hidle⟩, h⟩ := h
      split at h
      · cases h
      next r rs hq =>
        cases h
        exact .receive hidle hq
  | run t =>
      rw [step] at h
      split at h
      · cases h
      next r hrun =>
        rw [State.advance] at h
        split at h
        next u hrest =>
          cases h
          exact .ret hrun hrest
        next o next hrest =>
          rw [Option.map_eq_some_iff] at h
          obtain ⟨⟨a, p⟩, hanswer, rfl⟩ := h
          exact .did hrun hrest hanswer
        next item refused hrest =>
          split at h
          · cases h
            exact .taken hrun hrest
          · cases h
            exact .refused hrun hrest

end Steps

def Machine.Says (M : Machine ω Ans κ T Q π W φ) (w : W) (o : ω) (a : Ans o) : Prop :=
  ∃ p p', M.answer w p o = some (a, p')

def Machine.Lives (M : Machine ω Ans κ T Q π W φ) (w : W) (code : Code ω Ans κ Unit)
    (es : List (Event ω Ans κ)) : Prop :=
  Life M.consume (M.Says w) code es

/-- A request that nothing is left to do for. -/
def State.Finished (s : State ω Ans κ T Q π W φ) (r : Nat) : Prop :=
  r < s.made ∧ s.rest r = .ret ()

def State.Held (s : State ω Ans κ T Q π W φ) (r : Nat) : Prop :=
  (∃ t, s.running t = some r) ∨ ∃ q, r ∈ s.queued q

/-- What has happened to the requests is the beginning of a life, and none is lost. -/
structure Traced (M : Machine ω Ans κ T Q π W φ) (s : State ω Ans κ T Q π W φ) : Prop where
  lives : ∀ r < s.made, ∀ es, M.Lives (s.world r) (s.rest r) es →
    M.Lives (s.world r) (M.entry (s.front r)) (s.trace r ++ es)
  held : ∀ r < s.made, s.rest r = .ret () ∨ s.Held r
  running : ∀ t r, s.running t = some r → r < s.made
  queued : ∀ q, ∀ r ∈ s.queued q, r < s.made

variable {M : Machine ω Ans κ T Q π W φ} {s s' : State ω Ans κ T Q π W φ}

theorem Traced.finished (h : Traced M s) {r : Nat} (hr : s.Finished r) :
    M.Lives (s.world r) (M.entry (s.front r)) (s.trace r) := by
  have hlives := h.lives r hr.1 [] (by rw [hr.2]; exact .ret ())
  rw [List.append_nil] at hlives
  exact hlives

theorem Traced.extends (h : Traced M s) (htells : ∀ w o, ∃ a, M.Says w o a) {r : Nat}
    (hr : r < s.made) : ∃ es, M.Lives (s.world r) (M.entry (s.front r)) (s.trace r ++ es) := by
  obtain ⟨es, hes⟩ : ∃ es, M.Lives (s.world r) (s.rest r) es :=
    exists_life (htells (s.world r)) (s.rest r)
  exact ⟨es, h.lives r hr es hes⟩

section Happens

variable {r : Nat} {e : Event ω Ans κ} {code : Code ω Ans κ Unit}

theorem Traced.happens_lives (h : Traced M s)
    (hlife : ∀ es, M.Lives (s.world r) code es → M.Lives (s.world r) (s.rest r) (e :: es)) :
    ∀ k < s.made, ∀ es, M.Lives (s.world k) ((s.happens r e code).rest k) es →
      M.Lives (s.world k) (M.entry (s.front k)) ((s.happens r e code).trace k ++ es) := by
  intro k hk es hes
  by_cases heq : k = r
  · subst heq
    have hrest : (s.happens k e code).rest k = code := Function.update_self ..
    have htrace : (s.happens k e code).trace k = s.trace k ++ [e] := Function.update_self ..
    rw [hrest] at hes
    rw [htrace, List.append_assoc]
    exact h.lives k hk _ (hlife es hes)
  · have hrest : (s.happens r e code).rest k = s.rest k := Function.update_of_ne heq _ _
    have htrace : (s.happens r e code).trace k = s.trace k := Function.update_of_ne heq _ _
    rw [hrest] at hes
    rw [htrace]
    exact h.lives k hk es hes

theorem happens_rest_ne {k : Nat} (h : k ≠ r) : (s.happens r e code).rest k = s.rest k :=
  Function.update_of_ne h _ _

theorem Traced.happens_held (h : Traced M s) {t : T} (hrun : s.running t = some r) :
    ∀ k < s.made, (s.happens r e code).rest k = .ret () ∨ s.Held k := by
  intro k hk
  by_cases heq : k = r
  · exact .inr (.inl ⟨t, heq ▸ hrun⟩)
  · rw [happens_rest_ne heq]
    exact h.held k hk

end Happens

theorem held_idle [DecidableEq T] {t : T} {r k : Nat} (hrun : s.running t = some r) (hne : k ≠ r)
    (h : s.Held k) : (s.idle t).Held k := by
  refine h.imp_left ?_
  rintro ⟨t', ht'⟩
  refine ⟨t', (Function.update_of_ne ?_ _ _).trans ht'⟩
  rintro rfl
  rw [hrun] at ht'
  exact hne (Option.some.inj ht').symm

theorem running_idle [DecidableEq T] {t t' : T} {r : Nat} (h : (s.idle t).running t' = some r) :
    s.running t' = some r := by
  by_cases heq : t' = t
  · have hnone : (s.idle t).running t' = none := heq ▸ Function.update_self ..
    rw [hnone] at h
    cases h
  · exact (Function.update_of_ne heq _ _).symm.trans h

theorem held_enqueue [DecidableEq Q] {q : Q} {r k : Nat} (h : s.Held k) :
    (s.enqueue q r).Held k := by
  refine h.imp_right ?_
  rintro ⟨q', hq'⟩
  refine ⟨q', ?_⟩
  by_cases heq : q' = q
  · rw [heq] at hq' ⊢
    have hqueue : (s.enqueue q r).queued q = s.queued q ++ [r] := Function.update_self ..
    rw [hqueue]
    exact List.mem_append_left _ hq'
  · have hqueue : (s.enqueue q r).queued q' = s.queued q' := Function.update_of_ne heq _ _
    rw [hqueue]
    exact hq'

theorem mem_enqueue [DecidableEq Q] (q : Q) (r : Nat) : r ∈ (s.enqueue q r).queued q := by
  have hqueue : (s.enqueue q r).queued q = s.queued q ++ [r] := Function.update_self ..
  rw [hqueue]
  exact List.mem_append_right _ (List.mem_singleton_self r)

theorem queued_enqueue [DecidableEq Q] {q q' : Q} {r k : Nat} (h : k ∈ (s.enqueue q r).queued q') :
    k = r ∨ k ∈ s.queued q' := by
  by_cases heq : q' = q
  · have hqueue : (s.enqueue q r).queued q' = s.queued q ++ [r] := heq ▸ Function.update_self ..
    rw [hqueue] at h
    rcases List.mem_append.mp h with hold | hnew
    · exact .inr (heq ▸ hold)
    · exact .inl (List.mem_singleton.mp hnew)
  · have hqueue : (s.enqueue q r).queued q' = s.queued q' := Function.update_of_ne heq _ _
    rw [hqueue] at h
    exact .inr h

theorem running_update [DecidableEq T] {t : T} {r k : Nat} (hidle : s.running t = none)
    (h : ∃ t', s.running t' = some k) : ∃ t', update s.running t (some r) t' = some k := by
  obtain ⟨t', ht'⟩ := h
  refine ⟨t', (Function.update_of_ne ?_ _ _).trans ht'⟩
  rintro rfl
  rw [hidle] at ht'
  cases ht'

theorem Traced.idle [DecidableEq T] (h : Traced M s) {t : T} {r : Nat} (hrun : s.running t = some r)
    (hrest : s.rest r = .ret () ∨ ∃ q, r ∈ s.queued q) : Traced M (s.idle t) := by
  refine ⟨h.lives, ?_, fun t' k hk => h.running t' k (running_idle hk), h.queued⟩
  intro k hk
  by_cases heq : k = r
  · rw [heq]
    exact hrest.imp_right fun hqueue => .inr hqueue
  · exact (h.held k hk).imp_right (held_idle hrun heq)

theorem Traced.enqueue [DecidableEq Q] (h : Traced M s) {q : Q} {r : Nat} (hr : r < s.made) :
    Traced M (s.enqueue q r) := by
  refine ⟨h.lives, fun k hk => (h.held k hk).imp_right held_enqueue, h.running, ?_⟩
  intro q' k hk
  rcases queued_enqueue hk with rfl | hk
  · exact hr
  · exact h.queued q' k hk

theorem Traced.happens (h : Traced M s) {t : T} {r : Nat} {e : Event ω Ans κ}
    {code : Code ω Ans κ Unit} (hrun : s.running t = some r)
    (hlife : ∀ es, M.Lives (s.world r) code es → M.Lives (s.world r) (s.rest r) (e :: es)) :
    Traced M (s.happens r e code) :=
  ⟨h.happens_lives hlife, h.happens_held hrun, h.running, h.queued⟩

theorem Traced.start [DecidableEq T] (h : Traced M s) (w : W) (f : φ)
    (hidle : s.running M.starter = none) :
    Traced M (s.start M w f) := by
  have hworld : (s.start M w f).world s.made = w := Function.update_self ..
  have hfront : (s.start M w f).front s.made = f := Function.update_self ..
  have hrest : (s.start M w f).rest s.made = M.entry f := Function.update_self ..
  have htrace : (s.start M w f).trace s.made = [] := Function.update_self ..
  have hold : ∀ r, r ≠ s.made → (s.start M w f).world r = s.world r ∧
      (s.start M w f).front r = s.front r ∧ (s.start M w f).rest r = s.rest r ∧
      (s.start M w f).trace r = s.trace r :=
    fun r hr => ⟨Function.update_of_ne hr _ _, Function.update_of_ne hr _ _,
      Function.update_of_ne hr _ _, Function.update_of_ne hr _ _⟩
  constructor
  · intro r hr es hes
    by_cases heq : r = s.made
    · subst heq
      rw [hworld, hrest] at hes
      rw [hworld, hfront, htrace]
      exact hes
    · obtain ⟨hw, hf, hc, ht⟩ := hold r heq
      rw [hw, hc] at hes
      rw [hw, hf, ht]
      exact h.lives r (Nat.lt_of_le_of_ne (Nat.le_of_lt_succ hr) heq) es hes
  · intro r hr
    by_cases heq : r = s.made
    · exact .inr (.inl ⟨M.starter, heq ▸ Function.update_self ..⟩)
    · rw [(hold r heq).2.2.1]
      have hlt := Nat.lt_of_le_of_ne (Nat.le_of_lt_succ hr) heq
      exact (h.held r hlt).imp_right fun hheld => hheld.imp_left (running_update hidle)
  · intro t r hrun
    by_cases heq : t = M.starter
    · have hnew : (s.start M w f).running t = some s.made := heq ▸ Function.update_self ..
      rw [hnew] at hrun
      cases hrun
      exact Nat.lt_succ_self _
    · have hsame : (s.start M w f).running t = s.running t := Function.update_of_ne heq _ _
      rw [hsame] at hrun
      exact Nat.lt_succ_of_lt (h.running t r hrun)
  · exact fun q r hr => Nat.lt_succ_of_lt (h.queued q r hr)

section Invariant

variable [DecidableEq T] [DecidableEq Q]

theorem Traced.receive (h : Traced M s) {t : T} {q : Q} {r : Nat} {rs : List Nat}
    (hidle : s.running t = none) (hq : s.queued q = r :: rs) : Traced M { s with
      running := update s.running t (some r), queued := update s.queued q rs } := by
  refine ⟨h.lives, ?_, ?_, ?_⟩
  · intro k hk
    refine (h.held k hk).imp_right ?_
    rintro (hrun | ⟨q', hq'⟩)
    · exact .inl (running_update hidle hrun)
    · by_cases heq : q' = q
      · rw [heq, hq] at hq'
        rcases List.mem_cons.mp hq' with rfl | hmem
        · exact .inl ⟨t, Function.update_self ..⟩
        · have hqueue : update s.queued q rs q = rs := Function.update_self ..
          have hmem' : k ∈ update s.queued q rs q := by
            rw [hqueue]
            exact hmem
          exact .inr ⟨q, hmem'⟩
      · have hqueue : update s.queued q rs q' = s.queued q' := Function.update_of_ne heq _ _
        have hmem : k ∈ update s.queued q rs q' := by
          rw [hqueue]
          exact hq'
        exact .inr ⟨q', hmem⟩
  · intro t' k hrun
    by_cases heq : t' = t
    · have hnew : update s.running t (some r) t' = some r := heq ▸ Function.update_self ..
      have hk : r = k := Option.some.inj (hnew.symm.trans hrun)
      exact hk ▸ h.queued q r (hq ▸ List.mem_cons_self)
    · exact h.running t' k ((Function.update_of_ne heq _ _).symm.trans hrun)
  · intro q' k hk
    by_cases heq : q' = q
    · have hqueue : update s.queued q rs q' = rs := heq ▸ Function.update_self ..
      have hmem : k ∈ rs := hqueue ▸ hk
      exact h.queued q k (hq ▸ List.mem_cons_of_mem r hmem)
    · have hqueue : update s.queued q rs q' = s.queued q' := Function.update_of_ne heq _ _
      exact h.queued q' k (hqueue ▸ hk)

theorem Does.traced (h : Traced M s) (hdoes : Does M s s') : Traced M s' := by
  cases hdoes with
  | start w f hidle => exact h.start w f hidle
  | receive hidle hq => exact h.receive hidle hq
  | ret hrun hrest => exact h.idle hrun (.inl hrest)
  | did hrun hrest hanswer =>
      have htraced := h.happens hrun (e := .did _ _) fun es hes => by
        rw [hrest]
        exact .op ⟨_, _, hanswer⟩ hes
      exact ⟨htraced.lives, htraced.held, htraced.running, htraced.queued⟩
  | @taken t r item refused hrun hrest =>
      have htraced : Traced M (s.happens r (.gave item true) (M.consume item)) := by
        apply h.happens hrun
        intro es hes
        rw [hrest]
        exact .taken hes
      have hqueued := htraced.enqueue (q := M.queue item) (h.running _ _ hrun)
      exact hqueued.idle hrun (.inr ⟨M.queue item, mem_enqueue _ _⟩)
  | refused hrun hrest =>
      apply h.happens hrun
      intro es hes
      rw [hrest]
      exact .refused hes

theorem step_traced {a : Action T Q W φ} (h : Traced M s) (hstep : step M s a = some s') :
    Traced M s' :=
  (does_of_step hstep).traced h

end Invariant

end WirelessEsp.Programs
