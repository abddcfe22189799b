import WirelessEsp.ApiOwnership
import WirelessEsp.Conservation

namespace WirelessEsp.ApiServer

open Programs Lifetimes UriHtmlBase

variable {τ : Type}

def taken (e : Happening τ) : Multiset Buf := (got e).toList

def putBack (e : Happening τ) : Multiset Buf := (returned e).toList

theorem sum_taken (es : List (Happening τ)) : (es.map taken).sum = (gets es : Multiset Buf) := by
  induction es with
  | nil => rfl
  | cons e es ih =>
      rw [List.map_cons, List.sum_cons, ih, taken, gets, gets, Multiset.coe_add, List.filterMap_cons]
      cases got e <;> rfl

theorem sum_putBack (es : List (Happening τ)) :
    (es.map putBack).sum = (puts es : Multiset Buf) := by
  induction es with
  | nil => rfl
  | cons e es ih =>
      rw [List.map_cons, List.sum_cons, ih, putBack, puts, puts, Multiset.coe_add,
        List.filterMap_cons]
      cases returned e <;> rfl

theorem server_balanced : Balanced (server (τ := τ)) (fun pool => (pool : Multiset Buf)) taken
    putBack where
  answer := by
    intro w pool o a pool' hanswer
    cases o with
    | poolGet =>
        cases pool with
        | nil => cases hanswer
        | cons b rest =>
            cases hanswer
            have hperm := List.perm_append_singleton a pool'
            exact (Multiset.coe_eq_coe.mpr hperm).trans (add_zero _).symm
    | poolPut b =>
        simp only [server, answer, Option.ite_none_right_eq_some, Option.some.injEq,
          Prod.mk.injEq] at hanswer
        rw [← hanswer.2.2]
        exact add_zero _
    | _ =>
        cases hanswer
        rfl
  gave _ _ := rfl

def poolAccounts : System τ → Prop :=
  State.Accounts (fun pool : List Buf => (pool : Multiset Buf)) taken putBack
    ↑(List.range BUFFER_NR)

/-- All requests that have come are finished. -/
def Quiet (s : System τ) : Prop := ∀ r < s.made, s.Finished r

/-- The pool has the buffers it had at first, and no request has kept one. -/
structure Conserved (s : System τ) : Prop where
  pool : s.shared.Perm (List.range BUFFER_NR)
  requests : ∀ r < s.made, gets (s.trace r) = puts (s.trace r)

theorem always_accounts (w : World τ) (acts : List (Action Task Queue (World τ) Request)) :
    Transition.Always (step server) (fun s => Traced server s ∧ poolAccounts s) (boot w) acts := by
  apply Transition.always_of_invariant fun s a t hs hstep => step_accounts server_balanced hs hstep
  exact ⟨(always_traced w acts).head, rfl⟩

theorem schema_gets {w : World τ} {uri : Nat → UInt8} (huri : uriHash uri = URI_SSDP)
    {es : List (Happening τ)} (hes : server.Lives w (serve (.get uri)) es) :
    gets es ≠ puts es := by
  have hall : Always (τ := τ) (fun es => gets es ≠ puts es) (serve (.get uri)) := by
    have hne : ¬ URI_SSDP = URI_WS_DOT := by decide
    simp only [serve, handler, htmlBaseGetHandler, huri, if_neg hne, if_true, perform_bind, op_bind,
      pure_eq, ret_bind, every_op, every_ret]
    exact fun b _ u _ => List.cons_ne_nil b []
  exact hall.lives hes

theorem finished_gets {w : World τ} {f : Request} {es : List (Happening τ)}
    (hes : server.Lives w (serve f) es) : gets es = puts es ↔ ¬ AsksForSchema f := by
  constructor
  · intro heq hasks
    cases f with
    | get uri => exact schema_gets hasks hes heq
    | frame | post => exact hasks
  · exact fun hasks => ((serve_settled f hasks).lives hes).puts.symm

theorem conserved_iff {s : System τ} (htraced : Traced server s)
    (haccounts : poolAccounts s) (hquiet : Quiet s) :
    Conserved s ↔ ∀ r < s.made, ¬ AsksForSchema (s.front r) := by
  have hiff : ∀ r < s.made, (gets (s.trace r) = puts (s.trace r) ↔ ¬ AsksForSchema (s.front r)) :=
    fun r hr => finished_gets (htraced.finished (hquiet r hr))
  constructor
  · exact fun h r hr => (hiff r hr).mp (h.requests r hr)
  · intro h
    have hrequests := fun r hr => (hiff r hr).mpr (h r hr)
    refine ⟨?_, hrequests⟩
    have htotal : s.total taken = s.total putBack := by
      apply Finset.sum_congr rfl
      intro r hr
      rw [sum_taken, sum_putBack, hrequests r (Finset.mem_range.mp hr)]
    rw [poolAccounts, State.Accounts, htotal] at haccounts
    exact Multiset.coe_eq_coe.mp (add_right_cancel haccounts)

/-- When all requests are finished, the pool is as it was if and only if none of them was a GET of a
URI that begins with "/SSD". -/
theorem always_conserved_iff (w : World τ)
    (acts : List (Action Task Queue (World τ) Request)) :
    Transition.Always (step server) (fun s => Quiet s →
      (Conserved s ↔ ∀ r < s.made, ¬ AsksForSchema (s.front r))) (boot w) acts := by
  apply (always_accounts w acts).mono
  intro s ⟨htraced, haccounts⟩ hquiet
  exact conserved_iff htraced haccounts hquiet

/-- However many requests there have been, a new one finds all the buffers when they are finished
and none was such a GET. -/
theorem always_refilled (w : World τ) (acts : List (Action Task Queue (World τ) Request)) :
    Transition.Always (step server) (fun s => Quiet s →
      (∀ r < s.made, ¬ AsksForSchema (s.front r)) → s.shared.length = BUFFER_NR) (boot w) acts := by
  apply (always_accounts w acts).mono
  intro s ⟨htraced, haccounts⟩ hquiet hasks
  have hconserved := (conserved_iff htraced haccounts hquiet).mpr hasks
  rw [hconserved.pool.length_eq, List.length_range]

def schemaUri : Nat → UInt8 := fun n => [0x2F, 0x53, 0x53, 0x44, 0x50].getD n 0

def oneSchema : List (Action Task Queue (World Unit) Request) :=
  .start laterWorld (.get schemaUri) :: .replicate 3 (.run .httpd)

/-- A GET of "/SSDP" leaves six buffers. -/
theorem not_conserved_schema : ¬ Transition.Always (step server)
    (fun s => Quiet s → Conserved s) (boot laterWorld) oneSchema := by
  intro h
  have hrun : ∃ s, Transition.run (step server) (boot laterWorld) oneSchema = some s ∧
      s.made = 1 ∧ s.Finished 0 ∧ s.shared.length = 6 :=
    ⟨_, rfl, rfl, ⟨by decide, rfl⟩, rfl⟩
  obtain ⟨s, hrun, hmade, hfin, hlength⟩ := hrun
  have hquiet : Quiet s := by
    intro r hr
    rw [hmade, Nat.lt_one_iff] at hr
    rw [hr]
    exact hfin
  have hperm := (h.of_run hrun hquiet).pool.length_eq
  rw [hlength] at hperm
  exact absurd hperm (by decide)

end WirelessEsp.ApiServer
