import Mathlib.Data.List.Basic

namespace WirelessEsp.ConnectAttempt

/-- The connection part of `wifi_event_ctx_t`, over any callbacks; a missing callback is `NULL`. -/
structure EventCtx (κ : Type) where
  cb : Option κ
  arg : Nat
  disconnHandler : Bool
  attempt : UInt8
  isConnected : Bool

/-- What the handlers call: the driver, the callback of the attempt with its argument and the IP
event or `NULL`, and the handler of losses. -/
inductive Call (κ ε : Type)
  | espWifiConnect
  | espWifiDisconnect
  | callback (cb : κ) (arg : Nat) (event : Option ε)
  | disconnHandler

/-- `err` is what `esp_wifi_connect` returns, where the event makes that call. -/
inductive Event (ε : Type)
  | staConnected
  | staDisconnected (err : Int)
  | gotIp (event : ε)

variable {κ ε : Type}

def wifiEventTriggerConnect (attempt : UInt8) (cb : κ) (arg : Nat) (err : Int) (e : EventCtx κ) :
    Int × List (Call κ ε) × EventCtx κ :=
  let e := { e with attempt, cb := some cb, arg }
  if e.isConnected then (err, [.espWifiDisconnect], e) else (err, [.espWifiConnect], e)

def eventOnConnected (event : ε) (e : EventCtx κ) : List (Call κ ε) × EventCtx κ :=
  let calls := match e.cb with
    | some cb => [.callback cb e.arg (some event)]
    | none => []
  (calls, { e with attempt := 0, cb := none, arg := 0 })

/-- The part of `reconnect_after_disco` behind its label. -/
def giveUp (e : EventCtx κ) : List (Call κ ε) × EventCtx κ :=
  let calls := match e.cb with
    | some cb => [.callback cb e.arg none]
    | none => if e.disconnHandler then [.disconnHandler] else []
  (calls, { e with cb := none, arg := 0 })

def reconnectAfterDisco (err : Int) (e : EventCtx κ) : List (Call κ ε) × EventCtx κ :=
  if e.attempt = 0 then giveUp e
  else if err ≠ 0 then
    let (calls, e) := giveUp { e with attempt := 0 }
    (.espWifiConnect :: calls, e)
  else ([.espWifiConnect], { e with attempt := e.attempt - 1 })

/-- `wifi_event_handler` and `ip_event_handler` on the events of a connection. -/
def handle (e : EventCtx κ) : Event ε → List (Call κ ε) × EventCtx κ
  | .staConnected => ([], { e with isConnected := true })
  | .staDisconnected err => reconnectAfterDisco err { e with isConnected := false }
  | .gotIp event => eventOnConnected event e

def after (e : EventCtx κ) : List (Event ε) → EventCtx κ
  | [] => e
  | ev :: evs => after (handle e ev).2 evs

/-- All the calls that the events of a list lead to. -/
def calls (e : EventCtx κ) : List (Event ε) → List (Call κ ε)
  | [] => []
  | ev :: evs => (handle e ev).1 ++ calls (handle e ev).2 evs

def Call.isConnect : Call κ ε → Bool
  | .espWifiConnect => true
  | _ => false

def Call.isCallback : Call κ ε → Bool
  | .callback _ _ _ => true
  | _ => false

/-- The events that do not end an attempt: all but an IP address and a loss after which the driver
does not connect. -/
def Event.continues : Event ε → Bool
  | .staConnected => true
  | .staDisconnected err => err == 0
  | .gotIp _ => false

def Event.isDisconnect : Event ε → Bool
  | .staDisconnected _ => true
  | _ => false

def disconnects (evs : List (Event ε)) : Nat := evs.countP Event.isDisconnect

/-- With `a` retries, the attempt is not yet decided after these events. -/
def Pending (a : Nat) (evs : List (Event ε)) : Prop :=
  disconnects evs ≤ a ∧ ∀ ev ∈ evs, ev.continues = true

/-- How an event decides an attempt that has seen `n` losses before. -/
def decision (a n : Nat) : Event ε → Option (Option ε)
  | .staConnected => none
  | .staDisconnected err => if n = a ∨ err ≠ 0 then some none else none
  | .gotIp event => some (some event)

/-- The attempt of a trigger with `a` retries, from `e` on: the callback comes once at most, with
the event that decides the attempt; there are at most `a + 1` connections, the trigger's own
included; and no loss is taken for one from outside before the callback has come. -/
structure Attempts (a : Nat) (cb : κ) (arg own : Nat) (e : EventCtx κ) : Prop where
  once : ∀ evs : List (Event ε), (calls e evs).countP Call.isCallback ≤ 1
  decided : ∀ (evs : List (Event ε)) (ev : Event ε) (c : κ) (x : Nat) (event : Option ε),
    .callback c x event ∈ (handle (after e evs) ev).1 ↔
      c = cb ∧ x = arg ∧ Pending a evs ∧ decision a (disconnects evs) ev = some event
  connects : ∀ evs : List (Event ε), own + (calls e evs).countP Call.isConnect ≤ a + 1
  lost : ∀ (evs : List (Event ε)) (ev : Event ε),
    .disconnHandler ∈ (handle (after e evs) ev).1 → ∃ event, .callback cb arg event ∈ calls e evs

/-- The context of an attempt that is not decided and has seen `n` losses. -/
structure Trying (a : Nat) (cb : κ) (arg n : Nat) (e : EventCtx κ) : Prop where
  cb : e.cb = some cb
  arg : e.arg = arg
  attempt : e.attempt.toNat + n = a

structure Over (e : EventCtx κ) : Prop where
  cb : e.cb = none
  attempt : e.attempt = 0

variable {a n arg : Nat} {cb : κ} {e : EventCtx κ} {ev : Event ε}

theorem Over.handle (h : Over e) (ev : Event ε) : Over (handle e ev).2 := by
  cases ev with
  | staConnected => exact ⟨h.cb, h.attempt⟩
  | staDisconnected err =>
      simp only [ConnectAttempt.handle, reconnectAfterDisco, h.attempt, if_true, giveUp]
      exact ⟨rfl, rfl⟩
  | gotIp event => exact ⟨rfl, rfl⟩

theorem Over.calls (h : Over e) (ev : Event ε) :
    (ConnectAttempt.handle e ev).1 = [] ∨ (ConnectAttempt.handle e ev).1 = [.disconnHandler] := by
  cases ev with
  | staConnected => exact .inl rfl
  | staDisconnected err =>
      simp only [ConnectAttempt.handle, reconnectAfterDisco, h.attempt, if_true, giveUp, h.cb]
      cases e.disconnHandler with
      | true => exact .inr rfl
      | false => exact .inl rfl
  | gotIp event =>
      refine .inl ?_
      simp only [ConnectAttempt.handle, eventOnConnected, h.cb]

theorem Trying.decide (h : Trying a cb arg n e) {event : Option ε}
    (hd : decision a n ev = some event) : Over (handle e ev).2 ∧
      ∃ pre : List (Call κ ε), (handle e ev).1 = pre ++ [.callback cb arg event] ∧
        (pre = [] ∨ pre = [.espWifiConnect] ∧ n < a) := by
  have hattempt := h.attempt
  cases ev with
  | staConnected => cases hd
  | staDisconnected err =>
      rw [decision] at hd
      split at hd
      next hc =>
        cases hd
        by_cases hzero : e.attempt = 0
        · simp only [handle, reconnectAfterDisco, hzero, if_true, giveUp, h.cb, h.arg]
          exact ⟨⟨rfl, rfl⟩, [], rfl, .inl rfl⟩
        · have hpos : e.attempt.toNat ≠ 0 := fun h0 => hzero (UInt8.toNat_inj.mp h0)
          have herr : err ≠ 0 := hc.resolve_left (by omega)
          simp only [handle, reconnectAfterDisco, hzero, if_false, herr, ne_eq, not_false_eq_true,
            if_true, giveUp, h.cb, h.arg]
          exact ⟨⟨rfl, rfl⟩, [.espWifiConnect], rfl, .inr ⟨rfl, by omega⟩⟩
      next => cases hd
  | gotIp event =>
      cases hd
      simp only [handle, eventOnConnected, h.cb, h.arg]
      exact ⟨⟨rfl, rfl⟩, [], rfl, .inl rfl⟩

theorem Trying.go (h : Trying a cb arg n e) (hd : decision a n ev = none) :
    ev.continues = true ∧ n + (if ev.isDisconnect then 1 else 0) ≤ a ∧
    Trying a cb arg (n + if ev.isDisconnect then 1 else 0) (handle e ev).2 ∧
    (handle e ev).1 = if ev.isDisconnect then [.espWifiConnect] else [] := by
  have hattempt := h.attempt
  cases ev with
  | staConnected =>
      refine ⟨rfl, ?_, ⟨h.cb, h.arg, h.attempt⟩, rfl⟩
      show n ≤ a
      omega
  | staDisconnected err =>
      rw [decision] at hd
      split at hd
      next => cases hd
      next hc =>
        rw [not_or, not_not] at hc
        obtain ⟨hn, rfl⟩ := hc
        have hpos : e.attempt.toNat ≠ 0 := by omega
        have hzero : e.attempt ≠ 0 := fun h0 => hpos (congrArg UInt8.toNat h0)
        have hone : (1 : UInt8) ≤ e.attempt := by
          rw [UInt8.le_iff_toNat_le]
          exact Nat.one_le_iff_ne_zero.mpr hpos
        simp only [handle, reconnectAfterDisco, hzero, if_false, ne_eq, not_true_eq_false,
          Event.isDisconnect, if_true]
        refine ⟨rfl, by omega, ⟨h.cb, h.arg, ?_⟩, trivial⟩
        rw [UInt8.toNat_sub_of_le _ _ hone]
        show e.attempt.toNat - 1 + (n + 1) = a
        omega
  | gotIp event => cases hd

theorem decision_ends (hd : decision a n ev ≠ none) (evs : List (Event ε)) :
    ¬ (n + disconnects (ev :: evs) ≤ a ∧ ∀ ev' ∈ ev :: evs, ev'.continues = true) := by
  rintro ⟨hle, hall⟩
  have hcont := hall ev List.mem_cons_self
  cases ev with
  | staConnected => exact hd rfl
  | staDisconnected err =>
      apply hd
      rw [decision, if_neg]
      rintro (hn | herr)
      · rw [disconnects, List.countP_cons_of_pos (by rfl)] at hle
        omega
      · exact herr (beq_iff_eq.mp hcont)
  | gotIp event => cases hcont

theorem Over.after (h : Over e) (evs : List (Event ε)) :
    Over (after e evs) ∧ (ConnectAttempt.calls e evs).countP Call.isCallback = 0 ∧
      (ConnectAttempt.calls e evs).countP Call.isConnect = 0 := by
  induction evs generalizing e with
  | nil => exact ⟨h, rfl, rfl⟩
  | cons ev evs ih =>
      obtain ⟨hover, hcallback, hconnect⟩ := ih (h.handle ev)
      refine ⟨hover, ?_, ?_⟩
      · rw [ConnectAttempt.calls, List.countP_append, hcallback]
        rcases h.calls ev with hc | hc <;> rw [hc] <;> rfl
      · rw [ConnectAttempt.calls, List.countP_append, hconnect]
        rcases h.calls ev with hc | hc <;> rw [hc] <;> rfl

theorem Trying.after (h : Trying a cb arg n e) (evs : List (Event ε)) :
    (n + disconnects evs ≤ a ∧ (∀ ev ∈ evs, ev.continues = true) ∧
      Trying a cb arg (n + disconnects evs) (after e evs)) ∨
    (¬ (n + disconnects evs ≤ a ∧ ∀ ev ∈ evs, ev.continues = true) ∧ Over (after e evs) ∧
      ∃ event, .callback cb arg event ∈ calls e evs) := by
  induction evs generalizing n e with
  | nil =>
      refine .inl ⟨?_, fun _ hev => (by cases hev), h⟩
      have hattempt := h.attempt
      show n ≤ a
      omega
  | cons ev evs ih =>
      cases hd : decision a n ev with
      | some event =>
          obtain ⟨hover, pre, hcalls, -⟩ := h.decide (κ := κ) hd
          refine .inr ⟨decision_ends (by simp [hd]) evs, (hover.after evs).1, event, ?_⟩
          rw [calls, hcalls]
          simp
      | none =>
          obtain ⟨hcont, hle, hgo, hcalls⟩ := h.go (κ := κ) hd
          have hn : n + disconnects (ev :: evs) =
              n + (if ev.isDisconnect then 1 else 0) + disconnects evs := by
            rw [disconnects, List.countP_cons, disconnects]
            omega
          rw [hn]
          simp only [List.forall_mem_cons, hcont, true_and]
          rcases ih hgo with hin | ⟨hnot, hover, event, hcall⟩
          · exact .inl hin
          · refine .inr ⟨hnot, hover, event, ?_⟩
            rw [calls]
            exact List.mem_append_right _ hcall

theorem Trying.counts (h : Trying a cb arg n e) (evs : List (Event ε)) :
    (calls e evs).countP Call.isCallback ≤ 1 ∧
      n + (calls e evs).countP Call.isConnect ≤ a := by
  induction evs generalizing n e with
  | nil =>
      have hattempt := h.attempt
      exact ⟨Nat.zero_le _, (by show n ≤ a; omega)⟩
  | cons ev evs ih =>
      have hattempt := h.attempt
      simp only [calls, List.countP_append]
      cases hd : decision a n ev with
      | some event =>
          obtain ⟨hover, pre, hcalls, hpre⟩ := h.decide (κ := κ) hd
          obtain ⟨-, hcallback, hconnect⟩ := hover.after evs
          rw [hcalls, hcallback, hconnect]
          rcases hpre with rfl | ⟨rfl, hlt⟩
          · refine ⟨Nat.le_refl 1, ?_⟩
            show n + 0 ≤ a
            omega
          · exact ⟨Nat.le_refl 1, hlt⟩
      | none =>
          obtain ⟨-, -, hgo, hcalls⟩ := h.go (κ := κ) hd
          obtain ⟨hcallback, hconnect⟩ := ih hgo
          rw [hcalls]
          cases hdisc : ev.isDisconnect with
          | true =>
              rw [hdisc, if_pos rfl] at hconnect
              have hone : ([.espWifiConnect] : List (Call κ ε)).countP Call.isCallback = 0 ∧
                  ([.espWifiConnect] : List (Call κ ε)).countP Call.isConnect = 1 := ⟨rfl, rfl⟩
              rw [if_pos rfl, hone.1, hone.2]
              exact ⟨by omega, by omega⟩
          | false =>
              rw [hdisc, if_neg Bool.false_ne_true] at hconnect
              rw [if_neg Bool.false_ne_true, List.countP_nil, List.countP_nil]
              exact ⟨by omega, by omega⟩

theorem trigger_trying (attempt : UInt8) (cb : κ) (arg : Nat) (err : Int) (e : EventCtx κ) :
    Trying attempt.toNat cb arg 0 (wifiEventTriggerConnect (ε := ε) attempt cb arg err e).2.2 := by
  rw [wifiEventTriggerConnect]
  cases e.isConnected <;> exact ⟨rfl, rfl, rfl⟩

theorem trigger_connects (attempt : UInt8) (cb : κ) (arg : Nat) (err : Int) (e : EventCtx κ) :
    (wifiEventTriggerConnect (ε := ε) attempt cb arg err e).2.1.countP Call.isConnect ≤ 1 := by
  rw [wifiEventTriggerConnect]
  cases e.isConnected
  · exact Nat.le_refl 1
  · exact Nat.zero_le 1

theorem Trying.attempts (h : Trying a cb arg 0 e) {own : Nat} (hown : own ≤ 1) :
    Attempts (ε := ε) a cb arg own e where
  once evs := (h.counts evs).1
  decided evs ev c x event := by
    rcases h.after evs with ⟨hle, hall, htry⟩ | ⟨hnot, hover, -⟩
    · rw [Nat.zero_add] at hle htry
      cases hd : decision a (disconnects evs) ev with
      | some event' =>
          obtain ⟨-, pre, hcalls, hpre⟩ := htry.decide (κ := κ) hd
          have hpending : Pending a evs := ⟨hle, hall⟩
          rw [hcalls, Option.some.injEq, @eq_comm _ event' event]
          rcases hpre with rfl | ⟨rfl, -⟩ <;> simp [hpending]
      | none =>
          obtain ⟨-, -, -, hcalls⟩ := htry.go (κ := κ) hd
          rw [hcalls]
          cases ev.isDisconnect <;> simp
    · rw [Nat.zero_add] at hnot
      have hpending : ¬ Pending a evs := hnot
      rcases hover.calls ev with hc | hc <;> rw [hc] <;> simp [hpending]
  connects evs := by
    have hconnect := (h.counts evs).2
    omega
  lost evs ev hlost := by
    rcases h.after evs with ⟨-, -, htry⟩ | ⟨-, -, hcall⟩
    · cases hd : decision a (0 + disconnects evs) ev with
      | some event' =>
          obtain ⟨-, pre, hcalls, hpre⟩ := htry.decide (κ := κ) hd
          rw [hcalls] at hlost
          rcases hpre with rfl | ⟨rfl, -⟩ <;> simp at hlost
      | none =>
          obtain ⟨-, -, -, hcalls⟩ := htry.go (κ := κ) hd
          rw [hcalls] at hlost
          cases hdisc : ev.isDisconnect <;> simp [hdisc] at hlost
    · exact hcall

/-- Whatever the call of the driver in the trigger returns. -/
theorem attempts_of_trigger (attempt : UInt8) (cb : κ) (arg : Nat) (err : Int) (e : EventCtx κ) :
    let r := wifiEventTriggerConnect (ε := ε) attempt cb arg err e
    Attempts (ε := ε) attempt.toNat cb arg (r.2.1.countP Call.isConnect) r.2.2 :=
  (trigger_trying attempt cb arg err e).attempts (trigger_connects attempt cb arg err e)

/-- Nothing of an attempt is left: its callback never comes, and the next loss is one from
outside. -/
structure Unregistered (ε : Type) (cb : κ) (e : EventCtx κ) : Prop where
  silent : ∀ (evs : List (Event ε)) (arg : Nat) (event : Option ε),
    .callback cb arg event ∉ calls e evs
  lost : ∀ (evs : List (Event ε)) (err : Int), disconnects evs = 0 →
    .disconnHandler ∈ (handle (after e evs) (.staDisconnected err : Event ε)).1

theorem Trying.calls_back (h : Trying a cb arg n e) {err : Int} (herr : err ≠ 0) :
    .callback cb arg (none : Option ε) ∈ calls e [.staDisconnected err] := by
  have hd : decision (ε := ε) a n (.staDisconnected err) = some none := if_pos (.inr herr)
  obtain ⟨-, pre, hcalls, -⟩ := h.decide (κ := κ) hd
  simp only [calls, hcalls, List.append_nil]
  exact List.mem_append_right _ List.mem_cons_self

theorem Trying.not_unregistered (h : Trying a cb arg n e) : ¬ Unregistered ε cb e :=
  fun hu => hu.silent [.staDisconnected 1] arg none (h.calls_back Int.one_ne_zero)

/-- A trigger that fails leaves its callback registered, whatever the context it is made in. -/
theorem unregistered_iff_succeeds (attempt : UInt8) (cb : κ) (arg : Nat) (err : Int)
    (e : EventCtx κ) :
    ((wifiEventTriggerConnect (ε := ε) attempt cb arg err e).1 ≠ 0 →
      Unregistered ε cb (wifiEventTriggerConnect (ε := ε) attempt cb arg err e).2.2) ↔
      err = 0 := by
  have hret : (wifiEventTriggerConnect (ε := ε) attempt cb arg err e).1 = err := by
    rw [wifiEventTriggerConnect]
    cases e.isConnected <;> rfl
  rw [hret]
  constructor
  · intro h
    by_contra herr
    exact (trigger_trying attempt cb arg err e).not_unregistered (h herr)
  · intro herr hne
    exact absurd herr hne

/-- The driver refuses the connection of the reconnection task, and an address comes later. -/
theorem not_unregistered_always :
    ¬ ((wifiEventTriggerConnect (ε := Nat) 0 7 0 0x3002 ⟨none, 0, true, 0, false⟩).1 ≠ 0 →
      Unregistered Nat 7
        (wifiEventTriggerConnect (ε := Nat) 0 7 0 0x3002 ⟨none, 0, true, 0, false⟩).2.2) := by
  intro h
  exact (h (by decide)).silent [.gotIp 5] 0 (some 5) List.mem_cons_self

end WirelessEsp.ConnectAttempt
