import WirelessEsp.StaticConf
import WirelessEsp.WifiContext
import WirelessEsp.Transition

namespace WirelessEsp.ApAutoDelay

open WifiManager (ApstaMode wifiModeSta wifiModeAp wifiModeApsta)
open StaticConf (Member Request)
open Transition

/-- The conversions of the kernel, which divide by the tick rate as long as no product leaves
`TickType_t`. The rate is 100 or 1000. -/
structure TickRate where
  hz : Nat
  hz_dvd : hz ∣ 1000
  pdMsToTicks : Int → UInt32
  pdTicksToMs : UInt32 → Int
  pdMsToTicks_eq : ∀ ms : Nat, ms * hz < 2 ^ 32 → (pdMsToTicks ms).toNat = ms * hz / 1000
  pdTicksToMs_eq : ∀ t : UInt32, t.toNat * 1000 < 2 ^ 32 → t.toNat * 1000 / hz < 2 ^ 31 →
    pdTicksToMs t = (t.toNat * 1000 / hz : Nat)

/-- A task that waits first and acts then; `past` counts those that skip the wait. -/
structure Tasks where
  created : Nat
  waiting : Nat
  past : Nat
  deriving DecidableEq

def Tasks.create (k : Tasks) : Tasks := { k with created := k.created + 1 }

/-- `wifi_ctx_t` as far as the mode and the delays go, with the tasks that are delayed. -/
structure State where
  apOnDelayTick : UInt32
  apOffDelayTick : UInt32
  permanentMode : ApstaMode
  mode : UInt32
  isStaConnected : Bool
  tryConnectCount : UInt32
  delayedStop : Tasks
  delayedStart : Tasks

def apstaMode (value : UInt32) : ApstaMode :=
  if value = 0 then .apAutoStaOn
  else if value = 4 then .apStaOff
  else if value = 5 then .apOffStaOn
  else if value = 6 then .apOnStaOff
  else if value = 7 then .apStaOn
  else if value = 8 then .apStop
  else if value = 9 then .apStart
  else if value = 10 then .staStop
  else if value = 11 then .staStart
  else if h : value ∉ [0, 4, 5, 6, 7, 8, 9, 10, 11] then .other value h
  else .apAutoStaOn

section Manager

variable (rate : TickRate)

/-- `saved` is the mode that the storage has. -/
def wifiManagerInit (saved : Option UInt8) : State :=
  let mode := match saved with
    | none => wifiModeApsta
    | some m =>
        if m.toUInt32 &&& 3 = wifiModeSta ∨ m.toUInt32 &&& 3 = 0 then wifiModeApsta
        else m.toUInt32 &&& 3
  { apOnDelayTick := rate.pdMsToTicks 5000, apOffDelayTick := rate.pdMsToTicks 10000
    permanentMode := match saved with
      | none => .apAutoStaOn
      | some m => apstaMode m.toUInt32
    mode := mode, isStaConnected := false, tryConnectCount := 0
    delayedStop := ⟨0, 0, 0⟩, delayedStart := ⟨0, 0, 0⟩ }

def handleWifiConnected (s : State) : State :=
  let s := { s with isStaConnected := true }
  if s.permanentMode ≠ .apAutoStaOn then s else { s with delayedStop := s.delayedStop.create }

def handleWifiDisconnected (s : State) : State :=
  let s := { s with isStaConnected := false }
  if s.permanentMode ≠ .apAutoStaOn then s
  else { s with tryConnectCount := s.tryConnectCount + 1, delayedStart := s.delayedStart.create }

def applyMode (driver : Nat) (newMode : UInt32) (s : State) : State × Nat :=
  if newMode = s.mode then (s, 0)
  else if driver ≠ 0 then (s, driver)
  else
    let t :=
      if s.mode &&& wifiModeSta = 0 ∧ newMode &&& wifiModeSta ≠ 0 then handleWifiDisconnected s
      else s
    ({ t with mode := newMode }, 0)

def setWifiMode (driver : Nat) (mode : ApstaMode) (s : State) : State × Nat :=
  match mode with
  | .other _ _ => (s, 1)
  | .apAutoStaOn =>
      applyMode driver (if s.isStaConnected then wifiModeSta else wifiModeApsta)
        { s with permanentMode := mode }
  | .apStaOff | .apOnStaOff | .apOffStaOn | .apStaOn =>
      applyMode driver (mode.value &&& ~~~ApstaMode.apStaOff.value) { s with permanentMode := mode }
  | .apStop => applyMode driver (s.mode &&& ~~~wifiModeAp) s
  | .apStart => applyMode driver (s.mode ||| wifiModeAp) s
  | .staStop => applyMode driver (s.mode &&& ~~~wifiModeSta) s
  | .staStart => applyMode driver (s.mode ||| wifiModeSta) s

/-- What the lock, the driver and the storage answer. -/
structure Answers where
  take : Bool
  driver : Nat
  save : Nat

def wifiManagerChangeMode (answers : Answers) (mode : ApstaMode) (s : State) : State × Nat :=
  if s.permanentMode = mode then (s, 0)
  else if !answers.take then (s, 1)
  else
    let (t, err) := setWifiMode answers.driver mode s
    if err ≠ 0 then (t, err)
    else if mode.value ≥ ApstaMode.apStop.value then (t, 0)
    else (t, answers.save)

def wifiManagerGetApAutoDelay (s : State) : Int × Int :=
  (rate.pdTicksToMs s.apOnDelayTick, rate.pdTicksToMs s.apOffDelayTick)

def wifiManagerSetApAutoDelay (apOnDelay apOffDelay : Int) (s : State) : State × (Int × Int) :=
  let s := { s with apOnDelayTick := rate.pdMsToTicks apOnDelay }
  let s := { s with apOnDelayTick := rate.pdMsToTicks apOffDelay }
  (s, wifiManagerGetApAutoDelay rate s)

def wifiManagerGetMode (s : State) : ApstaMode × UInt32 := (s.permanentMode, s.mode)

def delayedSetApStopWait : UInt32 := rate.pdMsToTicks 30000

/-- The ticks that `delayed_set_ap_start` waits, if it waits. -/
def delayedSetApStartWait (s : State) : Option UInt32 :=
  if s.tryConnectCount > 5 then none else some (rate.pdMsToTicks 10000)

def delayedSetApStop (ret : UInt32) (driver : Nat) (s : State) : State :=
  if ret = 0 then { (setWifiMode driver .apStop s).1 with tryConnectCount := 0 } else s

def delayedSetApStart (ret : UInt32) (driver : Nat) (s : State) : State :=
  if ret = 0 ∧ s.permanentMode = .apAutoStaOn then
    { (setWifiMode driver .apStart s).1 with tryConnectCount := 0 }
  else s

end Manager

def wifiApiJsonUtilsGetInt (req : Request) (name : String) : Option Int :=
  match req name with
  | .number valueint => some valueint
  | _ => none

/-- `req->out`, where the first field is the command in the header. -/
inductive Reply
  | nothing
  | err (msg : String)
  | apAuto (cmd : Nat) (mode : ApstaMode) (apOnDelay apOffDelay : Int)
  | mode (cmd : Nat) (mode : ApstaMode) (status : UInt32) (delays : Option (Int × Int))

def wifiApiJsonSerializeApAuto (mode : ApstaMode) (apOnDelay apOffDelay : Int) : Reply :=
  .apAuto 3 mode apOnDelay apOffDelay

def delayItems (apOnDelay apOffDelay : Int) : Option (Int × Int) :=
  if apOnDelay ≥ 0 ∧ apOffDelay ≥ 0 then some (apOnDelay, apOffDelay) else none

def wifiApiJsonSerializeGetMode (mode : ApstaMode) (status : UInt32) (apOnDelay apOffDelay : Int) :
    Reply :=
  .mode 6 mode status (delayItems apOnDelay apOffDelay)

section Requests

variable (rate : TickRate)

def wifiApiJsonSetMode (answers : Answers) (req : Request) (s : State) : State × Reply :=
  match wifiApiJsonUtilsGetInt req "mode" with
  | none => (s, .err "'mode' attribute missing")
  | some value =>
      let mode := apstaMode (UInt32.ofInt value)
      let (t, err) := wifiManagerChangeMode answers mode s
      if err ≠ 0 then (t, .err "Change mode Failed")
      else if mode = .apAutoStaOn then
        match wifiApiJsonUtilsGetInt req "ap_on_delay",
          wifiApiJsonUtilsGetInt req "ap_off_delay" with
        | some apOnDelay, some apOffDelay =>
            let (u, delays) := wifiManagerSetApAutoDelay rate apOnDelay apOffDelay t
            (u, wifiApiJsonSerializeApAuto mode delays.1 delays.2)
        | _, _ => (t, .nothing)
      else (t, .nothing)

def wifiApiJsonGetMode (s : State) : Reply :=
  let (mode, status) := wifiManagerGetMode s
  if mode = .apAutoStaOn then
    let (apOnDelay, apOffDelay) := wifiManagerGetApAutoDelay rate s
    wifiApiJsonSerializeGetMode mode status apOnDelay apOffDelay
  else wifiApiJsonSerializeGetMode mode status (-1) (-1)

inductive Event
  | setMode (answers : Answers) (req : Request)
  | getMode
  | connected
  | disconnected
  | stopEnters
  | stopWakes (ret : UInt32) (driver : Nat)
  | startEnters
  | startWakes (ret : UInt32) (driver : Nat)
  | startGoesOn (driver : Nat)

inductive Observation
  | none
  | reply (r : Reply)
  | stopWaits (ticks : UInt32)
  | startWaits (ticks : UInt32)

def step (s : State) : Event → Option (State × Observation)
  | .setMode answers req =>
      let (t, r) := wifiApiJsonSetMode rate answers req s
      some (t, .reply r)
  | .getMode => some (s, .reply (wifiApiJsonGetMode rate s))
  | .connected => some (handleWifiConnected s, .none)
  | .disconnected => some (handleWifiDisconnected s, .none)
  | .stopEnters =>
      if s.delayedStop.created = 0 then none
      else some ({ s with delayedStop := { s.delayedStop with
          created := s.delayedStop.created - 1, waiting := s.delayedStop.waiting + 1 } },
        .stopWaits (delayedSetApStopWait rate))
  | .stopWakes ret driver =>
      if s.delayedStop.waiting = 0 then none
      else some (delayedSetApStop ret driver { s with delayedStop :=
          { s.delayedStop with waiting := s.delayedStop.waiting - 1 } }, .none)
  | .startEnters =>
      if s.delayedStart.created = 0 then none
      else
        let k := { s.delayedStart with created := s.delayedStart.created - 1 }
        match delayedSetApStartWait rate s with
        | some ticks => some ({ s with delayedStart := { k with waiting := k.waiting + 1 } },
            .startWaits ticks)
        | Option.none => some ({ s with delayedStart := { k with past := k.past + 1 } }, .none)
  | .startWakes ret driver =>
      if s.delayedStart.waiting = 0 then none
      else some (delayedSetApStart ret driver { s with delayedStart :=
          { s.delayedStart with waiting := s.delayedStart.waiting - 1 } }, .none)
  | .startGoesOn driver =>
      if s.delayedStart.past = 0 then none
      else some (delayedSetApStart 0 driver { s with delayedStart :=
          { s.delayedStart with past := s.delayedStart.past - 1 } }, .none)

def next (s : State) (e : Event) : Option State := (step rate s e).map Prod.fst

/-- The request names the automatic mode and two delays, and the answer repeats them. -/
structure Accepted (answers : Answers) (req : Request) (s : State) (a b : Nat) : Prop where
  mode : wifiApiJsonUtilsGetInt req "mode" = some 0
  apOnDelay : wifiApiJsonUtilsGetInt req "ap_on_delay" = some (a : Int)
  apOffDelay : wifiApiJsonUtilsGetInt req "ap_off_delay" = some (b : Int)
  reply : ∃ on off, (wifiApiJsonSetMode rate answers req s).2 =
    wifiApiJsonSerializeApAuto .apAutoStaOn on off

def Reply.IsApAuto : Reply → Prop
  | .apAuto _ _ _ _ => True
  | _ => False

/-- The event is not such a request. -/
def Quiet (s : State) (e : Event) : Prop :=
  ∀ t r, step rate s e = some (t, .reply r) → ¬ r.IsApAuto

def roundDown (ms : Nat) : Nat := ms - ms % (1000 / rate.hz)

def Promised (a b : Nat) (s : State) : Observation → Prop
  | .reply (.mode _ mode _ delays) => mode = .apAutoStaOn →
      delays = some ((roundDown rate a : Int), (roundDown rate b : Int)) ∧
        (wifiManagerSetApAutoDelay rate (roundDown rate a) (roundDown rate b) s).1 = s
  | .startWaits ticks => ticks = rate.pdMsToTicks a
  | .stopWaits ticks => ticks = rate.pdMsToTicks b
  | _ => True

/-- Until the next such request everything that is observed is as promised. -/
def RoundTrip (a b : Nat) (s : State) : Prop :=
  ∀ events, Meets (next rate) (Quiet rate) s events →
    Meets (next rate) (fun s e => ∀ t o, step rate s e = some (t, o) → Promised rate a b s o)
      s events

end Requests

namespace TickRate

variable (rate : TickRate)

theorem hz_pos : 0 < rate.hz := Nat.pos_of_dvd_of_pos rate.hz_dvd (by omega)

theorem hz_le : rate.hz ≤ 1000 := Nat.le_of_dvd (by omega) rate.hz_dvd

theorem pdMsToTicks_toNat (ms : Nat) (h : ms * rate.hz < 2 ^ 32) :
    (rate.pdMsToTicks ms).toNat = ms / (1000 / rate.hz) := by
  obtain ⟨period, hp⟩ := rate.hz_dvd
  rw [rate.pdMsToTicks_eq ms h, hp, Nat.mul_div_cancel_left period rate.hz_pos, Nat.mul_comm ms,
    Nat.mul_div_mul_left ms period rate.hz_pos]

theorem pdTicksToMs_toNat (t : UInt32) (h : t.toNat * 1000 < 2 ^ 32)
    (hi : t.toNat * (1000 / rate.hz) < 2 ^ 31) :
    rate.pdTicksToMs t = (t.toNat * (1000 / rate.hz) : Nat) := by
  rw [← Nat.mul_div_assoc t.toNat rate.hz_dvd] at hi ⊢
  exact rate.pdTicksToMs_eq t h hi

theorem roundDown_eq (ms : Nat) :
    roundDown rate ms = ms / (1000 / rate.hz) * (1000 / rate.hz) := by
  rw [roundDown, Nat.mul_comm]
  exact Nat.mul_div_self_eq_mod_sub_self.symm

theorem pdTicksToMs_pdMsToTicks (ms : Nat) (h : ms * rate.hz < 2 ^ 32) (hi : ms < 2 ^ 31) :
    rate.pdTicksToMs (rate.pdMsToTicks ms) = (roundDown rate ms : Nat) := by
  have hticks := rate.pdMsToTicks_toNat ms h
  rw [rate.pdTicksToMs_toNat, hticks, rate.roundDown_eq]
  · rw [rate.pdMsToTicks_eq ms h]
    exact Nat.lt_of_le_of_lt (Nat.div_mul_le_self _ _) h
  · rw [hticks, ← rate.roundDown_eq]
    exact Nat.lt_of_le_of_lt (Nat.sub_le _ _) hi

end TickRate

def delays (s : State) : UInt32 × UInt32 := (s.apOnDelayTick, s.apOffDelayTick)

theorem handleWifiDisconnected_delays (s : State) :
    delays (handleWifiDisconnected s) = delays s := by
  simp only [handleWifiDisconnected]
  split <;> rfl

theorem handleWifiDisconnected_permanentMode (s : State) :
    (handleWifiDisconnected s).permanentMode = s.permanentMode := by
  simp only [handleWifiDisconnected]
  split <;> rfl

theorem applyMode_delays (driver : Nat) (newMode : UInt32) (s : State) :
    delays (applyMode driver newMode s).1 = delays s := by
  simp only [applyMode]
  split
  · rfl
  · split
    · rfl
    · split
      · exact handleWifiDisconnected_delays s
      · rfl

theorem applyMode_permanentMode (driver : Nat) (newMode : UInt32) (s : State) :
    (applyMode driver newMode s).1.permanentMode = s.permanentMode := by
  simp only [applyMode]
  split
  · rfl
  · split
    · rfl
    · split
      · exact handleWifiDisconnected_permanentMode s
      · rfl

theorem setWifiMode_delays (driver : Nat) (mode : ApstaMode) (s : State) :
    delays (setWifiMode driver mode s).1 = delays s := by
  cases mode <;> first | rfl | exact applyMode_delays driver _ _

theorem wifiManagerChangeMode_delays (answers : Answers) (mode : ApstaMode) (s : State) :
    delays (wifiManagerChangeMode answers mode s).1 = delays s := by
  have hset := setWifiMode_delays answers.driver mode s
  simp only [wifiManagerChangeMode]
  split
  · rfl
  · split
    · rfl
    · split
      · exact hset
      · split <;> exact hset

theorem wifiManagerChangeMode_auto {answers : Answers} {s : State}
    (h : (wifiManagerChangeMode answers .apAutoStaOn s).2 = 0) :
    (wifiManagerChangeMode answers .apAutoStaOn s).1.permanentMode = .apAutoStaOn := by
  have hset : (setWifiMode answers.driver .apAutoStaOn s).1.permanentMode = .apAutoStaOn :=
    applyMode_permanentMode answers.driver _ _
  simp only [wifiManagerChangeMode] at h ⊢
  by_cases hsame : s.permanentMode = .apAutoStaOn
  · rw [if_pos hsame]; exact hsame
  · simp only [if_neg hsame] at h ⊢
    by_cases htake : answers.take
    · simp only [htake, Bool.not_true, Bool.false_eq_true, if_false] at h ⊢
      split
      · exact hset
      · split <;> exact hset
    · simp only [htake] at h
      cases h

section Runs

variable (rate : TickRate)

/-- A request leaves the delays alone, or it is one of those that set them: the second delay ends
up where the first one belongs. -/
theorem wifiApiJsonSetMode_cases (answers : Answers) (req : Request) (s : State) :
    (delays (wifiApiJsonSetMode rate answers req s).1 = delays s ∧
      ¬ (wifiApiJsonSetMode rate answers req s).2.IsApAuto) ∨
    ∃ on off, wifiApiJsonUtilsGetInt req "ap_on_delay" = some on ∧
      wifiApiJsonUtilsGetInt req "ap_off_delay" = some off ∧
      (wifiApiJsonSetMode rate answers req s).1.permanentMode = .apAutoStaOn ∧
      delays (wifiApiJsonSetMode rate answers req s).1 =
        (rate.pdMsToTicks off, s.apOffDelayTick) ∧
      (wifiApiJsonSetMode rate answers req s).2.IsApAuto := by
  simp only [wifiApiJsonSetMode]
  split
  next => exact .inl ⟨rfl, id⟩
  next value hvalue =>
    generalize hmode : apstaMode (UInt32.ofInt value) = mode
    have hkept := wifiManagerChangeMode_delays answers mode s
    by_cases herr : (wifiManagerChangeMode answers mode s).2 = 0
    · rw [if_neg (not_not_intro herr)]
      by_cases hauto : mode = .apAutoStaOn
      · rw [if_pos hauto]
        split
        next on off hon hoff =>
          refine .inr ⟨on, off, hon, hoff, ?_, ?_, trivial⟩
          · subst hauto
            exact wifiManagerChangeMode_auto herr
          · have hoffTick : (wifiManagerChangeMode answers mode s).1.apOffDelayTick =
                s.apOffDelayTick := congrArg Prod.snd hkept
            exact Prod.ext rfl hoffTick
        next => exact .inl ⟨hkept, id⟩
      · rw [if_neg hauto]
        exact .inl ⟨hkept, id⟩
    · rw [if_pos herr]
      exact .inl ⟨hkept, id⟩

variable {rate}

variable {answers : Answers} {req : Request} {s : State} {a b : Nat}

theorem Accepted.left (h : Accepted rate answers req s a b) :
    delays (wifiApiJsonSetMode rate answers req s).1 = (rate.pdMsToTicks b, s.apOffDelayTick) ∧
      (wifiApiJsonSetMode rate answers req s).1.permanentMode = .apAutoStaOn := by
  obtain ⟨on, off, hreply⟩ := h.reply
  rcases wifiApiJsonSetMode_cases rate answers req s with
    ⟨-, hnot⟩ | ⟨on, off, hon, hoff, hperm, ht, -⟩
  · rw [hreply] at hnot
    exact absurd trivial hnot
  · have hb : (b : Int) = off := Option.some.inj (h.apOffDelay.symm.trans hoff)
    exact ⟨hb ▸ ht, hperm⟩

def Event.IsSetMode : Event → Prop
  | .setMode _ _ => True
  | _ => False

theorem quiet_of_not_setMode {e : Event} (h : ¬ e.IsSetMode) : Quiet rate s e := by
  intro t r ht
  cases e with
  | setMode answers req => exact absurd trivial h
  | getMode =>
      cases ht
      simp only [wifiApiJsonGetMode]
      split <;> exact id
  | connected => cases ht
  | disconnected => cases ht
  | stopEnters => simp only [step] at ht; split at ht <;> cases ht
  | stopWakes ret driver => simp only [step] at ht; split at ht <;> cases ht
  | startEnters =>
      simp only [step] at ht
      split at ht
      · cases ht
      · split at ht <;> cases ht
  | startWakes ret driver => simp only [step] at ht; split at ht <;> cases ht
  | startGoesOn driver => simp only [step] at ht; split at ht <;> cases ht

theorem quiet_run {events : List Event} (h : ∀ e ∈ events, ¬ e.IsSetMode) (s : State) :
    Meets (next rate) (Quiet rate) s events := by
  induction events generalizing s with
  | nil => trivial
  | cons e events ih =>
      rw [Meets]
      split
      next => trivial
      next t _ =>
        exact ⟨quiet_of_not_setMode (h e List.mem_cons_self),
          ih (fun e he => h e (List.mem_cons_of_mem _ he)) t⟩

theorem RoundTrip.promised (h : RoundTrip rate a b s) {events : List Event} {e : Event}
    (hno : ∀ d ∈ events ++ [e], ¬ d.IsSetMode) {t u : State} {o : Observation}
    (hr : run (next rate) s events = some t) (he : step rate t e = some (u, o)) :
    Promised rate a b t o := by
  have hnext : next rate t e = some u := by rw [next, he]; rfl
  exact (h (events ++ [e]) (quiet_run hno s)).of_run hr hnext u o he

theorem stop_waits (rate : TickRate) (hperm : s.permanentMode = .apAutoStaOn) :
    ∃ t u, run (next rate) s [.connected] = some t ∧
      step rate t .stopEnters = some (u, .stopWaits (rate.pdMsToTicks 30000)) ∧
      u.permanentMode = .apAutoStaOn ∧ u.delayedStop.waiting ≠ 0 := by
  let k : Tasks := s.delayedStop.create
  have hcreated : k.created ≠ 0 := Nat.succ_ne_zero _
  have hc : handleWifiConnected s = { s with isStaConnected := true, delayedStop := k } := by
    simp only [handleWifiConnected]
    exact if_neg (not_not_intro hperm)
  refine ⟨{ s with isStaConnected := true, delayedStop := k },
    { s with isStaConnected := true
             delayedStop := { k with created := k.created - 1, waiting := k.waiting + 1 } },
    ?_, ?_, hperm, Nat.succ_ne_zero _⟩
  · simp only [run, next, step, Option.map_some, hc]
  · simp only [step, if_neg hcreated]
    rfl

/-- The wait runs out, which clears the count of the attempts, and then the station is lost: the
task that will start the access point waits. -/
theorem start_waits (rate : TickRate) (hperm : s.permanentMode = .apAutoStaOn)
    (hwait : s.delayedStop.waiting ≠ 0) :
    ∃ t u, run (next rate) s [.stopWakes 0 0, .disconnected] = some t ∧
      step rate t .startEnters = some (u, .startWaits (rate.pdMsToTicks 10000)) := by
  let v := delayedSetApStop 0 0
    { s with delayedStop := { s.delayedStop with waiting := s.delayedStop.waiting - 1 } }
  have hv : v.permanentMode = .apAutoStaOn := (applyMode_permanentMode 0 _ _).trans hperm
  have hcount : v.tryConnectCount = 0 := rfl
  let k : Tasks := v.delayedStart.create
  have hd : handleWifiDisconnected v =
      { v with isStaConnected := false, tryConnectCount := v.tryConnectCount + 1,
               delayedStart := k } := by
    simp only [handleWifiDisconnected]
    exact if_neg (not_not_intro hv)
  have hstop : next rate s (.stopWakes 0 0) = some v := by
    rw [next, step, if_neg hwait]; rfl
  refine ⟨handleWifiDisconnected v,
    { handleWifiDisconnected v with
      delayedStart := { k with created := k.created - 1, waiting := k.waiting + 1 } }, ?_, ?_⟩
  · simp only [run, hstop]; rfl
  · have hwaits : delayedSetApStartWait rate (handleWifiDisconnected v) =
        some (rate.pdMsToTicks 10000) := by
      rw [delayedSetApStartWait, hd, hcount]; rfl
    have hstart : (handleWifiDisconnected v).delayedStart = k := by rw [hd]
    have hcreated : k.created ≠ 0 := Nat.succ_ne_zero _
    simp only [step, hwaits, hstart, if_neg hcreated]

theorem delayItems_eq_some {on off : Int} {x : Int × Int} (h : delayItems on off = some x) :
    (on, off) = x := by
  rw [delayItems] at h
  split at h
  · exact Option.some.inj h
  · cases h

theorem wifiApiJsonGetMode_auto (hperm : s.permanentMode = .apAutoStaOn) :
    wifiApiJsonGetMode rate s = .mode 6 .apAutoStaOn s.mode
      (delayItems (rate.pdTicksToMs s.apOnDelayTick) (rate.pdTicksToMs s.apOffDelayTick)) := by
  simp only [wifiApiJsonGetMode, wifiManagerGetMode, hperm, if_true]
  rfl

theorem not_roundTrip (ha : a * rate.hz < 2 ^ 32) (hperm : s.permanentMode = .apAutoStaOn)
    (hon : s.apOnDelayTick = rate.pdMsToTicks b) : ¬ RoundTrip rate a b s := by
  intro h
  obtain ⟨t, u, hconnect, hstop, huperm, huwait⟩ := stop_waits rate hperm
  obtain ⟨v, w, hlost, hstart⟩ := start_waits rate huperm huwait
  have hstopTicks : rate.pdMsToTicks 30000 = rate.pdMsToTicks b :=
    h.promised (by simp [Event.IsSetMode]) hconnect hstop
  have hu : run (next rate) s [.connected, .stopEnters] = some u := by
    rw [← List.singleton_append, run_append_of_run hconnect, run, next, hstop]; rfl
  have hv : run (next rate) s ([.connected, .stopEnters] ++ [.stopWakes 0 0, .disconnected]) =
      some v := (run_append_of_run hu).trans hlost
  have hstartTicks : rate.pdMsToTicks 10000 = rate.pdMsToTicks a :=
    h.promised (by simp [Event.IsSetMode]) hv hstart
  have hrun : run (next rate) s [] = some s := rfl
  have hstep : step rate s .getMode = some (s, .reply (wifiApiJsonGetMode rate s)) := rfl
  have hget := h.promised (by simp [Event.IsSetMode]) hrun hstep
  have hreported : rate.pdTicksToMs s.apOnDelayTick = (roundDown rate a : Nat) := by
    rw [wifiApiJsonGetMode_auto hperm] at hget
    obtain ⟨hdelays, -⟩ := hget rfl
    exact congrArg Prod.fst (delayItems_eq_some hdelays)
  -- The reported delay is 30 seconds and the delay of the request is 10 seconds, up to a tick.
  have hhz := rate.hz_le
  have hpos : 0 < 1000 / rate.hz := Nat.div_pos hhz rate.hz_pos
  have hperiod : 1000 / rate.hz ≤ 1000 := Nat.div_le_self _ _
  have hthirty : roundDown rate a = roundDown rate 30000 := by
    have hms := rate.pdTicksToMs_pdMsToTicks 30000 (by omega) (by omega)
    rw [hon, ← hstopTicks] at hreported
    exact Int.ofNat_inj.mp (hreported.symm.trans hms)
  have hten : a / (1000 / rate.hz) = 10000 / (1000 / rate.hz) := by
    have hticks := congrArg UInt32.toNat hstartTicks
    rw [rate.pdMsToTicks_toNat a ha] at hticks
    exact hticks.symm.trans (rate.pdMsToTicks_toNat 10000 (by omega))
  rw [rate.roundDown_eq a, hten, ← rate.roundDown_eq] at hthirty
  simp only [roundDown] at hthirty
  have hten' := Nat.mod_lt 10000 hpos
  have hthirty' := Nat.mod_lt 30000 hpos
  omega

/-- No request sets both delays: whatever was there before, some run shows that. -/
theorem setMode_never_round_trips (rate : TickRate) (answers : Answers) (req : Request) (s : State)
    (a b : Nat) (h : Accepted rate answers req s a b) (ha : a * rate.hz < 2 ^ 32) :
    ¬ RoundTrip rate a b (wifiApiJsonSetMode rate answers req s).1 :=
  not_roundTrip ha h.left.2 (congrArg Prod.fst h.left.1)

def TickRate.ofHz (hz : Nat) (hdvd : hz ∣ 1000) : TickRate where
  hz := hz
  hz_dvd := hdvd
  pdMsToTicks := fun ms => UInt32.ofInt ms * UInt32.ofNat hz / 1000
  pdTicksToMs := fun t => (t * 1000 / UInt32.ofNat hz).toInt32.toInt
  pdMsToTicks_eq := by
    intro ms h
    have hms : UInt32.ofInt ms = UInt32.ofNat ms := by
      have hmod : ((ms : Int) % 2 ^ 32).toNat = ms % 2 ^ 32 := by omega
      rw [UInt32.ofInt, hmod]
      exact UInt32.ofNat_mod_size
    rw [hms, ← UInt32.ofNat_mul, UInt32.toNat_div, UInt32.toNat_ofNat_of_lt' h]
    rfl
  pdTicksToMs_eq := by
    intro t h hi
    have hle : hz ≤ 1000 := Nat.le_of_dvd (by omega) hdvd
    have hval : (t * 1000 / UInt32.ofNat hz).toNat = t.toNat * 1000 / hz := by
      have hhz : hz < UInt32.size := Nat.lt_of_le_of_lt hle (by decide)
      rw [UInt32.toNat_div, UInt32.toNat_mul, UInt32.toNat_ofNat_of_lt' hhz]
      exact congrArg (· / hz) (Nat.mod_eq_of_lt h)
    generalize t * 1000 / UInt32.ofNat hz = q at hval
    rw [← hval] at hi ⊢
    rw [Int32.toInt, UInt32.toBitVec_toInt32, BitVec.toInt_eq_toNat_of_lt]
    · rfl
    · rw [UInt32.toNat_toBitVec]; omega

end Runs

def esp32 : TickRate := TickRate.ofHz 1000 (Nat.dvd_refl 1000)

def twoDelays : Request := fun name =>
  if name = "mode" then .number 0
  else if name = "ap_on_delay" then .number 20000
  else if name = "ap_off_delay" then .number 15000
  else .other

def granted : Answers := ⟨true, 0, 0⟩

theorem twoDelays_accepted :
    Accepted esp32 granted twoDelays (wifiManagerInit esp32 none) 20000 15000 :=
  ⟨rfl, rfl, rfl, _, _, rfl⟩

theorem setMode_never_round_trips_twoDelays :
    ¬ RoundTrip esp32 20000 15000
      (wifiApiJsonSetMode esp32 granted twoDelays (wifiManagerInit esp32 none)).1 :=
  setMode_never_round_trips esp32 granted twoDelays (wifiManagerInit esp32 none) 20000 15000
    twoDelays_accepted (by decide)

/-- 20 and 15 seconds are asked for, and 15 and 10 are reported. -/
theorem setMode_mixes_delays :
    Accepted esp32 granted twoDelays (wifiManagerInit esp32 none) 20000 15000 ∧
      wifiApiJsonGetMode esp32
        (wifiApiJsonSetMode esp32 granted twoDelays (wifiManagerInit esp32 none)).1 =
          .mode 6 .apAutoStaOn wifiModeApsta (some (15000, 10000)) ∧
      ¬ RoundTrip esp32 20000 15000
        (wifiApiJsonSetMode esp32 granted twoDelays (wifiManagerInit esp32 none)).1 := by
  refine ⟨twoDelays_accepted, rfl, ?_⟩
  intro h
  have hrun : run (next esp32)
      (wifiApiJsonSetMode esp32 granted twoDelays (wifiManagerInit esp32 none)).1 [] = some _ := rfl
  have hget := h.promised (e := .getMode) (by simp [Event.IsSetMode]) hrun rfl
  exact absurd (hget rfl).1 (by decide)

end WirelessEsp.ApAutoDelay
