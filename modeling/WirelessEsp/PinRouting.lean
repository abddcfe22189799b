import WirelessEsp.DapCommand
import WirelessEsp.Transition

namespace WirelessEsp.PinRouting

open Transition DapTypes DapProbe DapCommand

/-- What SWCLK/TCK and SWDIO/TMS are connected to. After reset neither
peripheral has them. -/
inductive Route where
  | boot
  | gpio
  | spi
  deriving DecidableEq

variable {σ : Type}

/-- `PORT_JTAG_SETUP` selects GPIO only on the ESP8266; for the ESP32 the call of
`DAP_SPI_Deinit` is commented out. -/
def jtagRoute (t : Target) (route : Route) : Route :=
  match t with
  | .esp8266 => .gpio
  | .esp32 => route
  | .esp32c3 => route
  | .esp32s3 => route

def routingLink (t : Target) (L : Link σ) : Link (Route × σ) where
  spiInit := fun (_, w) => (.spi, L.spiInit w)
  spiDeinit := fun (_, w) => (.gpio, L.spiDeinit w)
  portSwdSetup := fun (_, w) => (.gpio, L.portSwdSetup w)
  portJtagSetup := fun (r, w) => (jtagRoute t r, L.portJtagSetup w)
  portOff := fun (r, w) => (r, L.portOff w)
  resetTarget := fun (r, w) => ((L.resetTarget w).1, (r, (L.resetTarget w).2))
  pinDelaySlow := fun delay (r, w) => (r, L.pinDelaySlow delay w)
  dapOsDelay := fun ms (r, w) => (r, L.dapOsDelay ms w)
  pinOut := fun pin bit (r, w) => (r, L.pinOut pin bit w)
  pinIn := fun pin (_, w) => L.pinIn pin w
  timestampGet := fun (r, w) => ((L.timestampGet w).1, (r, (L.timestampGet w).2))
  pinSamples := L.pinSamples
  swjSequence := fun d speed count request (r, w) => (r, L.swjSequence d speed count request w)
  swdSequence := fun d speed info request (r, w) =>
    let (swdi, w) := L.swdSequence d speed info request w
    (swdi, (r, w))
  jtagSequence := fun d info request (r, w) =>
    let (tdo, w) := L.jtagSequence d info request w
    (tdo, (r, w))
  jtagIr := fun d ir (r, w) => (r, L.jtagIr d ir w)
  jtagReadIdCode := fun d (r, w) => ((L.jtagReadIdCode d w).1, (r, (L.jtagReadIdCode d w).2))
  jtagWriteAbort := fun d data (r, w) => (r, L.jtagWriteAbort d data w)
  swdTransfer := fun d speed request stores data (r, w) =>
    let x := L.swdTransfer d speed request stores data w
    ⟨x.ack, x.data, x.timestamp, (r, x.world)⟩
  jtagTransfer := fun d request stores data (r, w) =>
    let x := L.jtagTransfer d request stores data w
    ⟨x.ack, x.data, x.timestamp, (r, x.world)⟩
  clearTransferAbort := fun (r, w) => (r, L.clearTransferAbort w)
  dapTransferAbort := fun (_, w) => L.dapTransferAbort w
  garbage := L.garbage

/-- The commands that change the port, the speed or the routing, with the bytes behind the
command byte. -/
inductive Cmd where
  | connect (request : Request)
  | disconnect
  | swjClock (request : Request)
  | swjPins (request : Request)

def exec (t : Target) (L : Link σ) (c : Cmd) (s : State (Route × σ)) : State (Route × σ) :=
  match c with
  | .connect request => (dapConnect (routingLink t L) request s).state
  | .disconnect => (dapDisconnect (routingLink t L) s).state
  | .swjClock request => (dapSwjClock t (routingLink t L) request s).state
  | .swjPins request => (dapSwjPins (routingLink t L) request s).state

structure Mode where
  speed : TransferType
  debugPort : UInt8
  route : Route

def mode (s : State (Route × σ)) : Mode := ⟨s.speed, s.dapData.debugPort, s.world.1⟩

def Mode.swjClock (clock : UInt32) (m : Mode) : Mode :=
  if clock == 0 then m
  else if clock ≥ 10000000 then
    if m.debugPort != DAP_PORT_JTAG then { m with speed := .spi, route := .spi }
    else { m with speed := .gpioFast }
  else if clock ≥ 2000000 then { m with speed := .gpioFast, route := .gpio }
  else { m with speed := .gpioNormal, route := .gpio }

def Mode.connect (t : Target) (port : UInt8) (m : Mode) : Mode :=
  if port == DAP_PORT_SWD then
    { m with debugPort := DAP_PORT_SWD, route := if m.speed ≠ .spi then .gpio else m.route }
  else if port == DAP_PORT_JTAG then
    { m with debugPort := DAP_PORT_JTAG, route := jtagRoute t m.route }
  else m

def Mode.exec (t : Target) (c : Cmd) (m : Mode) : Mode :=
  match c with
  | .connect request => m.connect t (connectPort (request 0))
  | .disconnect => { m with debugPort := DAP_PORT_DISABLED }
  | .swjClock request => m.swjClock (request.word 0)
  | .swjPins _ => { m with route := if m.speed = .spi then .spi else m.route }

variable {t : Target} {L : Link σ}

theorem connect_mode (request : Request) (s : State (Route × σ)) :
    mode (dapConnect (routingLink t L) request s).state =
      (mode s).connect t (connectPort (request 0)) := by
  simp only [dapConnect, Mode.connect]
  split
  · by_cases hs : s.speed = .spi
    · simp [replyByte, setDebugPort, State.onDapData, mode, hs]
    · simp [replyByte, setDebugPort, State.onDapData, State.onWorld, mode, hs, routingLink]
  · split
    · rfl
    · rfl

theorem swjClock_mode (request : Request) (s : State (Route × σ)) :
    mode (dapSwjClock t (routingLink t L) request s).state = (mode s).swjClock (request.word 0) := by
  simp only [dapSwjClock, Mode.swjClock]
  split
  · rfl
  · split
    · show mode (setClock 1 1 (if s.dapData.debugPort != DAP_PORT_JTAG then _ else _)) =
        if s.dapData.debugPort != DAP_PORT_JTAG then _ else _
      split <;> rfl
    · split <;> rfl

theorem swjOutput_route (value select : UInt32) (pin : Pin) (w : Route × σ) :
    (swjOutput (routingLink t L) value select pin w).1 = w.1 := by
  rw [swjOutput]
  split <;> rfl

theorem swjWaitLoop_route (value select wait timestamp : UInt32) (n : Nat) (w : Route × σ) :
    (swjWaitLoop (routingLink t L) value select wait timestamp n w).1 = w.1 := by
  induction n generalizing w with
  | zero => rfl
  | succ n ih =>
      simp only [swjWaitLoop]
      split
      · split
        · rw [ih]
          rfl
        · rfl
      · rfl

theorem swjWait_route (value select wait : UInt32) (w : Route × σ) :
    (swjWait (routingLink t L) value select wait w).1 = w.1 := by
  rw [swjWait]
  split
  · simp only [swjWaitLoop_route]
    rfl
  · rfl

theorem swjPins_mode (request : Request) (s : State (Route × σ)) :
    mode (dapSwjPins (routingLink t L) request s).state =
      { mode s with route := if s.speed = .spi then .spi else s.world.1 } := by
  by_cases hs : s.speed = .spi
  · simp [dapSwjPins, State.onWorld, replyByte, mode, hs, routingLink]
  · simp [dapSwjPins, State.onWorld, replyByte, mode, hs, swjWait_route, swjOutputs,
      swjOutput_route]

theorem exec_mode (c : Cmd) (s : State (Route × σ)) : mode (exec t L c s) = (mode s).exec t c := by
  cases c with
  | connect request => exact connect_mode request s
  | disconnect => rfl
  | swjClock request => exact swjClock_mode request s
  | swjPins request => exact swjPins_mode request s

/-- The probe, and whether a `DAP_Connect` has succeeded. -/
structure Session (σ : Type) where
  state : State (Route × σ)
  connected : Bool

def Session.boot (t : Target) (w : σ) : Session σ :=
  ⟨⟨dapSetup t, .gpioNormal, (.boot, w)⟩, false⟩

/-- The command is a `DAP_Connect` that answers with a port. -/
def connects : Cmd → Bool
  | .connect request =>
      connectPort (request 0) == DAP_PORT_SWD || connectPort (request 0) == DAP_PORT_JTAG
  | _ => false

def step (t : Target) (L : Link σ) (s : Session σ) (c : Cmd) : Option (Session σ) :=
  some ⟨exec t L c s.state, s.connected || connects c⟩

/-- The pins are where the next transfer or sequence looks for them. -/
structure Mode.Routed (m : Mode) : Prop where
  toSpi : m.speed = .spi → m.route = .spi
  toGpio : m.speed ≠ .spi ∨ m.debugPort = DAP_PORT_JTAG → m.route = .gpio

/-- From the first successful `DAP_Connect` on the pins are routed right. -/
def RoutedOnceConnected (s : Session σ) : Prop := s.connected = true → (mode s.state).Routed

/-- A `DAP_Connect` that selects JTAG comes while bits are banged, and while the pins already are
with GPIO where `PORT_JTAG_SETUP` does not put them there. -/
def Mode.JtagSafe (t : Target) (c : Cmd) (m : Mode) : Prop :=
  match c with
  | .connect request => connectPort (request 0) = DAP_PORT_JTAG →
      m.speed ≠ .spi ∧ (t = .esp8266 ∨ m.route = .gpio)
  | _ => True

def JtagSafe (t : Target) (s : Session σ) (c : Cmd) : Prop := (mode s.state).JtagSafe t c

/-- Before the first `DAP_Connect` only `DAP_SWJ_Clock` routes the pins. -/
structure Mode.Unconnected (m : Mode) : Prop where
  toSpi : m.speed = .spi → m.route = .spi
  port : m.debugPort ≠ DAP_PORT_JTAG

theorem jtagRoute_gpio {route : Route} (h : t = .esp8266 ∨ route = .gpio) :
    jtagRoute t route = .gpio := by
  rcases h with h | h
  · rw [h]
    rfl
  · rw [h]
    cases t <;> rfl

theorem jtagRoute_other {route : Route} (ht : t ≠ .esp8266) : jtagRoute t route = route := by
  cases t with
  | esp8266 => exact absurd rfl ht
  | esp32 => rfl
  | esp32c3 => rfl
  | esp32s3 => rfl

theorem Mode.swjClock_unconnected {m : Mode} (h : m.Unconnected) (clock : UInt32) :
    (m.swjClock clock).Unconnected := by
  have hport : (m.debugPort != DAP_PORT_JTAG) = true := by simpa using h.port
  rw [swjClock, if_pos hport]
  split
  · exact h
  · split
    · exact ⟨fun _ => rfl, h.port⟩
    · split
      · exact ⟨fun hs => (by cases hs), h.port⟩
      · exact ⟨fun hs => (by cases hs), h.port⟩

theorem Mode.swjClock_routed {m : Mode} (h : m.Routed) (clock : UInt32) :
    (m.swjClock clock).Routed := by
  rw [swjClock]
  split
  · exact h
  · split
    · by_cases hport : m.debugPort = DAP_PORT_JTAG
      · rw [if_neg (by simpa using hport)]
        exact ⟨fun hs => (by cases hs), fun _ => h.toGpio (.inr hport)⟩
      · rw [if_pos (by simpa using hport)]
        refine ⟨fun _ => rfl, ?_⟩
        rintro (hs | hs)
        · exact absurd rfl hs
        · exact absurd hs hport
    · split
      · exact ⟨fun hs => (by cases hs), fun _ => rfl⟩
      · exact ⟨fun hs => (by cases hs), fun _ => rfl⟩

theorem Mode.connect_routed {m : Mode} (hspi : m.speed = .spi → m.route = .spi) {port : UInt8}
    (hport : port = DAP_PORT_SWD ∨ port = DAP_PORT_JTAG)
    (hsafe : port = DAP_PORT_JTAG → m.speed ≠ .spi ∧ (t = .esp8266 ∨ m.route = .gpio)) :
    (m.connect t port).Routed := by
  rw [connect]
  rcases hport with hport | hport
  · rw [if_pos (by simpa using hport)]
    constructor
    · intro hs
      have hspeed : m.speed = .spi := hs
      simp only [hspeed, ne_eq, not_true, if_false]
      exact hspi hspeed
    · rintro (hs | hs)
      · exact if_pos hs
      · exact absurd hs (show DAP_PORT_SWD ≠ DAP_PORT_JTAG by decide)
  · obtain ⟨hspeed, hroute⟩ := hsafe hport
    rw [hport]
    exact ⟨fun hs => absurd hs hspeed, fun _ => jtagRoute_gpio hroute⟩

theorem Mode.connect_other {m : Mode} {port : UInt8}
    (hport : ¬ (port = DAP_PORT_SWD ∨ port = DAP_PORT_JTAG)) : m.connect t port = m := by
  rw [not_or] at hport
  rw [connect, if_neg (by simpa using hport.1), if_neg (by simpa using hport.2)]

theorem Mode.jtagSafe_of_routed {m : Mode} {request : Request}
    (h : (m.exec t (.connect request)).Routed) : m.JtagSafe t (.connect request) := by
  intro hport
  have hjtag : m.exec t (.connect request) =
      { m with debugPort := DAP_PORT_JTAG, route := jtagRoute t m.route } := by
    rw [exec, hport]
    rfl
  rw [hjtag] at h
  have hgpio : jtagRoute t m.route = .gpio := h.toGpio (.inr rfl)
  constructor
  · intro hs
    have hspi : jtagRoute t m.route = .spi := h.toSpi hs
    rw [hgpio] at hspi
    cases hspi
  · by_cases ht : t = .esp8266
    · exact .inl ht
    · rw [jtagRoute_other ht] at hgpio
      exact .inr hgpio

theorem connects_iff (request : Request) : connects (.connect request) = true ↔
    connectPort (request 0) = DAP_PORT_SWD ∨ connectPort (request 0) = DAP_PORT_JTAG := by
  simp [connects]

theorem Mode.exec_connect_other {m : Mode} {request : Request}
    (hc : connects (.connect request) = false) : m.exec t (.connect request) = m := by
  rw [exec, connect_other]
  intro hport
  exact Bool.eq_false_iff.mp hc ((connects_iff request).mpr hport)

theorem Mode.exec_swjPins {m : Mode} {request : Request} (hspi : m.speed = .spi → m.route = .spi) :
    m.exec t (.swjPins request) = m := by
  by_cases hs : m.speed = .spi
  · rw [exec, if_pos hs, ← hspi hs]
  · rw [exec, if_neg hs]

theorem Mode.exec_connects {m : Mode} {c : Cmd} (hspi : m.speed = .spi → m.route = .spi)
    (hc : connects c = true) (hsafe : m.JtagSafe t c) : (m.exec t c).Routed := by
  cases c with
  | connect request => exact connect_routed hspi ((connects_iff request).mp hc) hsafe
  | disconnect => cases hc
  | swjClock request => cases hc
  | swjPins request => cases hc

theorem Mode.exec_routed {m : Mode} {c : Cmd} (h : m.Routed) (hc : connects c = false) :
    (m.exec t c).Routed := by
  cases c with
  | connect request =>
      rw [exec_connect_other hc]
      exact h
  | disconnect =>
      refine ⟨h.toSpi, ?_⟩
      rintro (hs | hs)
      · exact h.toGpio (.inl hs)
      · exact absurd hs (show DAP_PORT_DISABLED ≠ DAP_PORT_JTAG by decide)
  | swjClock request => exact swjClock_routed h _
  | swjPins request =>
      rw [exec_swjPins h.toSpi]
      exact h

theorem Mode.exec_unconnected {m : Mode} {c : Cmd} (h : m.Unconnected) (hc : connects c = false) :
    (m.exec t c).Unconnected := by
  cases c with
  | connect request =>
      rw [exec_connect_other hc]
      exact h
  | disconnect => exact ⟨h.toSpi, show DAP_PORT_DISABLED ≠ DAP_PORT_JTAG by decide⟩
  | swjClock request => exact swjClock_unconnected h _
  | swjPins request =>
      rw [exec_swjPins h.toSpi]
      exact h

/-- Unconnected before the first successful connect, and routed right from then on. -/
structure Inv (s : Session σ) : Prop where
  before : s.connected = false → (mode s.state).Unconnected
  after : s.connected = true → (mode s.state).Routed

theorem Inv.spi {s : Session σ} (h : Inv s) :
    (mode s.state).speed = .spi → (mode s.state).route = .spi := by
  cases hc : s.connected with
  | false => exact (h.before hc).toSpi
  | true => exact (h.after hc).toSpi

theorem boot_inv (w : σ) : Inv (Session.boot t w) := by
  have hport : (dapSetup t).debugPort ≠ DAP_PORT_JTAG := by
    cases t <;> decide
  exact ⟨fun _ => ⟨fun h => (by cases h), hport⟩, fun h => absurd h Bool.false_ne_true⟩

theorem step_inv {s s' : Session σ} {c : Cmd} (hi : Inv s) (hok : JtagSafe t s c)
    (h : step t L s c = some s') : Inv s' := by
  cases h
  have hmode := @exec_mode σ t L c s.state
  cases hc : connects c with
  | true =>
      refine ⟨fun hb => ?_, fun _ => ?_⟩
      · rw [Bool.or_true] at hb
        cases hb
      · show (mode (exec t L c s.state)).Routed
        rw [hmode]
        exact Mode.exec_connects hi.spi hc hok
  | false =>
      rw [Bool.or_false]
      constructor
      · intro hb
        show (mode (exec t L c s.state)).Unconnected
        rw [hmode]
        exact Mode.exec_unconnected (hi.before hb) hc
      · intro hb
        show (mode (exec t L c s.state)).Routed
        rw [hmode]
        exact Mode.exec_routed (hi.after hb) hc

theorem jtagSafe_of_next {s s' : Session σ} {c : Cmd} (h : step t L s c = some s')
    (hr : RoutedOnceConnected s') : JtagSafe t s c := by
  cases h
  cases c with
  | connect request =>
      intro hport
      have hconn : connects (.connect request) = true := (connects_iff request).mpr (.inr hport)
      have hrouted : (mode (exec t L (.connect request) s.state)).Routed :=
        hr (by rw [hconn, Bool.or_true])
      rw [exec_mode] at hrouted
      exact Mode.jtagSafe_of_routed hrouted hport
  | disconnect => trivial
  | swjClock request => trivial
  | swjPins request => trivial

/-- In a run of commands the pins are always routed right from the first successful connect on,
exactly when every connect that selects JTAG comes as it should. -/
theorem routed_iff (t : Target) (L : Link σ) (w : σ) (cs : List Cmd) :
    Always (step t L) RoutedOnceConnected (Session.boot t w) cs ↔
      Meets (step t L) (JtagSafe t) (Session.boot t w) cs := by
  constructor
  · exact meets_of_always (I := fun _ => True) (fun _ _ _ _ _ _ => trivial)
      (fun _ _ _ _ h hr => jtagSafe_of_next h hr) trivial
  · intro hm
    have h := always_of_step (P := Inv) (fun _ _ _ hi hok h => step_inv hi hok h) (boot_inv w) hm
    exact h.mono fun _ hi => hi.after

def jtagAtSpiSpeed : List Cmd :=
  [.connect fun _ => DAP_PORT_SWD, .swjClock fun i => [0x80, 0x96, 0x98, 0x00].getD i 0,
    .connect fun _ => DAP_PORT_JTAG]

theorem not_routed_jtag : ¬ ∀ (t : Target) (L : Link Unit) (w : Unit) (cs : List Cmd),
    Always (step t L) RoutedOnceConnected (Session.boot t w) cs := by
  intro h
  have hend := (h .esp32 idleLink () jtagAtSpiSpeed).of_run rfl
  have hgpio : Route.spi = Route.gpio := (hend rfl).toGpio (.inr rfl)
  cases hgpio

end WirelessEsp.PinRouting
