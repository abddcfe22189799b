import Mathlib.Logic.Function.Basic
import WirelessEsp.Transition

namespace WirelessEsp.UartBridge

open Function (update)

def EVENTS_QUEUE_SIZE : Nat := 10
def UART_BRIDGE_BAUDRATE : Int := 74880

def isSpace (b : UInt8) : Bool := b == 0x20 || 0x09 ≤ b && b ≤ 0x0D

def isDigit (b : UInt8) : Bool := 0x30 ≤ b && b ≤ 0x39

def digits : Nat → List UInt8 → Nat
  | n, [] => n
  | n, b :: bs => if isDigit b then digits (n * 10 + (b.toNat - 0x30)) bs else n

def atoi (text : List UInt8) : Int :=
  match text.dropWhile isSpace with
  | [] => 0
  | b :: bs =>
      if b = 0x2D then -(digits 0 bs) else if b = 0x2B then digits 0 bs else digits 0 (b :: bs)

def numDigits (n : Int) : Nat :=
  if n < 10 then 1
  else if n < 100 then 2
  else if n < 1000 then 3
  else if n < 10000 then 4
  else if n < 100000 then 5
  else if n < 1000000 then 6
  else 7

structure Uart where
  baudrate : Int
  written : List UInt8

/-- One part of a received buffer, with `is_first_time_recv`. -/
def recvPart (part : List UInt8) (x : Bool × Uart) : Bool × Uart :=
  let len := part.length
  let baudrate := atoi part
  if x.1 && 1 < len && len < 8 && 0 < baudrate && baudrate < 2000000 && numDigits baudrate == len then
    (false, { x.2 with baudrate })
  else (false, { x.2 with written := x.2.written ++ part })

structure Netbuf where
  data : List UInt8
  next : List (List UInt8)

def recvNetbuf (netbuf : Netbuf) (x : Bool × Uart) : Bool × Uart :=
  (netbuf.data :: netbuf.next).foldl (fun x part => recvPart part x) x

inductive PendingErr
  | ok
  | closed
  | other
  deriving DecidableEq

/-- `listens` stands for the state `NETCONN_LISTEN`. -/
structure Netconn where
  listens : Bool
  pendingErr : PendingErr
  deriving DecidableEq

/-- The netconns are numbered in the order in which lwIP makes them. The first one listens. -/
abbrev Nc := Nat

inductive Event
  | netconn (nc : Nc)
  | wifiDisconnected
  deriving DecidableEq

/-- `netconns` has no entry for a netconn that is not made yet or deleted. `fault` says that a
pointer to such a netconn, or a null pointer, has been followed. -/
structure State where
  netconns : Nc → Option Netconn
  made : Nat
  acceptMbox : List Nc
  events : List Event
  uartNetconn : Option Nc
  isConnValid : Bool
  isFirstTimeRecv : Bool
  uart : Uart
  fault : Bool

def xQueueSend (e : Event) (s : State) : State :=
  if s.events.length < EVENTS_QUEUE_SIZE then { s with events := s.events ++ [e] } else s

def netCallback (nc : Nc) (s : State) : State :=
  match s.netconns nc with
  | none => s
  | some conn => if conn.pendingErr = .ok then xQueueSend (.netconn nc) s else s

def uartBridgeClose (s : State) : State := xQueueSend .wifiDisconnected s

def uartBridgeReset (s : State) : State := { s with uartNetconn := none, isConnValid := false }

def State.faulty (s : State) : State := { s with fault := true }

def State.follow (s : State) (nc : Option Nc) (f : Nc → Netconn → State) : State :=
  match nc with
  | none => s.faulty
  | some nc => match s.netconns nc with
      | none => s.faulty
      | some conn => f nc conn

def closeTcpNetconn (nc : Option Nc) (s : State) : State :=
  s.follow nc fun nc _ => { s with netconns := update s.netconns nc none }

/-- What lwIP answers to the task: whether an accept succeeds, and what is received. -/
structure Answers where
  accepts : Bool
  recv : Option Netbuf

/-- `netconn_accept`, which leaves a null pointer when it fails. -/
def netconnAccept (accepts : Bool) (s : State) : Option Nc × State :=
  match s.acceptMbox with
  | [] => (none, s)
  | nc :: mbox => if accepts then (some nc, { s with acceptMbox := mbox }) else (none, s)

def onListen (accepts : Bool) (s : State) : State :=
  let (ncIn, s) := netconnAccept accepts s
  match ncIn with
  | none => s
  | some nc =>
      if s.isConnValid then closeTcpNetconn nc s
      else s.follow nc fun nc _ =>
        { s with uartNetconn := nc, isConnValid := true, isFirstTimeRecv := true }

def onReceive (nc : Nc) (conn : Netconn) (recv : Option Netbuf) (s : State) : State :=
  let s := { s with uartNetconn := nc }
  match recv with
  | some netbuf =>
      let (isFirstTimeRecv, uart) := recvNetbuf netbuf (s.isFirstTimeRecv, s.uart)
      { s with isFirstTimeRecv, uart }
  | none =>
      if conn.pendingErr = .closed then s else uartBridgeReset (closeTcpNetconn nc s)

def onEvent (e : Event) (o : Answers) (s : State) : State :=
  match e with
  | .wifiDisconnected =>
      if s.isConnValid then uartBridgeReset (closeTcpNetconn s.uartNetconn s) else s
  | .netconn nc => s.follow nc fun nc conn =>
      if conn.listens then onListen o.accepts s else onReceive nc conn o.recv s

/-- One turn of the loop of `uart_bridge_task`. Without an event it writes to the client. -/
def uartBridgeTask (o : Answers) (s : State) : State :=
  match s.events with
  | [] => if s.isConnValid then s.follow s.uartNetconn fun _ _ => s else s
  | e :: events => onEvent e o { s with events }

/-- `connect` is a new connection in lwIP, `lwipError` an error that lwIP reports for one. -/
inductive Action
  | connect
  | callback (nc : Nc)
  | lwipError (nc : Nc) (err : PendingErr)
  | wifiDisconnect
  | task (o : Answers)

def connect (s : State) : State :=
  { s with
    netconns := update s.netconns s.made (some ⟨false, .ok⟩)
    made := s.made + 1
    acceptMbox := s.acceptMbox ++ [s.made] }

def lwipError (nc : Nc) (err : PendingErr) (s : State) : State :=
  let conn := (s.netconns nc).map fun conn => { conn with pendingErr := err }
  { s with netconns := update s.netconns nc conn }

/-- Nothing is left to say once a deleted netconn has been used. -/
def step (s : State) (a : Action) : Option State :=
  if s.fault then none
  else some (match a with
    | .connect => connect s
    | .callback nc => netCallback nc s
    | .lwipError nc err => lwipError nc err s
    | .wifiDisconnect => uartBridgeClose s
    | .task o => uartBridgeTask o s)

def boot : State where
  netconns := update (fun _ => none) 0 (some ⟨true, .ok⟩)
  made := 1
  acceptMbox := []
  events := []
  uartNetconn := none
  isConnValid := false
  isFirstTimeRecv := false
  uart := ⟨UART_BRIDGE_BAUDRATE, []⟩
  fault := false

def closes (o : Answers) (s : State) : Option Nc :=
  match s.events with
  | [] => none
  | .wifiDisconnected :: _ => if s.isConnValid then s.uartNetconn else none
  | .netconn nc :: _ => match s.netconns nc with
      | none => none
      | some conn =>
          if conn.listens then
            if s.isConnValid && o.accepts then s.acceptMbox.head? else none
          else if o.recv.isNone && conn.pendingErr != .closed then some nc else none

/-- A connection is closed only when no other event of it is queued, and data of a connection that
is still to be accepted come only while there is no client, and without an error. -/
structure InOrder (o : Answers) (s : State) : Prop where
  last : ∀ nc, closes o s = some nc → .netconn nc ∉ s.events.tail
  accepted : ∀ nc, s.events.head? = some (.netconn nc) → nc ∈ s.acceptMbox →
    s.isConnValid = false ∧ closes o s = none

def Orderly (s : State) : Action → Prop
  | .task o => InOrder o s
  | _ => True

/-- An event of the listener or of a further connection leaves the active client alone. -/
structure LeavesClient (s t : State) : Prop where
  uartNetconn : t.uartNetconn = s.uartNetconn
  isConnValid : t.isConnValid = s.isConnValid
  isFirstTimeRecv : t.isFirstTimeRecv = s.isFirstTimeRecv
  client : ∀ nc, s.uartNetconn = some nc → t.netconns nc = s.netconns nc

/-- The next event is of the listener or of a further connection, and there is a client. -/
def Further (s : State) : Prop := s.isConnValid = true ∧
  ∃ nc, s.events.head? = some (.netconn nc) ∧ s.uartNetconn ≠ some nc

def Isolates (s : State) : Action → Prop
  | .task o => Further s → LeavesClient s (uartBridgeTask o s)
  | _ => True

/-- The pointers of the task and of the queue, while nothing has gone wrong. -/
structure Sound (s : State) : Prop where
  ok : s.fault = false
  made : ∀ nc, s.netconns nc ≠ none → nc < s.made
  listener : ∃ conn, s.netconns 0 = some conn ∧ conn.listens = true
  client : ∀ nc conn, s.netconns nc = some conn → nc ≠ 0 →
    conn.listens = false ∧ (nc ∈ s.acceptMbox ∨ s.isConnValid = true ∧ s.uartNetconn = some nc)
  waiting : ∀ nc ∈ s.acceptMbox, nc ≠ 0 ∧ s.netconns nc ≠ none
  nodup : s.acceptMbox.Nodup
  valid : s.isConnValid = true →
    ∃ nc, s.uartNetconn = some nc ∧ nc ≠ 0 ∧ s.netconns nc ≠ none ∧ nc ∉ s.acceptMbox
  queued : ∀ nc, .netconn nc ∈ s.events → s.netconns nc ≠ none

section Steps

variable {s : State}

theorem State.follow_some {nc : Nc} {conn : Netconn} (h : s.netconns nc = some conn)
    (f : Nc → Netconn → State) : s.follow nc f = f nc conn := by
  simp only [State.follow, h]

theorem closeTcpNetconn_some {nc : Nc} {conn : Netconn} (h : s.netconns nc = some conn) :
    closeTcpNetconn nc s = { s with netconns := update s.netconns nc none } :=
  State.follow_some h _

theorem Sound.events (h : Sound s) {events : List Event}
    (hevents : ∀ nc, .netconn nc ∈ events → s.netconns nc ≠ none) : Sound { s with events } :=
  ⟨h.ok, h.made, h.listener, h.client, h.waiting, h.nodup, h.valid, hevents⟩

theorem Sound.send (h : Sound s) {e : Event} (he : ∀ nc, e = .netconn nc → s.netconns nc ≠ none) :
    Sound (xQueueSend e s) := by
  rw [xQueueSend]
  split
  · apply h.events
    intro nc hnc
    rcases List.mem_append.mp hnc with hold | hnew
    · exact h.queued nc hold
    · exact he nc (List.mem_singleton.mp hnew).symm
  · exact h

theorem Sound.callback (h : Sound s) (nc : Nc) : Sound (netCallback nc s) := by
  rw [netCallback]
  split
  · exact h
  next conn hconn =>
    split
    · apply h.send
      rintro nc' heq
      cases heq
      rw [hconn]
      exact Option.some_ne_none conn
    · exact h

theorem Sound.unmade (h : Sound s) : s.netconns s.made = none := by
  by_contra hlive
  exact Nat.lt_irrefl _ (h.made _ hlive)

theorem Sound.connect (h : Sound s) : Sound (connect s) := by
  have hne : ∀ nc, s.netconns nc ≠ none → nc ≠ s.made := by
    rintro nc hlive rfl
    exact hlive h.unmade
  have hsame : ∀ nc, nc ≠ s.made → (UartBridge.connect s).netconns nc = s.netconns nc :=
    fun nc hnc => Function.update_of_ne hnc _ _
  have hlive : ∀ nc, s.netconns nc ≠ none → (UartBridge.connect s).netconns nc ≠ none := by
    intro nc hnc
    rw [hsame nc (hne nc hnc)]
    exact hnc
  obtain ⟨conn, hconn, hlistens⟩ := h.listener
  have hzero : s.netconns 0 ≠ none := by
    rw [hconn]
    exact Option.some_ne_none conn
  have hmade := h.made 0 hzero
  have hfresh : s.made ∉ s.acceptMbox := fun hmem => (h.waiting _ hmem).2 h.unmade
  refine ⟨h.ok, ?_, ?_, ?_, ?_, ?_, ?_, ?_⟩
  · intro nc hnc
    by_cases heq : nc = s.made
    · exact heq ▸ Nat.lt_succ_self _
    · rw [hsame nc heq] at hnc
      exact Nat.lt_succ_of_lt (h.made nc hnc)
  · exact ⟨conn, (hsame 0 (hne 0 hzero)).trans hconn, hlistens⟩
  · intro nc conn hnc hnz
    by_cases heq : nc = s.made
    · have hnew : (UartBridge.connect s).netconns nc = some ⟨false, .ok⟩ := by
        rw [heq]
        exact Function.update_self ..
      rw [hnew] at hnc
      cases hnc
      exact ⟨rfl, .inl (List.mem_append_right _ (List.mem_singleton.mpr heq))⟩
    · rw [hsame nc heq] at hnc
      obtain ⟨hfalse, hmem⟩ := h.client nc conn hnc hnz
      exact ⟨hfalse, hmem.imp_left (List.mem_append_left _)⟩
  · intro nc hmem
    rcases List.mem_append.mp hmem with hold | hnew
    · obtain ⟨hnz, hnc⟩ := h.waiting nc hold
      exact ⟨hnz, hlive nc hnc⟩
    · rw [List.mem_singleton.mp hnew]
      refine ⟨Nat.ne_of_gt hmade, ?_⟩
      have hnew : (UartBridge.connect s).netconns s.made = some ⟨false, .ok⟩ :=
        Function.update_self ..
      rw [hnew]
      exact Option.some_ne_none _
  · exact List.nodup_append.mpr ⟨h.nodup, List.nodup_cons.mpr ⟨List.not_mem_nil, List.nodup_nil⟩, by
      rintro a ha b hb rfl
      exact hfresh (List.mem_singleton.mp hb ▸ ha)⟩
  · intro hvalid
    obtain ⟨nc, huart, hnz, hnc, hmem⟩ := h.valid hvalid
    refine ⟨nc, huart, hnz, hlive nc hnc, ?_⟩
    intro hmem'
    rcases List.mem_append.mp hmem' with hold | hnew
    · exact hmem hold
    · exact hne nc hnc (List.mem_singleton.mp hnew)
  · exact fun nc hnc => hlive nc (h.queued nc hnc)

theorem lwipError_netconns (nc k : Nc) (err : PendingErr) :
    ∃ f : Netconn → PendingErr, (lwipError nc err s).netconns k =
      (s.netconns k).map fun conn => { conn with pendingErr := f conn } := by
  by_cases heq : k = nc
  · refine ⟨fun _ => err, ?_⟩
    rw [heq]
    exact Function.update_self ..
  · refine ⟨Netconn.pendingErr, ?_⟩
    exact (Function.update_of_ne heq _ _).trans Option.map_id'.symm

theorem lwipError_live (nc k : Nc) (err : PendingErr) :
    (lwipError nc err s).netconns k ≠ none ↔ s.netconns k ≠ none := by
  obtain ⟨f, hf⟩ := lwipError_netconns (s := s) nc k err
  rw [hf, ne_eq, ne_eq, Option.map_eq_none_iff]

theorem Sound.lwipError (h : Sound s) (nc : Nc) (err : PendingErr) :
    Sound (lwipError nc err s) := by
  have hlive := fun k => lwipError_live (s := s) nc k err
  refine ⟨h.ok, ?_, ?_, ?_, ?_, h.nodup, ?_, ?_⟩
  · exact fun k hk => h.made k ((hlive k).mp hk)
  · obtain ⟨conn, hconn, hlistens⟩ := h.listener
    obtain ⟨f, hf⟩ := lwipError_netconns (s := s) nc 0 err
    rw [hconn] at hf
    exact ⟨_, hf, hlistens⟩
  · intro k conn hk hnz
    obtain ⟨f, hf⟩ := lwipError_netconns (s := s) nc k err
    obtain ⟨conn', hconn', rfl⟩ := Option.map_eq_some_iff.mp (hf.symm.trans hk)
    exact h.client k conn' hconn' hnz
  · intro k hk
    rw [hlive]
    exact h.waiting k hk
  · intro hvalid
    obtain ⟨k, huart, hnz, hk, hmem⟩ := h.valid hvalid
    exact ⟨k, huart, hnz, (hlive k).mpr hk, hmem⟩
  · exact fun k hk => (hlive k).mpr (h.queued k hk)

theorem Sound.accept (h : Sound s) {nc : Nc} {mbox : List Nc} (hmbox : s.acceptMbox = nc :: mbox)
    (hinvalid : s.isConnValid = false) : Sound { s with
      acceptMbox := mbox, uartNetconn := nc, isConnValid := true, isFirstTimeRecv := true } := by
  have hnodup := List.nodup_cons.mp (hmbox ▸ h.nodup)
  have hsub : ∀ k ∈ mbox, k ∈ s.acceptMbox := fun k hk => hmbox ▸ List.mem_cons_of_mem nc hk
  obtain ⟨hnz, hlive⟩ := h.waiting nc (hmbox ▸ List.mem_cons_self)
  refine ⟨h.ok, h.made, h.listener, ?_, ?_, hnodup.2, ?_, h.queued⟩
  · intro k conn hk hkz
    obtain ⟨hfalse, hmem | hclient⟩ := h.client k conn hk hkz
    · rw [hmbox] at hmem
      rcases List.mem_cons.mp hmem with rfl | hmem
      · exact ⟨hfalse, .inr ⟨rfl, rfl⟩⟩
      · exact ⟨hfalse, .inl hmem⟩
    · rw [hinvalid] at hclient
      cases hclient.1
  · exact fun k hk => h.waiting k (hsub k hk)
  · exact fun _ => ⟨nc, rfl, hnz, hlive, hnodup.1⟩

section Close

variable {nc : Nc}

theorem closed_some {k : Nc} {conn : Netconn} (h : update s.netconns nc none k = some conn) :
    k ≠ nc ∧ s.netconns k = some conn := by
  by_cases heq : k = nc
  · rw [heq, Function.update_self] at h
    cases h
  · exact ⟨heq, (Function.update_of_ne heq _ _).symm.trans h⟩

theorem closed_live {k : Nc} (hne : k ≠ nc) (h : s.netconns k ≠ none) :
    update s.netconns nc none k ≠ none := by
  rw [Function.update_of_ne hne]
  exact h

theorem Sound.delete (h : Sound s) (hnz : nc ≠ 0) (hqueued : .netconn nc ∉ s.events) :
    (∀ k, update s.netconns nc none k ≠ none → k < s.made) ∧
    (∃ conn, update s.netconns nc none 0 = some conn ∧ conn.listens = true) ∧
    ∀ k, .netconn k ∈ s.events → update s.netconns nc none k ≠ none := by
  refine ⟨?_, ?_, ?_⟩
  · intro k hk
    obtain ⟨conn, hconn⟩ := Option.ne_none_iff_exists'.mp hk
    apply h.made k
    rw [(closed_some hconn).2]
    exact Option.some_ne_none conn
  · rw [Function.update_of_ne hnz.symm]
    exact h.listener
  · intro k hk
    have hne : k ≠ nc := by
      rintro rfl
      exact hqueued hk
    exact closed_live hne (h.queued k hk)

theorem Sound.reject (h : Sound s) {mbox : List Nc} (hmbox : s.acceptMbox = nc :: mbox)
    (hqueued : .netconn nc ∉ s.events) : Sound { s with
      acceptMbox := mbox, netconns := update s.netconns nc none } := by
  have hnodup := List.nodup_cons.mp (hmbox ▸ h.nodup)
  have hsub : ∀ k ∈ mbox, k ∈ s.acceptMbox := fun k hk => hmbox ▸ List.mem_cons_of_mem nc hk
  have hmem : nc ∈ s.acceptMbox := hmbox ▸ List.mem_cons_self
  have hnz := (h.waiting nc hmem).1
  obtain ⟨hmade, hlistener, hevents⟩ := h.delete hnz hqueued
  refine ⟨h.ok, hmade, hlistener, ?_, ?_, hnodup.2, ?_, hevents⟩
  · intro k conn hk hkz
    obtain ⟨hne, hk'⟩ := closed_some hk
    obtain ⟨hfalse, hwaits⟩ := h.client k conn hk' hkz
    refine ⟨hfalse, hwaits.imp_left ?_⟩
    intro hkmem
    rw [hmbox] at hkmem
    exact (List.mem_cons.mp hkmem).resolve_left hne
  · intro k hk
    have hne : k ≠ nc := by
      rintro rfl
      exact hnodup.1 hk
    obtain ⟨hkz, hlive⟩ := h.waiting k (hsub k hk)
    exact ⟨hkz, closed_live hne hlive⟩
  · intro hvalid
    obtain ⟨k, huart, hkz, hk, hkmem⟩ := h.valid hvalid
    have hne : k ≠ nc := by
      rintro rfl
      exact hkmem hmem
    exact ⟨k, huart, hkz, closed_live hne hk, fun hk' => hkmem (hsub k hk')⟩

theorem Sound.drop (h : Sound s) (hvalid : s.isConnValid = true) (huart : s.uartNetconn = some nc)
    (hqueued : .netconn nc ∉ s.events) :
    Sound (uartBridgeReset { s with netconns := update s.netconns nc none }) := by
  obtain ⟨k, huart', hnz, -, hkmem⟩ := h.valid hvalid
  rw [huart] at huart'
  cases huart'
  obtain ⟨hmade, hlistener, hevents⟩ := h.delete hnz hqueued
  refine ⟨h.ok, hmade, hlistener, ?_, ?_, h.nodup, ?_, hevents⟩
  · intro k conn hk hkz
    obtain ⟨hne, hk'⟩ := closed_some hk
    obtain ⟨hfalse, hmem | hclient⟩ := h.client k conn hk' hkz
    · exact ⟨hfalse, .inl hmem⟩
    · rw [huart] at hclient
      exact absurd (Option.some.inj hclient.2).symm hne
  · intro k hk
    have hne : k ≠ nc := by
      rintro rfl
      exact hkmem hk
    obtain ⟨hkz, hlive⟩ := h.waiting k hk
    exact ⟨hkz, closed_live hne hlive⟩
  · intro hfalse
    cases hfalse

end Close

theorem LeavesClient.refl (s : State) : LeavesClient s s := ⟨rfl, rfl, rfl, fun _ _ => rfl⟩

theorem onListen_sound (h : Sound s) (accepts : Bool)
    (hlast : s.isConnValid = true → accepts = true → ∀ nc, s.acceptMbox.head? = some nc →
      .netconn nc ∉ s.events) :
    Sound (onListen accepts s) ∧ (s.isConnValid = true → LeavesClient s (onListen accepts s)) := by
  rw [onListen, netconnAccept]
  cases hmbox : s.acceptMbox with
  | nil => exact ⟨h, fun _ => .refl s⟩
  | cons nc mbox =>
      have hmem : nc ∈ s.acceptMbox := hmbox ▸ List.mem_cons_self
      obtain ⟨conn, hconn⟩ := Option.ne_none_iff_exists'.mp (h.waiting nc hmem).2
      cases accepts with
      | false => exact ⟨h, fun _ => .refl s⟩
      | true =>
          have hconn' : ({ s with acceptMbox := mbox } : State).netconns nc = some conn := hconn
          dsimp only
          rw [if_pos rfl]
          dsimp only
          rw [closeTcpNetconn_some hconn', State.follow_some hconn']
          by_cases hvalid : s.isConnValid = true
          · rw [if_pos hvalid]
            refine ⟨h.reject hmbox (hlast hvalid rfl nc (hmbox ▸ rfl)), fun _ => ?_⟩
            refine ⟨rfl, rfl, rfl, ?_⟩
            intro k hk
            obtain ⟨k', huart, -, -, hkmem⟩ := h.valid hvalid
            rw [hk] at huart
            cases huart
            apply Function.update_of_ne
            rintro rfl
            exact hkmem hmem
          · rw [if_neg hvalid]
            exact ⟨h.accept hmbox (Bool.eq_false_iff.mpr hvalid), fun htrue => absurd htrue hvalid⟩

theorem onReceive_sound (h : Sound s) {nc : Nc} {conn : Netconn} (hconn : s.netconns nc = some conn)
    (hnz : nc ≠ 0) {recv : Option Netbuf}
    (hlast : recv = none → conn.pendingErr ≠ .closed → .netconn nc ∉ s.events)
    (hwaits : nc ∈ s.acceptMbox →
      s.isConnValid = false ∧ ¬ (recv = none ∧ conn.pendingErr ≠ .closed)) :
    Sound (onReceive nc conn recv s) := by
  have hset : Sound { s with uartNetconn := nc } := by
    obtain ⟨-, hmem | hclient⟩ := h.client nc conn hconn hnz
    · have hinvalid := (hwaits hmem).1
      refine ⟨h.ok, h.made, h.listener, ?_, h.waiting, h.nodup, ?_, h.queued⟩
      · intro k conn hk hkz
        obtain ⟨hfalse, hkmem | hclient⟩ := h.client k conn hk hkz
        · exact ⟨hfalse, .inl hkmem⟩
        · rw [hinvalid] at hclient
          cases hclient.1
      · intro hvalid
        rw [hinvalid] at hvalid
        cases hvalid
    · have hsame : ({ s with uartNetconn := nc } : State) = s := by
        rw [← hclient.2]
      rw [hsame]
      exact h
  cases recv with
  | some netbuf =>
      exact ⟨hset.ok, hset.made, hset.listener, hset.client, hset.waiting, hset.nodup, hset.valid,
        hset.queued⟩
  | none =>
      simp only [onReceive]
      split
      · exact hset
      next herr =>
        obtain ⟨-, hmem | hclient⟩ := h.client nc conn hconn hnz
        · exact absurd ⟨rfl, herr⟩ (hwaits hmem).2
        · have hconn' : ({ s with uartNetconn := nc } : State).netconns nc = some conn := hconn
          rw [closeTcpNetconn_some hconn']
          exact hset.drop hclient.1 rfl (hlast rfl herr)

theorem onEvent_sound {e : Event} {events : List Event} {o : Answers}
    (hevents : s.events = e :: events)
    (h : Sound s) (ho : InOrder o s) :
    Sound (uartBridgeTask o s) ∧ (Further s → LeavesClient s (uartBridgeTask o s)) := by
  have hpop : Sound { s with events } := by
    apply h.events
    intro nc hnc
    exact h.queued nc (hevents ▸ List.mem_cons_of_mem e hnc)
  have hlast := ho.last
  have haccepted := ho.accepted
  rw [hevents, List.tail_cons] at hlast
  rw [hevents] at haccepted
  rw [uartBridgeTask, hevents]
  dsimp only
  cases e with
  | wifiDisconnected =>
      refine ⟨?_, ?_⟩
      · rw [onEvent]
        dsimp only
        by_cases hvalid : s.isConnValid = true
        · obtain ⟨nc, huart, -, hlive, -⟩ := h.valid hvalid
          obtain ⟨conn, hconn⟩ := Option.ne_none_iff_exists'.mp hlive
          have hconn' : ({ s with events } : State).netconns nc = some conn := hconn
          have hclose := congrArg (closeTcpNetconn · { s with events }) huart
          rw [if_pos hvalid, hclose.trans (closeTcpNetconn_some hconn')]
          apply hpop.drop hvalid huart
          apply hlast
          simp only [closes, hevents, hvalid, if_true, huart]
        · rw [if_neg hvalid]
          exact hpop
      · rintro ⟨-, nc, hhead, -⟩
        rw [hevents] at hhead
        cases hhead
  | netconn nc =>
      have hlive := h.queued nc (hevents ▸ List.mem_cons_self)
      obtain ⟨conn, hconn⟩ := Option.ne_none_iff_exists'.mp hlive
      have hconn' : ({ s with events } : State).netconns nc = some conn := hconn
      rw [onEvent, State.follow_some hconn']
      cases hlistens : conn.listens with
      | true =>
          have hlisten := onListen_sound hpop o.accepts (by
            intro hvalid haccepts k hk
            apply hlast
            have hvalid' : s.isConnValid = true := hvalid
            simp only [closes, hevents, hconn, hlistens, hvalid', haccepts]
            exact hk)
          refine ⟨hlisten.1, fun hfurther => ?_⟩
          obtain ⟨huart, hvalid, hfirst, hclient⟩ := hlisten.2 hfurther.1
          exact ⟨huart, hvalid, hfirst, hclient⟩
      | false =>
          have hnz : nc ≠ 0 := by
            rintro rfl
            obtain ⟨conn', hconn', hlistens'⟩ := h.listener
            rw [hconn] at hconn'
            cases hconn'
            rw [hlistens] at hlistens'
            cases hlistens'
          have hcloses : o.recv = none → conn.pendingErr ≠ .closed → closes o s = some nc := by
            intro hrecv herr
            simp [closes, hevents, hconn, hlistens, hrecv, herr]
          refine ⟨?_, ?_⟩
          · apply onReceive_sound hpop hconn hnz
            · exact fun hrecv herr => hlast nc (hcloses hrecv herr)
            · intro hmem
              obtain ⟨hinvalid, hnone⟩ := haccepted nc rfl hmem
              refine ⟨hinvalid, ?_⟩
              rintro ⟨hrecv, herr⟩
              rw [hcloses hrecv herr] at hnone
              cases hnone
          · rintro ⟨hvalid, k, hhead, hother⟩
            rw [hevents] at hhead
            cases hhead
            obtain ⟨-, hmem | hclient⟩ := h.client nc conn hconn hnz
            · have hinvalid := (haccepted nc rfl hmem).1
              rw [hvalid] at hinvalid
              cases hinvalid
            · exact absurd hclient.2 hother

theorem task_sound {o : Answers} (h : Sound s) (ho : InOrder o s) :
    Sound (uartBridgeTask o s) ∧ (Further s → LeavesClient s (uartBridgeTask o s)) := by
  cases hevents : s.events with
  | nil =>
      have hsame : uartBridgeTask o s = s := by
        rw [uartBridgeTask, hevents]
        dsimp only
        split
        next hvalid =>
          obtain ⟨nc, huart, -, hlive, -⟩ := h.valid hvalid
          obtain ⟨conn, hconn⟩ := Option.ne_none_iff_exists'.mp hlive
          rw [huart, State.follow_some hconn]
        · rfl
      rw [hsame]
      exact ⟨h, fun _ => .refl s⟩
  | cons e events => exact onEvent_sound hevents h ho

theorem step_sound {a : Action} {t : State} (h : Sound s) (ha : Orderly s a)
    (hstep : step s a = some t) : Sound t ∧ Isolates s a := by
  unfold step at hstep
  rw [if_neg (Bool.eq_false_iff.mp h.ok)] at hstep
  cases hstep
  cases a with
  | connect => exact ⟨h.connect, trivial⟩
  | callback nc => exact ⟨h.callback nc, trivial⟩
  | lwipError nc err => exact ⟨h.lwipError nc err, trivial⟩
  | wifiDisconnect =>
      refine ⟨h.send ?_, trivial⟩
      intro nc heq
      cases heq
  | task o => exact task_sound h ha

end Steps

theorem boot_sound : Sound boot := by
  have hzero : ∀ {nc conn}, boot.netconns nc = some conn → nc = 0 := by
    intro nc conn hnc
    by_contra hne
    have hnone : boot.netconns nc = none := Function.update_of_ne hne _ fun _ => none
    rw [hnone] at hnc
    cases hnc
  refine ⟨rfl, ?_, ⟨⟨true, .ok⟩, rfl, rfl⟩, ?_, ?_, List.nodup_nil, ?_, ?_⟩
  · intro nc hnc
    obtain ⟨conn, hconn⟩ := Option.ne_none_iff_exists'.mp hnc
    rw [hzero hconn]
    exact Nat.one_pos
  · exact fun nc conn hnc hnz => absurd (hzero hnc) hnz
  · exact fun nc hnc => absurd hnc List.not_mem_nil
  · intro hfalse
    cases hfalse
  · exact fun nc hnc => absurd hnc List.not_mem_nil

/-- In every run whose connections are closed in order, no deleted netconn is used and further
clients leave the active one alone. -/
theorem isolated_of_orderly (as : List Action) (h : Transition.Meets step Orderly boot as) :
    Transition.Always step (fun s => s.fault = false) boot as ∧
      Transition.Meets step Isolates boot as := by
  have hsound : ∀ s a t, Sound s → Orderly s a → step s a = some t → Sound t ∧ Isolates s a :=
    fun s a t hs ha hstep => step_sound hs ha hstep
  refine ⟨?_, Transition.meets_of_step hsound boot_sound h⟩
  apply Transition.Always.mono fun s hs => Sound.ok hs
  apply Transition.always_of_step _ boot_sound h
  exact fun s a t hs ha hstep => (hsound s a t hs ha hstep).1

def accepting : Answers := ⟨true, none⟩

/-- A client that sends a byte, and a second one that is rejected. -/
def rejection : List Action :=
  [.connect, .callback 0, .task accepting, .callback 1, .task ⟨true, some ⟨[0x41], []⟩⟩,
    .connect, .callback 0, .task accepting]

theorem isolated_rejection : Transition.Always step (fun s => s.fault = false) boot rejection ∧
    Transition.Meets step Isolates boot rejection := by
  apply isolated_of_orderly
  refine ⟨trivial, trivial, ⟨fun _ _ => List.not_mem_nil, ?_⟩, trivial,
    ⟨fun _ _ => List.not_mem_nil, ?_⟩, trivial, trivial, ⟨fun _ _ => List.not_mem_nil, ?_⟩, trivial⟩
  · intro nc hhead hmem
    cases hhead
    exact absurd hmem (by decide)
  · intro nc hhead hmem
    cases hhead
    exact absurd hmem (by decide)
  · intro nc hhead hmem
    cases hhead
    exact absurd hmem (by decide)

def secondClient : List Action :=
  [.connect, .callback 0, .task accepting,
    .connect, .callback 0, .callback 2, .task accepting, .task accepting]

theorem not_isolated_secondClient :
    ¬ (Transition.Always step (fun s => s.fault = false) boot secondClient ∧
      Transition.Meets step Isolates boot secondClient) := by
  rintro ⟨h, -⟩
  have hrun : (Transition.run step boot secondClient).map State.fault = some true := rfl
  obtain ⟨t, ht, hfault⟩ := Option.map_eq_some_iff.mp hrun
  rw [h.of_run ht] at hfault
  cases hfault

end WirelessEsp.UartBridge
