import WirelessEsp.Transition

namespace WirelessEsp.DapProxy

/-- `NO_SIGNAL`, `RESET_HANDLE` and `DELETE_HANDLE`. -/
inductive ResetHandle
  | noSignal
  | reset
  | delete
deriving DecidableEq, Repr

/-- A DAP packet, request or response, with the session that submitted the request. -/
structure Packet where
  session : Nat
deriving DecidableEq, Repr

/-- A byte ring of whole packets. An item that has been received takes up
space until it is returned. -/
structure Ring where
  id : Nat
  items : List Packet
  taken : Bool
deriving DecidableEq, Repr

def DAP_BUFFER_NUM : Nat := 10

def Ring.hasRoom (r : Ring) : Bool :=
  r.items.length + (if r.taken then 1 else 0) < DAP_BUFFER_NUM

/-- An item in the hands of a task: its packet and the ring it points into. -/
structure Item where
  packet : Packet
  ring : Nat
deriving DecidableEq, Repr

/-- The value of a ring handle that a task has loaded; `none` is a null handle. -/
abbrev Handle := Option Nat

/-- Where `tcp_server_task` is. The `urb`, `elRead` and `wsRead` points are the
`recv` calls of the three protocols. -/
inductive TcpPc
  | accept
  | urb
  | outReply
  | outSend (h : Handle)
  | outNotify
  | inCall
  | inReceive (h : Handle)
  | inReply (item : Item)
  | inRespond (item : Item)
  | inReturn (item : Item)
  | inDone
  | unlinkCall
  | unlinkReceive (h : Handle)
  | unlinkRespond (item : Item)
  | unlinkReturn (item : Item)
  | unlinkReply
  | elFlag
  | elMalloc
  | elRead
  | elExecute
  | wsMalloc
  | wsRead
  | wsExecute
  | wsFree
  | cleanup
  | cleanupNotify
deriving DecidableEq, Repr

inductive DapPc
  | init
  | top
  | free
  | afterFree
  | malloc
  | clear
  | wait
  | check
  | receive (h : Handle)
  | process (item : Item)
  | returnIn (item : Item)
  | sendCall (p : Packet)
  | sendOut (p : Packet) (h : Handle)
  | respond
deriving DecidableEq, Repr

/-- The task whose ring operation went through a null or deleted handle. -/
inductive Fault
  | tcpTask
  | dapThread
deriving DecidableEq, Repr

/-- `session`, `resetBy`, `replies` and `discarded` only record the history: the
number of the session, the session that last requested a reset, the packets
sent in non-empty replies and the packets lost in a reset. -/
structure State where
  kRestartDAPHandle : ResetHandle
  started : Bool
  notified : Nat
  dapRespond : Int
  dataIN : Option Ring
  dataOUT : Option Ring
  nextRing : Nat
  tcp : TcpPc
  dap : DapPc
  dapReqNum : Nat
  elBuffer : Bool
  wsBuffer : Bool
  session : Nat
  resetBy : Nat
  replies : List (Nat × Packet)
  discarded : List (Nat × Packet)
  fault : Option Fault
deriving DecidableEq, Repr

def State.boot : State where
  kRestartDAPHandle := .noSignal
  started := false
  notified := 0
  dapRespond := 0
  dataIN := none
  dataOUT := none
  nextRing := 0
  tcp := .accept
  dap := .init
  dapReqNum := 0
  elBuffer := false
  wsBuffer := false
  session := 0
  resetBy := 0
  replies := []
  discarded := []
  fault := none

inductive Transport
  | usbip
  | elaphureLink
  | websocket
  | unknown
deriving DecidableEq, Repr

inductive Command
  | outSubmit
  | inSubmit
  | unlink
  | other
deriving DecidableEq, Repr

/-- A connection comes in, a command has been read, the peer is gone, a ring
wait of the TCP task times out, or one of the tasks goes on. -/
inductive Act
  | connect (t : Transport)
  | command (c : Command)
  | close
  | timeout
  | tcp
  | dap
deriving DecidableEq, Repr

def lookup (ring : Option Ring) (h : Handle) : Option Ring :=
  ring.filter (fun r => some r.id == h)

def handleOf (ring : Option Ring) : Handle := ring.map Ring.id

def inItems (s : State) : List Packet := (s.dataIN.map Ring.items).getD []

def outItems (s : State) : List Packet := (s.dataOUT.map Ring.items).getD []

def fail (s : State) (f : Fault) : State := { s with fault := some f }

def freshRing (s : State) : Ring := ⟨s.nextRing, [], false⟩

/-- The two critical sections of `data_response_mux` over the handles, each as one step. -/
def mallocDapRingbuf (s : State) : State :=
  if s.started then
    { s with
      dataIN := s.dataIN.or (some (freshRing s))
      dataOUT := s.dataOUT.or (some (freshRing s))
      nextRing := s.nextRing + 1 }
  else s

def freeDapRingbuf (s : State) : State :=
  if s.started then { s with dataIN := none, dataOUT := none } else s

def connect (s : State) (t : Transport) : State :=
  let s := { s with session := s.session + 1 }
  match t with
  | .usbip => { s with tcp := .urb, dapReqNum := 0 }
  | .elaphureLink => { s with tcp := .elFlag }
  | .websocket => { s with tcp := .wsMalloc }
  | .unknown => { s with tcp := .cleanup }

/-- One round of the loop of `usbip_urb_process`, up to the first shared access. -/
def urbCommand (s : State) : Command → State
  | .outSubmit => { s with dapReqNum := s.dapReqNum + 1, tcp := .outReply }
  | .inSubmit => if s.dapReqNum > 0 then { s with tcp := .inCall } else s
  | .unlink => { s with tcp := .unlinkCall }
  | .other => s

/-- `xRingbufferSend` with `portMAX_DELAY`; `none` while the ring is full. -/
def sendTo (r : Ring) (p : Packet) : Option Ring :=
  if r.hasRoom then some { r with items := r.items ++ [p] } else none

/-- `xRingbufferReceiveUpTo`; `none` while the ring is empty. -/
def receiveFrom (r : Ring) : Option (Item × Ring) :=
  match r.items with
  | [] => none
  | p :: ps => some (⟨p, r.id⟩, { r with items := ps, taken := true })

/-- `vRingbufferReturnItem` through the current handle; `none` when the item
does not belong to that ring. -/
def returnTo (ring : Option Ring) (item : Item) : Option Ring :=
  (lookup ring (some item.ring)).map (fun r => { r with taken := false })

def tcpStep (s : State) : Option State :=
  match s.tcp with
  | .outReply => some { s with tcp := .outSend (handleOf s.dataIN) }
  | .outSend h =>
      match lookup s.dataIN h with
      | none => some (fail s .tcpTask)
      | some r => do
          let r ← sendTo r ⟨s.session⟩
          pure { s with dataIN := some r, tcp := .outNotify }
  | .outNotify =>
      if s.started then some { s with notified := s.notified + 1, tcp := .urb }
      else some (fail s .tcpTask)
  | .inCall => some { s with tcp := .inReceive (handleOf s.dataOUT) }
  | .inReceive h =>
      match lookup s.dataOUT h with
      | none => some (fail s .tcpTask)
      | some r => do
          let (item, r) ← receiveFrom r
          pure { s with dataOUT := some r, tcp := .inReply item }
  | .inReply item =>
      some { s with replies := s.replies ++ [(s.session, item.packet)], tcp := .inRespond item }
  | .inRespond item => some { s with dapRespond := s.dapRespond - 1, tcp := .inReturn item }
  | .inReturn item =>
      match returnTo s.dataOUT item with
      | none => some (fail s .tcpTask)
      | some r => some { s with dataOUT := some r, tcp := .inDone }
  | .inDone => some { s with dapReqNum := s.dapReqNum - 1, tcp := .urb }
  | .unlinkCall =>
      if s.dapRespond > 0 then some { s with tcp := .unlinkReceive (handleOf s.dataOUT) }
      else some { s with tcp := .unlinkReply }
  | .unlinkReceive h =>
      match lookup s.dataOUT h with
      | none => some (fail s .tcpTask)
      | some r => do
          let (item, r) ← receiveFrom r
          pure { s with dataOUT := some r, tcp := .unlinkRespond item }
  | .unlinkRespond item =>
      some { s with dapRespond := s.dapRespond - 1, tcp := .unlinkReturn item }
  | .unlinkReturn item =>
      match returnTo s.dataOUT item with
      | none => some (fail s .tcpTask)
      | some r => some { s with dataOUT := some r, tcp := .unlinkReply }
  | .unlinkReply => some { s with tcp := .urb }
  | .elFlag => some { s with kRestartDAPHandle := .delete, resetBy := s.session, tcp := .elMalloc }
  | .elMalloc =>
      if s.elBuffer then some { s with tcp := .elRead }
      else some { freeDapRingbuf s with elBuffer := true, tcp := .elRead }
  | .elExecute => some { s with tcp := .elRead }
  | .wsMalloc =>
      if s.wsBuffer then some { s with tcp := .wsRead }
      else some { freeDapRingbuf s with wsBuffer := true, tcp := .wsRead }
  | .wsExecute => some { s with tcp := .wsRead }
  | .wsFree => some { s with wsBuffer := false, tcp := .cleanup }
  | .cleanup =>
      some { s with
        elBuffer := false
        kRestartDAPHandle := .reset
        resetBy := s.session
        tcp := .cleanupNotify }
  | .cleanupNotify =>
      some { s with notified := s.notified + (if s.started then 1 else 0), tcp := .accept }
  | .accept | .urb | .elRead | .wsRead => none

def dapStep (s : State) : Option State :=
  match s.dap with
  | .init =>
      some { s with
        started := true
        dataIN := some (freshRing s)
        dataOUT := some (freshRing s)
        nextRing := s.nextRing + 1
        dap := .top }
  | .top =>
      if s.kRestartDAPHandle = .noSignal then some { s with dap := .wait }
      else some { s with dap := .free }
  | .free =>
      some { freeDapRingbuf s with
        discarded := s.discarded ++ (inItems s ++ outItems s).map (fun p => (s.resetBy, p))
        dap := .afterFree }
  | .afterFree =>
      if s.kRestartDAPHandle = .reset then some { s with dap := .malloc }
      else some { s with dap := .clear }
  | .malloc => some { mallocDapRingbuf s with dap := .clear }
  | .clear => some { s with kRestartDAPHandle := .noSignal, dap := .wait }
  | .wait =>
      if s.notified > 0 then some { s with notified := s.notified - 1, dap := .check } else none
  | .check =>
      if s.dataIN = none ∨ s.dataOUT = none then some { s with dap := .top }
      else some { s with dap := .receive (handleOf s.dataIN) }
  | .receive h =>
      match lookup s.dataIN h with
      | none => some (fail s .dapThread)
      | some r =>
          match receiveFrom r with
          | none => some { s with dap := .top }
          | some (item, r) => some { s with dataIN := some r, dap := .process item }
  | .process item => some { s with dap := .returnIn item }
  | .returnIn item =>
      match returnTo s.dataIN item with
      | none => some (fail s .dapThread)
      | some r => some { s with dataIN := some r, dap := .sendCall item.packet }
  | .sendCall p => some { s with dap := .sendOut p (handleOf s.dataOUT) }
  | .sendOut p h =>
      match lookup s.dataOUT h with
      | none => some (fail s .dapThread)
      | some r => do
          let r ← sendTo r p
          pure { s with dataOUT := some r, dap := .respond }
  | .respond => some { s with dapRespond := s.dapRespond + 1, dap := .top }

def commandStep (s : State) (c : Command) : Option State :=
  match s.tcp with
  | .urb => some (urbCommand s c)
  | .elRead => some { s with tcp := .elExecute }
  | .wsRead => some { s with tcp := .wsExecute }
  | _ => none

def closeStep (s : State) : Option State :=
  match s.tcp with
  | .urb => some { s with tcp := .cleanup }
  | .elRead => some { s with tcp := .cleanup }
  | .wsRead => some { s with tcp := .wsFree }
  | _ => none

/-- `handle_dap_unlink` gives up after ten milliseconds. -/
def timeoutStep (s : State) : Option State :=
  match s.tcp with
  | .unlinkReceive h =>
      match lookup s.dataOUT h with
      | none => some (fail s .tcpTask)
      | some r => if r.items = [] then some { s with tcp := .unlinkReply } else none
  | _ => none

def enabledStep (s : State) : Act → Option State
  | .connect t => if s.tcp = .accept then some (connect s t) else none
  | .command c => commandStep s c
  | .close => closeStep s
  | .timeout => timeoutStep s
  | .tcp => tcpStep s
  | .dap => dapStep s

/-- A step of the system; there is none after a fault. -/
def step (s : State) (a : Act) : Option State :=
  if s.fault.isSome then none else enabledStep s a

@[simp] theorem freeDapRingbuf_kRestartDAPHandle (s : State) : (freeDapRingbuf s).kRestartDAPHandle = s.kRestartDAPHandle := by
  unfold freeDapRingbuf
  split <;> rfl

@[simp] theorem freeDapRingbuf_started (s : State) : (freeDapRingbuf s).started = s.started := by
  unfold freeDapRingbuf
  split <;> rfl

@[simp] theorem freeDapRingbuf_notified (s : State) : (freeDapRingbuf s).notified = s.notified := by
  unfold freeDapRingbuf
  split <;> rfl

@[simp] theorem freeDapRingbuf_tcp (s : State) : (freeDapRingbuf s).tcp = s.tcp := by
  unfold freeDapRingbuf
  split <;> rfl

@[simp] theorem freeDapRingbuf_dap (s : State) : (freeDapRingbuf s).dap = s.dap := by
  unfold freeDapRingbuf
  split <;> rfl

@[simp] theorem freeDapRingbuf_elBuffer (s : State) : (freeDapRingbuf s).elBuffer = s.elBuffer := by
  unfold freeDapRingbuf
  split <;> rfl

@[simp] theorem freeDapRingbuf_wsBuffer (s : State) : (freeDapRingbuf s).wsBuffer = s.wsBuffer := by
  unfold freeDapRingbuf
  split <;> rfl

@[simp] theorem freeDapRingbuf_session (s : State) : (freeDapRingbuf s).session = s.session := by
  unfold freeDapRingbuf
  split <;> rfl

@[simp] theorem freeDapRingbuf_resetBy (s : State) : (freeDapRingbuf s).resetBy = s.resetBy := by
  unfold freeDapRingbuf
  split <;> rfl

@[simp] theorem freeDapRingbuf_replies (s : State) : (freeDapRingbuf s).replies = s.replies := by
  unfold freeDapRingbuf
  split <;> rfl

@[simp] theorem freeDapRingbuf_fault (s : State) : (freeDapRingbuf s).fault = s.fault := by
  unfold freeDapRingbuf
  split <;> rfl

@[simp] theorem mallocDapRingbuf_kRestartDAPHandle (s : State) : (mallocDapRingbuf s).kRestartDAPHandle = s.kRestartDAPHandle := by
  unfold mallocDapRingbuf
  split <;> rfl

@[simp] theorem mallocDapRingbuf_started (s : State) : (mallocDapRingbuf s).started = s.started := by
  unfold mallocDapRingbuf
  split <;> rfl

@[simp] theorem mallocDapRingbuf_notified (s : State) : (mallocDapRingbuf s).notified = s.notified := by
  unfold mallocDapRingbuf
  split <;> rfl

@[simp] theorem mallocDapRingbuf_tcp (s : State) : (mallocDapRingbuf s).tcp = s.tcp := by
  unfold mallocDapRingbuf
  split <;> rfl

@[simp] theorem mallocDapRingbuf_elBuffer (s : State) : (mallocDapRingbuf s).elBuffer = s.elBuffer := by
  unfold mallocDapRingbuf
  split <;> rfl

@[simp] theorem mallocDapRingbuf_wsBuffer (s : State) : (mallocDapRingbuf s).wsBuffer = s.wsBuffer := by
  unfold mallocDapRingbuf
  split <;> rfl

@[simp] theorem mallocDapRingbuf_session (s : State) : (mallocDapRingbuf s).session = s.session := by
  unfold mallocDapRingbuf
  split <;> rfl

@[simp] theorem mallocDapRingbuf_resetBy (s : State) : (mallocDapRingbuf s).resetBy = s.resetBy := by
  unfold mallocDapRingbuf
  split <;> rfl

@[simp] theorem mallocDapRingbuf_replies (s : State) : (mallocDapRingbuf s).replies = s.replies := by
  unfold mallocDapRingbuf
  split <;> rfl

@[simp] theorem mallocDapRingbuf_discarded (s : State) : (mallocDapRingbuf s).discarded = s.discarded := by
  unfold mallocDapRingbuf
  split <;> rfl

@[simp] theorem mallocDapRingbuf_fault (s : State) : (mallocDapRingbuf s).fault = s.fault := by
  unfold mallocDapRingbuf
  split <;> rfl

theorem inItems_free {s : State} (h : inItems s = []) : inItems (freeDapRingbuf s) = [] := by
  unfold freeDapRingbuf
  split
  next => rfl
  next => exact h

theorem inItems_malloc (s : State) : inItems (mallocDapRingbuf s) = inItems s := by
  unfold mallocDapRingbuf
  split
  next => simp only [inItems]; cases s.dataIN <;> rfl
  next => rfl

theorem outItems_malloc (s : State) : outItems (mallocDapRingbuf s) = outItems s := by
  unfold mallocDapRingbuf
  split
  next => simp only [outItems]; cases s.dataOUT <;> rfl
  next => rfl

theorem step_some {s t : State} {a : Act} (h : step s a = some t) :
    s.fault = none ∧ enabledStep s a = some t := by
  rw [step] at h
  split at h
  next => cases h
  next hf => exact ⟨by simpa using hf, h⟩

theorem lookup_some {ring : Option Ring} {h : Handle} {r : Ring} (hl : lookup ring h = some r) :
    ring = some r ∧ h = some r.id := by
  rw [lookup, Option.filter_eq_some_iff, beq_iff_eq] at hl
  exact ⟨hl.1, hl.2.symm⟩

theorem lookup_self (r : Ring) : lookup (some r) (some r.id) = some r := by
  rw [lookup, Option.filter_eq_some_iff]
  exact ⟨rfl, beq_self_eq_true _⟩

theorem sendTo_some {r r' : Ring} {p : Packet} (h : sendTo r p = some r') :
    r' = { r with items := r.items ++ [p] } := by
  rw [sendTo] at h
  split at h
  next => cases h; rfl
  next => cases h

theorem receiveFrom_some {r r' : Ring} {item : Item} (h : receiveFrom r = some (item, r')) :
    r.items = item.packet :: r'.items ∧ item.ring = r.id ∧ r'.id = r.id := by
  rw [receiveFrom] at h
  split at h
  next => cases h
  next p ps hitems => cases h; exact ⟨hitems, rfl, rfl⟩

theorem receiveFrom_none {r : Ring} (h : receiveFrom r = none) : r.items = [] := by
  rw [receiveFrom] at h
  split at h
  next hitems => exact hitems
  next => cases h

theorem returnTo_some {ring : Option Ring} {item : Item} {r' : Ring}
    (h : returnTo ring item = some r') :
    ∃ r, ring = some r ∧ r.id = item.ring ∧ r' = { r with taken := false } := by
  rw [returnTo, Option.map_eq_some_iff] at h
  obtain ⟨r, hl, rfl⟩ := h
  obtain ⟨hr, hid⟩ := lookup_some hl
  exact ⟨r, hr, (Option.some.inj hid).symm, rfl⟩

end WirelessEsp.DapProxy
