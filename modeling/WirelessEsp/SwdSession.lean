import WirelessEsp.DapCommand
import WirelessEsp.SwdWires
import WirelessEsp.SwjSequence

namespace WirelessEsp.SwdSession

open DapTypes DapProbe DapTransfer DapCommand SwLine SwdWires LinkSimulation

variable {υ : Type}

structure Answer where
  bytes : List UInt8
  num : UInt32

/-- The commands of a session, one after the other. -/
def session {σ : Type} (t : Target) (L : Link σ) : List Request → State σ → List Answer × State σ
  | [], s => ([], s)
  | request :: requests, s =>
      let reply := dapProcessCommand t L request s
      let (answers, s) := session t L requests reply.state
      (⟨reply.bytes, reply.num⟩ :: answers, s)

/-- `SWJ_Sequence` of `SW_DP.c`; `none` when it leaves its arrays. -/
def swjSequence (wires : SpiOp.Wires) (garbage : Vector UInt32 16) (speed : TransferType)
    (count : UInt32) (data : Request) (p : SpiOp.Port) : Option SpiOp.Port :=
  match speed with
  | .spi => SwDp.swjSequenceSpi wires garbage count data p
  | .gpioFast => some (SwDp.swjSequenceGpio count data p)
  | .gpioNormal => some (SwDp.swjSequenceGpio count data p)

/-- The SWJ sequences of `L` are those of `SW_DP.c` on the line, and are nothing to the port. -/
structure SequencesOnLine (P : SwLine.Port υ) (base : Link υ) (L : Link (Swdio υ)) : Prop where
  swj (d : DapData) (speed : TransferType) (count : UInt32) (data : Request) (x : Swdio υ) :
    ∃ wires garbage, ∀ q ∈ swjSequence wires garbage speed count data (x.port d),
      L.swjSequence d speed count data x = ⟨x.line.run P q.trace, q.level, q.spi⟩
  base (d : DapData) (speed : TransferType) (count : UInt32) (data : Request) (u : υ) :
    base.swjSequence d speed count data u = u

/-- The bits of the request are a line reset: fifty ones or more, and then zeros. The SPI path has
no more than 128 bits. -/
def LineReset (speed : TransferType) (request : Request) : Prop :=
  ∃ ones zeros, 50 ≤ ones ∧ 0 < zeros ∧ (speed = .spi → ones + zeros ≤ 128) ∧
    (request 0).toNat = ones + zeros ∧
    ∀ i < ones + zeros, BitStreams.byteBit (request.from 1) i = decide (i < ones)

/-- The commands that set up or use other pins, and the configuration of the port. -/
def otherCommands : List UInt8 := [0x02, 0x03, 0x09, 0x0A, 0x10, 0x11, 0x13, 0x14, 0x1D]

/-- A command that may come once the port is connected. -/
def Allowed (speed : TransferType) (request : Request) : Prop :=
  request 0 ∉ otherCommands ∧
    (request 0 = 0x04 → speed = .spi → (request 1).toNat ≤ 32) ∧
    (request 0 = 0x12 → LineReset speed (request.from 1))

variable {P : SwLine.Port υ} {time : υ → UInt32} {base : Link υ} {L : Link (Swdio υ)}
  {s : State (Swdio υ)} {u : υ} {request : Request} {t : Target} {ir : UInt32}
  {speed : TransferType}

theorem sequenceBits_reset {ones zeros : Nat} {data : Request}
    (h : ∀ i < ones + zeros, BitStreams.byteBit data i = decide (i < ones)) :
    SwjSequence.sequenceBits data (ones + zeros) =
      .replicate ones (some true) ++ .replicate zeros (some false) := by
  apply List.ext_getElem
  · rw [SwjSequence.sequenceBits_length, List.length_append, List.length_replicate,
      List.length_replicate]
  intro i hi hi'
  rw [SwjSequence.sequenceBits_length] at hi
  rw [List.getElem_append]
  simp only [SwjSequence.sequenceBits, List.getElem_map, List.getElem_range, h i hi,
    List.getElem_replicate, List.length_replicate]
  split
  · next hlt => rw [decide_eq_true hlt]
  · next hge => rw [decide_eq_false hge]

theorem swjSequence_trace (wires : SpiOp.Wires) (garbage : Vector UInt32 16) {speed : TransferType}
    {count : UInt8} (hpos : count ≠ 0) (hspi : speed = .spi → count.toNat ≤ 128) (data : Request)
    (p : SpiOp.Port) : ∃ q, swjSequence wires garbage speed count.toUInt32 data p = some q ∧
      q.trace = p.trace ++ SwjSequence.sequenceBits data count.toNat := by
  cases speed with
  | spi =>
      obtain ⟨q, hq, htrace⟩ :=
        @SwjSequence.dapSpiWriteBits_trace wires p garbage _ hpos (hspi rfl) data
      refine ⟨q, ?_, htrace⟩
      rw [← hq, swjSequence, SwDp.swjSequenceSpi, UInt8.toUInt8_toUInt32]
  | gpioFast => exact ⟨_, rfl, SwjSequence.swjSequenceGpio_trace _ data⟩
  | gpioNormal => exact ⟨_, rfl, SwjSequence.swjSequenceGpio_trace _ data⟩

theorem lineReset_same (hS : SequencesOnLine P base L) (hfits : Fits P speed s)
    (hsilent : s.world.line.Silent) (hreset : LineReset s.speed request) :
    SameReply (Idle P speed) (dapSwjSequence L request s)
      (dapSwjSequence (directLink P time base) request (inWorld s s.world.line.unit)) := by
  obtain ⟨ones, zeros, hones, hzeros, hspi, hcount, hbits⟩ := hreset
  have hpos : request 0 ≠ 0 := by
    intro hzero
    rw [hzero] at hcount
    have hnone : (0 : UInt8).toNat = 0 := rfl
    omega
  have hword : ((request 0).toUInt32 == 0) = false := by
    apply beq_eq_false_iff_ne.mpr
    intro hzero
    apply hpos
    rw [← UInt8.toUInt8_toUInt32 (request 0), hzero]
    rfl
  obtain ⟨wires, garbage, hswj⟩ :=
    hS.swj s.dapData s.speed (request 0).toUInt32 (request.from 1) s.world
  obtain ⟨q, hq, htrace⟩ := swjSequence_trace wires garbage hpos
    (fun h => by rw [hcount]; exact hspi h) (request.from 1) (s.world.port s.dapData)
  have hworld := hswj q hq
  have hstill := hS.base s.dapData s.speed (request 0).toUInt32 (request.from 1) s.world.line.unit
  have hrests : (s.world.line.run P q.trace).Rests s.world.line.unit := by
    rw [htrace, hcount, sequenceBits_reset hbits]
    exact run_lineReset hsilent hones hzeros
  simp only [dapSwjSequence, hword, Bool.false_eq_true, if_false, State.onWorld, hworld]
  refine ⟨rfl, rfl, 0, s.world.line.unit, ?_, hrests, hfits.port, hfits.speed, hfits.turn, hfits.short,
    hfits.dataPhase, hfits.idle⟩
  exact congrArg (State.mk s.dapData s.speed) hstill

theorem same_state (bytes : List UInt8) (num : UInt32) (h : Idle P speed ir s u) :
    SameReply (Idle P speed) ⟨bytes, num, s⟩ ⟨bytes, num, inWorld s u⟩ := ⟨rfl, rfl, ir, u, rfl, h⟩

theorem hostStatus_same (h : Idle P speed ir s u) :
    SameReply (Idle P speed) (dapHostStatus request s) (dapHostStatus request (inWorld s u)) := by
  rw [dapHostStatus, dapHostStatus]
  split <;> exact same_state _ _ h

theorem jtagConfigure_same (h : Idle P speed ir s u) :
    SameReply (Idle P speed) (dapJtagConfigure request s) (dapJtagConfigure request (inWorld s u)) :=
  ⟨rfl, rfl, ir, u, rfl, h.1, h.2.port, h.2.speed, h.2.turn, h.2.short, h.2.dataPhase, h.2.idle⟩

theorem transferConfigure_same (h : Idle P speed ir s u)
    (hidle : s.speed = .spi → (request 0).toNat ≤ 32) :
    SameReply (Idle P speed) (dapTransferConfigure request s)
      (dapTransferConfigure request (inWorld s u)) :=
  ⟨rfl, rfl, ir, u, rfl, h.1, h.2.port, h.2.speed, h.2.turn, h.2.short, h.2.dataPhase, hidle⟩

theorem jtagIdCode_same (h : Idle P speed ir s u) :
    SameReply (Idle P speed) (dapJtagIdCode L request s)
      (dapJtagIdCode (directLink P time base) request (inWorld s u)) := by
  have hport : (s.dapData.debugPort != DAP_PORT_JTAG) = true := by
    rw [h.2.port]
    rfl
  have hport' : ((inWorld s u).dapData.debugPort != DAP_PORT_JTAG) = true := hport
  rw [dapJtagIdCode, if_pos hport, dapJtagIdCode, if_pos hport']
  exact same_state _ _ h

theorem writeAbort_same (hL : OnLine P time base L) (h : Idle P speed ir s u) :
    SameReply (Idle P speed) (dapWriteAbort L request s)
      (dapWriteAbort (directLink P time base) request (inWorld s u)) := by
  have hport : (s.dapData.debugPort == DAP_PORT_SWD) = true := by
    rw [h.2.port]
    rfl
  have hport' : ((inWorld s u).dapData.debugPort == DAP_PORT_SWD) = true := hport
  obtain ⟨u', hsame, hidle⟩ := idle_once hL ir s u DP_ABORT true (request.word 1) h
  simp only [dapWriteAbort, hport, hport', if_true, dapSwdWriteAbort, swdSend, hsame]
  exact ⟨rfl, rfl, ir, u', rfl, hidle⟩

def known : List UInt8 := [0x01, 0x04, 0x05, 0x06, 0x08, 0x12, 0x15, 0x16]

theorem command_unknown {σ : Type} (L : Link σ) {id : UInt8} (hknown : id ∉ known)
    (hother : id ∉ otherCommands) (request : Request) (s : State σ) :
    command t L id request s = none := by
  unfold command
  split
  all_goals first
    | rfl
    | exact absurd (by decide) hknown
    | exact absurd (by decide) hother

inductive SameCommand (P : SwLine.Port υ) (speed : TransferType) :
    Option (Reply (Swdio υ)) → Option (Reply υ) → Prop
  | some {reply reply'} (h : SameReply (Idle P speed) reply reply') :
      SameCommand P speed (some reply) (some reply')
  | none : SameCommand P speed none none

theorem command_same (hL : OnLine P time base L) (hS : SequencesOnLine P base L) {id : UInt8}
    (hother : id ∉ otherCommands)
    (hidle : id = 0x04 → s.speed = .spi → (request 0).toNat ≤ 32)
    (hreset : id = 0x12 → LineReset s.speed request) (h : Idle P speed ir s u) :
    SameCommand P speed (command t L id request s)
      (command t (directLink P time base) id request (inWorld s u)) := by
  by_cases hknown : id ∈ known
  · have hcases : id = 0x01 ∨ id = 0x04 ∨ id = 0x05 ∨ id = 0x06 ∨ id = 0x08 ∨ id = 0x12 ∨
        id = 0x15 ∨ id = 0x16 := by simpa [known] using hknown
    obtain rfl | rfl | rfl | rfl | rfl | rfl | rfl | rfl := hcases
    · exact .some (hostStatus_same h)
    · exact .some (transferConfigure_same h (hidle rfl))
    · exact .some (transfer_same hL h).1
    · exact .some (transfer_same hL h).2
    · exact .some (writeAbort_same hL h)
    · have hunit := h.1.unit
      subst hunit
      exact .some (lineReset_same hS h.2 h.1.silent (hreset rfl))
    · exact .some (jtagConfigure_same h)
    · exact .some (jtagIdCode_same h)
  · rw [command_unknown L hknown hother, command_unknown _ hknown hother]
    exact .none

theorem processCommand_same (hL : OnLine P time base L) (hS : SequencesOnLine P base L)
    (hallowed : Allowed s.speed request) (h : Idle P speed ir s u) :
    SameReply (Idle P speed) (dapProcessCommand t L request s)
      (dapProcessCommand t (directLink P time base) request (inWorld s u)) := by
  rw [dapProcessCommand, dapProcessCommand]
  split
  · exact same_state _ _ h
  · split
    · exact same_state _ _ h
    · obtain ⟨hother, hidle, hreset⟩ := hallowed
      have hsame := @command_same _ P time base L s u (request.from 1) t ir speed hL hS _ hother hidle
        hreset h
      generalize command t L (request 0) (request.from 1) s = c at hsame
      generalize command t (directLink P time base) (request 0) (request.from 1) (inWorld s u) = c'
        at hsame
      cases hsame with
      | some hreply =>
          exact ⟨congrArg (request 0 :: ·) hreply.bytes, congrArg (counts 1 1 + ·) hreply.num,
            hreply.state⟩
      | none => exact same_state _ _ h

/-- The answers of the two sessions. -/
structure SameSession (P : SwLine.Port υ) (speed : TransferType)
    (result : List Answer × State (Swdio υ)) (result' : List Answer × State υ) : Prop where
  answers : result'.1 = result.1
  state : ∃ ir u, result'.2 = inWorld result.2 u ∧ Idle P speed ir result.2 u

theorem SameSession.cons {reply : Reply (Swdio υ)} {reply' : Reply υ}
    (h : SameReply (Idle P speed) reply reply') {requests : List Request}
    (hrest : ∀ ir u, reply'.state = inWorld reply.state u → Idle P speed ir reply.state u →
      SameSession P speed (session t L requests reply.state)
        (session t (directLink P time base) requests reply'.state)) :
    SameSession P speed
      (⟨reply.bytes, reply.num⟩ :: (session t L requests reply.state).1,
        (session t L requests reply.state).2)
      (⟨reply'.bytes, reply'.num⟩ :: (session t (directLink P time base) requests reply'.state).1,
        (session t (directLink P time base) requests reply'.state).2) := by
  obtain ⟨ir, u, hstate, hidle⟩ := h.state
  obtain ⟨hanswers, hend⟩ := hrest ir u hstate hidle
  exact ⟨by rw [h.bytes, h.num, hanswers], hend⟩

theorem session_same (hL : OnLine P time base L) (hS : SequencesOnLine P base L)
    (requests : List Request) (hallowed : ∀ request ∈ requests, Allowed speed request)
    (h : Idle P speed ir s u) :
    SameSession P speed (session t L requests s)
      (session t (directLink P time base) requests (inWorld s u)) := by
  induction requests generalizing ir s u with
  | nil => exact ⟨rfl, ir, u, rfl, h⟩
  | cons request requests ih =>
      have hfirst : Allowed s.speed request := by
        rw [h.2.speed]
        exact hallowed request List.mem_cons_self
      refine SameSession.cons (processCommand_same hL hS hfirst h) fun ir u hstate hidle => ?_
      rw [hstate]
      exact ih (fun request hmem => hallowed request (List.mem_cons_of_mem _ hmem)) hidle

/-- A session that starts with a line reset, on a line that may have lost the synchronisation: its
answers are those of the debug port in one step, command by command, and the port is left in the
same state with its line idle. -/
theorem session_over_line (P : SwLine.Port υ) (time : υ → UInt32) (base : Link υ)
    (L : Link (Swdio υ)) (hL : OnLine P time base L) (hS : SequencesOnLine P base L) (t : Target)
    (speed : TransferType) (reset : Request) (requests : List Request) (s : State (Swdio υ))
    (hfits : Fits P speed s) (hsilent : s.world.line.Silent) (hreset : reset 0 = 0x12)
    (hallowed : ∀ request ∈ reset :: requests, Allowed speed request) :
    SameSession P speed (session t L (reset :: requests) s)
      (session t (directLink P time base) (reset :: requests) (inWorld s s.world.line.unit)) := by
  have hbits : LineReset s.speed (reset.from 1) := by
    rw [hfits.speed]
    exact (hallowed reset List.mem_cons_self).2.2 hreset
  have hsame := @lineReset_same _ P time base L s (reset.from 1) speed hS hfits hsilent hbits
  have hprocess {σ : Type} (L : Link σ) (s : State σ) : dapProcessCommand t L reset s =
      ⟨reset 0 :: (dapSwjSequence L (reset.from 1) s).bytes,
        counts 1 1 + (dapSwjSequence L (reset.from 1) s).num,
        (dapSwjSequence L (reset.from 1) s).state⟩ := by
    rw [dapProcessCommand, hreset]
    rfl
  have hfirst : SameReply (Idle P speed) (dapProcessCommand t L reset s)
      (dapProcessCommand t (directLink P time base) reset (inWorld s s.world.line.unit)) := by
    rw [hprocess, hprocess]
    exact ⟨congrArg (reset 0 :: ·) hsame.bytes, congrArg (counts 1 1 + ·) hsame.num, hsame.state⟩
  refine SameSession.cons hfirst fun ir u hstate hidle => ?_
  rw [hstate]
  exact session_same hL hS requests
    (fun request hmem => hallowed request (List.mem_cons_of_mem _ hmem)) hidle

def sessionLink (P : SwLine.Port υ) (time : υ → UInt32) (base : Link υ) : Link (Swdio υ) :=
  { lineLink P time base idleLink with
    swjSequence := fun d speed count data x =>
      match swjSequence (shown P time x.line []) (.replicate 16 0) speed count data (x.port d) with
      | some q => ⟨x.line.run P q.trace, q.level, q.spi⟩
      | none => x }

theorem sessionLink_onLine (P : SwLine.Port υ) (time : υ → UInt32) (base : Link υ) :
    OnLine P time base (sessionLink P time base) where
  swd := fun d speed request stores data x => ⟨_, settled_answered d speed request stores data x, rfl⟩
  clear := fun _ => rfl
  aborted := fun _ => rfl
  garbage := rfl

theorem sessionLink_sequences (P : SwLine.Port υ) (time : υ → UInt32) :
    SequencesOnLine P idleLink (sessionLink P time idleLink) where
  swj := fun d speed count data x => by
    refine ⟨shown P time x.line [], .replicate 16 0, fun q hq => ?_⟩
    rw [Option.mem_def] at hq
    simp only [sessionLink, hq]
  base := fun _ _ _ _ _ => rfl

def resetRequest : Request := fun i =>
  [0x12, 64, 0xFF, 0xFF, 0xFF, 0xFF, 0xFF, 0xFF, 0xFF, 0x00].getD i 0

/-- `DAP_Transfer` to the memory port, and `DAP_WriteABORT`. -/
def memoryCommands : List Request :=
  [fun i => if i = 0 then 0x05 else PostedReads.memoryRequest (i - 1),
    fun i => [0x08, 0, 0x1E, 0, 0, 0].getD i 0]

def lostLine : State (Swdio (WaitingTarget.Waiting (PostedTarget.World UInt32))) :=
  { memoryLine with
    world := { memoryLine.world with line := { memoryLine.world.line with phase := .deaf } } }

theorem session_over_line_lostLine :
    let P := swdPort PostedReads.memoryPort 1 false
    let time := fun w : WaitingTarget.Waiting (PostedTarget.World UInt32) => w.world.dap.regs
    SameSession P .spi
      (session .esp32 (sessionLink P time idleLink) (resetRequest :: memoryCommands) lostLine)
      (session .esp32 (directLink P time idleLink) (resetRequest :: memoryCommands)
        (inWorld lostLine lostLine.world.line.unit)) := by
  intro P time
  refine session_over_line P time idleLink (sessionLink P time idleLink)
    (sessionLink_onLine P time idleLink) (sessionLink_sequences P time) .esp32 .spi resetRequest
    memoryCommands lostLine ⟨rfl, rfl, rfl, ?_, rfl, fun _ => Nat.zero_le 32⟩ trivial rfl ?_
  · show 1 ≤ 4
    omega
  · have hreset : LineReset .spi (resetRequest.from 1) :=
      ⟨56, 8, by omega, by omega, fun _ => by omega, rfl, by decide⟩
    intro request hmem
    rcases List.mem_cons.mp hmem with rfl | hmem
    · exact ⟨by decide, fun h => absurd h (by decide), fun _ => hreset⟩
    · rcases List.mem_cons.mp hmem with rfl | hmem
      · exact ⟨by decide, fun h => absurd h (by decide), fun h => absurd h (by decide)⟩
      · obtain rfl := List.mem_singleton.mp hmem
        exact ⟨by decide, fun h => absurd h (by decide), fun h => absurd h (by decide)⟩

end WirelessEsp.SwdSession
