import WirelessEsp.JtagTarget
import WirelessEsp.SwdWires

namespace WirelessEsp.SwdTarget

open DapTypes DapProbe DapTransfer PostedTarget JtagTarget LinkSimulation SwdWires
open WaitingTarget (Waiting waiting)
open BitStreams (bit nibble)

variable {τ : Type} (T : PostedTarget.Registers τ) (time : τ → UInt32)

def stampedLink : Link (World τ) :=
  { timedLink T time with
    swdTransfer := fun d speed request stores data w =>
      let t := (postedLink T).swdTransfer d speed request stores data w
      { t with
        timestamp :=
          if has request DAP_TRANSFER_TIMESTAMP then time t.world.dap.regs else d.timestamp } }

theorem stampedLink_prompt : WaitingTarget.Prompt (stampedLink T time) where
  swd _ _ _ _ _ _ := ne_of_beq_false rfl
  jtag := (timedLink_prompt T time).jtag
  running := (timedLink_prompt T time).running
  stamps := (timedLink_prompt T time).stamps

def lineTime (w : Waiting (World τ)) : UInt32 := time w.world.dap.regs

variable {T time}

theorem has_apndp (request : UInt32) : has request DAP_TRANSFER_APnDP = bit request 0 :=
  BitStreams.and_one_bne request

theorem access_eq (turn : Nat) (dataPhase : Bool) (request data : UInt32)
    {w : Waiting (World τ)} (h : ∀ times ∈ w.waits.head?, times = []) :
    (swdPort T turn dataPhase).access (headerOf request) data w =
      let result := w.world.dap.transfer T (has request DAP_TRANSFER_APnDP)
        (has request DAP_TRANSFER_APnDP) request data
      (none, result.1, ⟨{ w.world with dap := result.2 }, w.waits.tail⟩) := by
  have haddress := addressOf_nibble request
  have hnone : (swdPort T turn dataPhase).refuse (headerOf request) w = none := by
    obtain ⟨world, waits⟩ := w
    cases waits with
    | nil => rfl
    | cons times rest =>
        obtain rfl : times = [] := h times rfl
        rfl
  rw [SwLine.Port.access, hnone, has_apndp, DebugPort.transfer, has_rnw]
  cases hrnw : bit request 1 with
  | true =>
      have hread := @read_address τ T (bit request 0) (bit request 0) w.world.dap _ _ haddress
      simp only [headerOf, hrnw, swdPort, hread, if_true]
  | false =>
      have hwrite := @write_address τ T data (bit request 0) w.world.dap _ _ haddress
      simp only [headerOf, hrnw, swdPort, hwrite, Bool.false_eq_true, if_false]

theorem directLink_swdPort (turn : Nat) (dataPhase : Bool) :
    directLink (swdPort T turn dataPhase) (lineTime time) (waiting (stampedLink T time)) =
      waiting (stampedLink T time) := by
  have hswd : (directLink (swdPort T turn dataPhase) (lineTime time)
      (waiting (stampedLink T time))).swdTransfer = (waiting (stampedLink T time)).swdTransfer := by
    funext d speed request stores data w
    by_cases hready : ∀ times ∈ w.waits.head?, times = []
    · have hserve := @WaitingTarget.waitOrServe_serve _ (fun _ => d.timestamp) data
        ((stampedLink T time).swdTransfer d speed request stores data) w hready
      simp only [directLink, access_eq turn dataPhase request data hready]
      exact hserve.symm
    · obtain ⟨now, times, rest, hbusy⟩ := WaitingTarget.waits_busy hready
      obtain ⟨world, waits⟩ := w
      obtain rfl : waits = (now :: times) :: rest := hbusy
      rfl
  exact congrArg (fun f => { waiting (stampedLink T time) with swdTransfer := f }) hswd

/-- The reply over the line is that of a target which is always ready, and the target is left in the
same state. -/
structure SameAsReady (reply : Reply (Swdio (Waiting (World τ)))) (reply' : Reply (World τ)) :
    Prop where
  bytes : reply.bytes = reply'.bytes
  num : reply.num = reply'.num
  dapData : reply.state.dapData = reply'.state.dapData
  rests : ∃ w, reply.state.world.line.Rests w ∧ w.world = reply'.state.world

theorem sameAsReady {reply : Reply (Swdio (Waiting (World τ)))} {reply' : Reply (Waiting (World τ))}
    {reply'' : Reply (World τ)} (h : SameOverLine reply reply')
    (h' : WaitingTarget.SameAnswer reply' reply'') : SameAsReady reply reply'' where
  bytes := h.bytes.trans h'.bytes
  num := h.num.trans h'.num
  dapData := h.dapData.trans (congrArg State.dapData h'.state)
  rests := ⟨_, h.rests, congrArg State.world h'.state⟩

/-- Over the line of a debug port that posts its reads and sometimes answers WAIT, `DAP_Transfer` and
`DAP_TransferBlock` answer as with a target in one step that is always ready. -/
theorem transfer_as_ready {turn : Nat} {dataPhase : Bool} {L : Link (Swdio (Waiting (World τ)))}
    (hL : OnLine (swdPort T turn dataPhase) (lineTime time) (waiting (stampedLink T time)) L)
    {speed : TransferType} (request : Request) {s : State (Swdio (Waiting (World τ)))}
    {w : Waiting (World τ)} (hrests : s.world.line.Rests w)
    (hfits : Fits (swdPort T turn dataPhase) speed s)
    (hpatient : WaitingTarget.Patient s.dapData w) :
    SameAsReady (dapTransfer L request s)
        (dapTransfer (stampedLink T time) request (inWorld s w.world)) ∧
      SameAsReady (dapTransferBlock L request s)
        (dapTransferBlock (stampedLink T time) request (inWorld s w.world)) := by
  have hidle : Idle (swdPort T turn dataPhase) speed 0 s w := ⟨hrests, hfits⟩
  obtain ⟨htransfer, hblock⟩ := @transfer_same _ _ _ _ _ _ _ hL _ _ request hidle
  rw [directLink_swdPort] at htransfer hblock
  have hwaits := WaitingTarget.dapTransfer_sameAnswer (stampedLink_prompt T time) request
    (inWorld s w) hpatient
  have hwaits' := WaitingTarget.dapTransferBlock_sameAnswer (stampedLink_prompt T time) request
    (inWorld s w) hpatient
  exact ⟨sameAsReady (sameOverLine htransfer) hwaits, sameAsReady (sameOverLine hblock) hwaits'⟩

theorem transfer_as_ready_memoryLine :
    let P := swdPort PostedReads.memoryPort 1 false
    let target := stampedLink PostedReads.memoryPort id
    let L := lineLink P (lineTime id) (waiting target) idleLink
    let w := memoryLine.world.line.unit
    SameAsReady (dapTransfer L PostedReads.memoryRequest memoryLine)
        (dapTransfer target PostedReads.memoryRequest (inWorld memoryLine w.world)) ∧
      SameAsReady (dapTransferBlock L PostedReads.memoryRequest memoryLine)
        (dapTransferBlock target PostedReads.memoryRequest (inWorld memoryLine w.world)) := by
  intro P target L w
  have hpatient : WaitingTarget.Patient memoryLine.dapData w := by
    show ∀ times ∈ [[3, 5]], List.length times ≤ 100
    decide
  have honline : OnLine P (lineTime id) (waiting target) L :=
    lineLink_onLine P (lineTime id) (waiting target) idleLink
  have hfits : Fits P .spi memoryLine :=
    ⟨rfl, rfl, rfl, Nat.le_add_left 1 3, rfl, fun _ => Nat.zero_le 32⟩
  exact transfer_as_ready honline PostedReads.memoryRequest ⟨rfl, Nat.zero_le _, rfl⟩ hfits
    hpatient

end WirelessEsp.SwdTarget
