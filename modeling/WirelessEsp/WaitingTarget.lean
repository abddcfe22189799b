import WirelessEsp.LinkSimulation
import WirelessEsp.PostedReads

namespace WirelessEsp.WaitingTarget

open DapTypes DapProbe DapTransfer LinkSimulation

variable {σ : Type}

/-- A world whose target is not always ready. Before it serves an access it answers WAIT, once for
each entry of the next list. The entries are the times of these answers. -/
structure Waiting (σ : Type) where
  world : σ
  waits : List (List UInt32)

def Waiting.map (f : σ → σ) (w : Waiting σ) : Waiting σ := { w with world := f w.world }

def Waiting.get {α : Type} (f : σ → α × σ) (w : Waiting σ) : α × Waiting σ :=
  ((f w.world).1, { w with world := (f w.world).2 })

/-- `stamp` is what a WAIT at this time leaves in `DAP_Data.timestamp`. -/
def waitOrServe (stamp : UInt32 → UInt32) (data : UInt32) (serve : σ → Transferred σ)
    (w : Waiting σ) : Transferred (Waiting σ) :=
  match w.waits with
  | (time :: times) :: rest => ⟨DAP_TRANSFER_WAIT, data, stamp time, ⟨w.world, times :: rest⟩⟩
  | waits =>
      let t := serve w.world
      ⟨t.ack, t.data, t.timestamp, ⟨t.world, waits.tail⟩⟩

/-- A WAIT leaves `*data`. `SWD_Transfer` leaves the timestamp too, `JTAG_Transfer` captures it. -/
def waiting (L : Link σ) : Link (Waiting σ) where
  spiInit := Waiting.map L.spiInit
  spiDeinit := Waiting.map L.spiDeinit
  portSwdSetup := Waiting.map L.portSwdSetup
  portJtagSetup := Waiting.map L.portJtagSetup
  portOff := Waiting.map L.portOff
  resetTarget := Waiting.get L.resetTarget
  pinDelaySlow := fun n => Waiting.map (L.pinDelaySlow n)
  dapOsDelay := fun n => Waiting.map (L.dapOsDelay n)
  pinOut := fun pin bit => Waiting.map (L.pinOut pin bit)
  pinIn := fun pin w => L.pinIn pin w.world
  timestampGet := Waiting.get L.timestampGet
  pinSamples := L.pinSamples
  swjSequence := fun d speed count data => Waiting.map (L.swjSequence d speed count data)
  swdSequence := fun d speed info data => Waiting.get (L.swdSequence d speed info data)
  jtagSequence := fun d info data => Waiting.get (L.jtagSequence d info data)
  jtagIr := fun d ir => Waiting.map (L.jtagIr d ir)
  jtagReadIdCode := fun d => Waiting.get (L.jtagReadIdCode d)
  jtagWriteAbort := fun d data => Waiting.map (L.jtagWriteAbort d data)
  swdTransfer := fun d speed request stores data =>
    waitOrServe (fun _ => d.timestamp) data (L.swdTransfer d speed request stores data)
  jtagTransfer := fun d request stores data =>
    waitOrServe (fun time => if has request DAP_TRANSFER_TIMESTAMP then time else d.timestamp) data
      (L.jtagTransfer d request stores data)
  clearTransferAbort := Waiting.map L.clearTransferAbort
  dapTransferAbort := fun w => L.dapTransferAbort w.world
  garbage := L.garbage

/-- A target that is always ready, with no abort of its transfers. A capture of the timestamp
does not depend on the one before. -/
structure Prompt (L : Link σ) : Prop where
  swd (d : DapData) (speed : TransferType) (request : UInt32) (stores : Bool) (data : UInt32)
    (w : σ) : (L.swdTransfer d speed request stores data w).ack ≠ DAP_TRANSFER_WAIT
  jtag (d : DapData) (request : UInt32) (stores : Bool) (data : UInt32) (w : σ) :
    (L.jtagTransfer d request stores data w).ack ≠ DAP_TRANSFER_WAIT
  running (w : σ) : L.dapTransferAbort w = false
  stamps (d : DapData) (time request : UInt32) (stores : Bool) (data : UInt32) (w : σ)
    (h : has request DAP_TRANSFER_TIMESTAMP = true) :
    L.jtagTransfer { d with timestamp := time } request stores data w =
      L.jtagTransfer d request stores data w

/-- The retries are enough for every access. -/
def Patient (d : DapData) (w : Waiting σ) : Prop :=
  ∀ times ∈ w.waits, times.length ≤ d.transfer.retryCount.toNat

def Unwaited : Relation (Waiting σ) σ := fun _ s w' =>
  w' = s.world.world ∧ Patient s.dapData s.world

/-- The state without the WAITs. -/
def ready (s : State (Waiting σ)) : State σ := inWorld s s.world.world

def served (waits : List (List UInt32)) (t : UInt32 × UInt32 × State σ) :
    UInt32 × UInt32 × State (Waiting σ) :=
  (t.1, t.2.1, inWorld t.2.2 ⟨t.2.2.world, waits⟩)

/-- What an access of the waiting target does beside that of the ready one. -/
structure Waits (access : Access σ) (access' : Access (Waiting σ)) : Prop where
  wait {request stores data s time times rest} (h : s.world.waits = (time :: times) :: rest) :
    ∃ stamp, access' request stores data s = (DAP_TRANSFER_WAIT.toUInt32, data,
        ⟨{ s.dapData with timestamp := stamp }, s.speed, ⟨s.world.world, times :: rest⟩⟩) ∧
      access request stores data ⟨{ s.dapData with timestamp := stamp }, s.speed, s.world.world⟩ =
        access request stores data (ready s)
  serve {request stores data s} (h : ∀ times ∈ s.world.waits.head?, times = []) :
    access' request stores data s = served s.world.waits.tail (access request stores data (ready s))
  prompt (request : UInt32) (stores : Bool) (data : UInt32) (s : State σ) :
    (access request stores data s).1 ≠ DAP_TRANSFER_WAIT.toUInt32
  keepsConf : TransferSteps.KeepsConf access

variable {L : Link σ} {access : Access σ} {access' : Access (Waiting σ)}

theorem waitOrServe_serve {stamp : UInt32 → UInt32} {data : UInt32} {serve : σ → Transferred σ}
    {w : Waiting σ} (h : ∀ times ∈ w.waits.head?, times = []) :
    waitOrServe stamp data serve w = ⟨(serve w.world).ack, (serve w.world).data,
      (serve w.world).timestamp, ⟨(serve w.world).world, w.waits.tail⟩⟩ := by
  obtain ⟨world, waits⟩ := w
  cases waits with
  | nil => rfl
  | cons times rest =>
      obtain rfl : times = [] := h times rfl
      rfl

theorem waits_busy {waits : List (List UInt32)} (h : ¬ ∀ times ∈ waits.head?, times = []) :
    ∃ now times rest, waits = (now :: times) :: rest := by
  cases waits with
  | nil => exact absurd (fun _ hmem => by cases hmem) h
  | cons times rest =>
      cases times with
      | nil =>
          refine absurd (fun _ hmem => ?_) h
          cases hmem
          rfl
      | cons now times => exact ⟨now, times, rest, rfl⟩

theorem ack_ne_wait {ack : UInt8} (h : ack ≠ DAP_TRANSFER_WAIT) :
    ack.toUInt32 ≠ DAP_TRANSFER_WAIT.toUInt32 := by
  intro heq
  apply h
  rw [← UInt8.toUInt8_toUInt32 ack, heq]
  rfl

theorem swdTransfer_waits (hL : Prompt L) : Waits (swdTransfer L) (swdTransfer (waiting L)) where
  wait {request stores data s time times rest} h := by
    refine ⟨s.dapData.timestamp, ?_, rfl⟩
    have hwait : (waiting L).swdTransfer s.dapData s.speed request stores data s.world =
        ⟨DAP_TRANSFER_WAIT, data, s.dapData.timestamp, ⟨s.world.world, times :: rest⟩⟩ := by
      simp only [waiting, waitOrServe, h]
    simp only [swdTransfer, hwait, ite_self]
    rfl
  serve h := by
    simp only [swdTransfer, waiting, waitOrServe_serve h]
    rfl
  prompt request stores data s := ack_ne_wait (hL.swd _ _ _ _ _ _)
  keepsConf := TransferSteps.swdTransfer_keepsConf L

theorem jtagTransfer_waits (hL : Prompt L) : Waits (jtagTransfer L) (jtagTransfer (waiting L)) where
  wait {request stores data s time times rest} h := by
    have hwait : (waiting L).jtagTransfer s.dapData request stores data s.world =
        ⟨DAP_TRANSFER_WAIT, data,
          if has request DAP_TRANSFER_TIMESTAMP then time else s.dapData.timestamp,
          ⟨s.world.world, times :: rest⟩⟩ := by
      simp only [waiting, waitOrServe, h]
    refine ⟨if has request DAP_TRANSFER_TIMESTAMP then time else s.dapData.timestamp, ?_, ?_⟩
    · simp only [jtagTransfer, hwait, ite_self]
      rfl
    · by_cases hstamp : has request DAP_TRANSFER_TIMESTAMP = true
      · simp only [jtagTransfer, if_pos hstamp, hL.stamps _ _ _ _ _ _ hstamp]
        rfl
      · rw [if_neg hstamp]
        rfl
  serve h := by
    simp only [jtagTransfer, waiting, waitOrServe_serve h]
    rfl
  prompt request stores data s := ack_ne_wait (hL.jtag _ _ _ _ _)
  keepsConf := TransferSteps.jtagTransfer_keepsConf L

theorem retryLoop_prompt (hw : Waits access access') (request : UInt32) (stores : Bool) (n : Nat)
    (data : UInt32) (s : State σ) :
    retryLoop L access request stores n data s = access request stores data s := by
  cases n with
  | zero => rfl
  | succ n =>
      have hne := hw.prompt request stores data s
      simp only [retryLoop, beq_eq_false_iff_ne.mpr hne, Bool.false_and]
      rfl

theorem retryLoop_waiting (hL : Prompt L) (hw : Waits access access') (request : UInt32)
    (stores : Bool) (data : UInt32) {times : List UInt32} {rest : List (List UInt32)} {n : Nat}
    {s : State (Waiting σ)} (hwaits : s.world.waits = times :: rest) (hn : times.length ≤ n) :
    retryLoop (waiting L) access' request stores n data s =
      served rest (access request stores data (ready s)) := by
  induction times generalizing n s with
  | nil =>
      have hserve : access' request stores data s =
          served rest (access request stores data (ready s)) := by
        have htail : s.world.waits.tail = rest := congrArg List.tail hwaits
        rw [← htail]
        apply hw.serve
        rw [hwaits]
        rintro times ⟨⟩
        rfl
      cases n with
      | zero => exact hserve
      | succ n =>
          have hne : (access' request stores data s).1 ≠ DAP_TRANSFER_WAIT.toUInt32 := by
            rw [hserve]
            exact hw.prompt request stores data (ready s)
          simp only [retryLoop, beq_eq_false_iff_ne.mpr hne, Bool.false_and]
          exact hserve
  | cons time times ih =>
      cases n with
      | zero => exact absurd hn (Nat.not_succ_le_zero _)
      | succ n =>
          obtain ⟨stamp, hwait, hsame⟩ := @Waits.wait _ _ _ hw request stores data _ _ _ _ hwaits
          have hrun : (waiting L).dapTransferAbort ⟨s.world.world, times :: rest⟩ = false :=
            hL.running s.world.world
          simp only [retryLoop, hwait, hrun, beq_self_eq_true, Bool.not_false, Bool.and_self,
            if_true]
          rw [@ih n ⟨{ s.dapData with timestamp := stamp }, s.speed, ⟨s.world.world, times :: rest⟩⟩
            rfl (Nat.le_of_succ_le_succ hn)]
          exact congrArg (served rest) hsame

theorem sameAccess (hL : Prompt L) (hw : Waits access access') (usable : UInt32 → Prop) :
    SameAccess Unwaited (waiting L) L usable access' access := by
  intro ir s w' request stores data _ hworld
  obtain ⟨rfl, hpatient⟩ := hworld
  have hresult : retryLoop (waiting L) access' request stores
      s.dapData.transfer.retryCount.toNat data s =
      served s.world.waits.tail (access request stores data (ready s)) := by
    cases hwaits : s.world.waits with
    | nil =>
        have hserve : ∀ data, access' request stores data s =
            served [] (access request stores data (ready s)) := fun data => by
          have hnone := @Waits.serve _ _ _ hw request stores data s
          rw [hwaits] at hnone
          exact hnone fun _ h => by cases h
        cases s.dapData.transfer.retryCount.toNat with
        | zero => exact hserve data
        | succ n =>
            have hne : (access' request stores data s).1 ≠ DAP_TRANSFER_WAIT.toUInt32 := by
              rw [hserve]
              exact hw.prompt request stores data (ready s)
            simp only [retryLoop, beq_eq_false_iff_ne.mpr hne, Bool.false_and]
            exact hserve data
    | cons times rest =>
        refine retryLoop_waiting hL hw request stores data hwaits (hpatient times ?_)
        rw [hwaits]
        exact List.mem_cons_self
  have hkeep := hw.keepsConf request stores data (ready s)
  refine ⟨(access request stores data (ready s)).2.2.world, ?_, ?_⟩
  · rw [hresult, retryLoop_prompt hw]
    rfl
  · simp only [hresult]
    refine ⟨rfl, fun times htimes => ?_⟩
    have hmem := List.mem_of_mem_tail htimes
    rw [show (served s.world.waits.tail (access request stores data (ready s))).2.2.dapData.transfer
      = s.dapData.transfer from hkeep]
    exact hpatient times hmem

theorem related : Related Unwaited (waiting L) L where
  setMask := fun _ ⟨hworld, hpatient⟩ => ⟨hworld, hpatient⟩
  clear := by
    rintro ir s w' ⟨rfl, hpatient⟩
    exact ⟨rfl, hpatient⟩
  aborted := by
    rintro ir s w' ⟨rfl, -⟩
    rfl
  garbage := rfl

theorem sameSelect : SameSelect Unwaited (waiting L) L := by
  rintro ir s w' value ⟨rfl, hpatient⟩
  exact ⟨rfl, hpatient⟩

/-- The reply of the ready target, from the same state and to the same state. -/
structure SameAnswer (reply : Reply (Waiting σ)) (reply' : Reply σ) : Prop where
  bytes : reply.bytes = reply'.bytes
  num : reply.num = reply'.num
  state : ready reply.state = reply'.state

theorem sameAnswer {reply : Reply (Waiting σ)} {reply' : Reply σ}
    (h : SameReply Unwaited reply reply') : SameAnswer reply reply' := by
  obtain ⟨ir, w', hstate, rfl, -⟩ := h.state
  exact ⟨h.bytes.symm, h.num.symm, hstate.symm⟩

theorem dapTransfer_sameAnswer (hL : Prompt L) (request : Request) (s : State (Waiting σ))
    (h : Patient s.dapData s.world) :
    SameAnswer (dapTransfer (waiting L) request s) (dapTransfer L request (ready s)) := by
  have hswd := sameAccess hL (swdTransfer_waits hL) (fun _ => True)
  have hjtag := sameAccess hL (jtagTransfer_waits hL) Selected
  have hport : (ready s).dapData.debugPort = s.dapData.debugPort := rfl
  simp only [dapTransfer, hport]
  split
  · exact sameAnswer (@dapSwdTransfer_same _ _ _ _ _ request s _ 0 related hswd ⟨rfl, h⟩)
  · split
    · exact sameAnswer (@dapJtagTransfer_same _ _ _ _ _ request s _ 0 related sameSelect
        hjtag ⟨rfl, h⟩)
    · exact ⟨rfl, rfl, rfl⟩

theorem dapTransferBlock_sameAnswer (hL : Prompt L) (request : Request) (s : State (Waiting σ))
    (h : Patient s.dapData s.world) :
    SameAnswer (dapTransferBlock (waiting L) request s)
      (dapTransferBlock L request (ready s)) := by
  have hswd := sameAccess hL (swdTransfer_waits hL) (fun _ => True)
  have hjtag := sameAccess hL (jtagTransfer_waits hL) Selected
  have hport : (ready s).dapData.debugPort = s.dapData.debugPort := rfl
  have hnum : ∀ {reply : Reply (Waiting σ)} {reply' : Reply σ} (taken : UInt32),
      SameAnswer reply reply' → SameAnswer { reply with num := reply.num ||| taken <<< 16 }
        { reply' with num := reply'.num ||| taken <<< 16 } :=
    fun taken hsame => ⟨hsame.bytes, congrArg (· ||| taken <<< 16) hsame.num, hsame.state⟩
  simp only [dapTransferBlock, hport]
  apply hnum
  split
  · exact sameAnswer (@dapSwdTransferBlock_same _ _ _ _ _ request s _ 0 related hswd ⟨rfl, h⟩)
  · split
    · exact sameAnswer (@dapJtagTransferBlock_same _ _ _ _ _ request s _ 0 related sameSelect
        hjtag ⟨rfl, h⟩)
    · exact ⟨rfl, rfl, rfl⟩

/-- While the retries are enough, the WAITs of a target are not seen: `DAP_Transfer` and
`DAP_TransferBlock` answer as with a target that is always ready, and leave it in the same state. -/
theorem waits_unseen (L : Link σ) (hL : Prompt L) (request : Request) (s : State (Waiting σ))
    (h : Patient s.dapData s.world) :
    SameAnswer (dapTransfer (waiting L) request s) (dapTransfer L request (ready s)) ∧
    SameAnswer (dapTransferBlock (waiting L) request s)
      (dapTransferBlock L request (ready s)) :=
  ⟨dapTransfer_sameAnswer hL request s h, dapTransferBlock_sameAnswer hL request s h⟩

/-- The memory port of one device, with a timer that stands. -/
def stampedPort : Link (PostedTarget.World UInt32) :=
  { PostedTarget.postedLink PostedReads.memoryPort with
    jtagTransfer := fun d request stores data w =>
      { (PostedTarget.postedLink PostedReads.memoryPort).jtagTransfer d request stores data w with
        timestamp := if has request DAP_TRANSFER_TIMESTAMP then 7 else d.timestamp } }

theorem stampedPort_prompt : Prompt stampedPort where
  swd _ _ _ _ _ _ := ne_of_beq_false rfl
  jtag _ _ _ _ _ := ne_of_beq_false rfl
  running _ := rfl
  stamps d time request stores data w h := by
    simp only [stampedPort, if_pos h]
    rfl

/-- The first access waits for two rounds, the third for one. -/
def busyDevice : State (Waiting (PostedTarget.World UInt32)) :=
  inWorld PostedReads.oneDevice ⟨PostedReads.oneDevice.world, [[3, 5], [], [8]]⟩

theorem waits_unseen_busyDevice :
    SameAnswer (dapTransfer (waiting stampedPort) PostedReads.memoryRequest busyDevice)
      (dapTransfer stampedPort PostedReads.memoryRequest (ready busyDevice)) ∧
    SameAnswer (dapTransferBlock (waiting stampedPort) PostedReads.memoryRequest busyDevice)
      (dapTransferBlock stampedPort PostedReads.memoryRequest (ready busyDevice)) :=
  waits_unseen stampedPort stampedPort_prompt PostedReads.memoryRequest busyDevice (by
    show ∀ times ∈ [[3, 5], [], [8]], List.length times ≤ 100
    decide)

end WirelessEsp.WaitingTarget
