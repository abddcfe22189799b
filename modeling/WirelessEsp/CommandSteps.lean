import Mathlib.Logic.Relation
import WirelessEsp.DapCommand
import WirelessEsp.TransferRounds

namespace WirelessEsp.CommandSteps

open DapTypes DapProbe DapTransfer DapCommand TransferSteps
open Relation (ReflTransGen)

variable {σ : Type} (t : Target) (L : Link σ)

/-- What is done to the world without `DAP_Data`. -/
inductive Quiet : (σ → σ) → Prop
  | spiInit : Quiet L.spiInit
  | spiDeinit : Quiet L.spiDeinit
  | portSwdSetup : Quiet L.portSwdSetup
  | portJtagSetup : Quiet L.portJtagSetup
  | portOff : Quiet L.portOff
  | resetTarget : Quiet fun w => (L.resetTarget w).2
  | dapOsDelay (ms : Nat) : Quiet (L.dapOsDelay ms)
  | pinOut (pin : Pin) (value : UInt32) : Quiet (L.pinOut pin value)
  | timestampGet : Quiet fun w => (L.timestampGet w).2
  | clearTransferAbort : Quiet L.clearTransferAbort

def delayOf (request : Request) : UInt32 :=
  request.half 0 * ((cpuClock t / 1000000 + (DELAY_SLOW_CYCLES - 1)) / DELAY_SLOW_CYCLES)

/-- The delays that `DAP_SWJ_Clock` can set, with the value of `fast_clock`. -/
inductive ClockSetting : UInt8 → UInt32 → Prop
  | fast : ClockSetting 1 1
  | slow {clock : UInt32} (hpos : clock ≠ 0) (hslow : clock < 2000000) :
      ClockSetting 0 (swjClockDelay t clock)

inductive Does (cmd : UInt8) (request : Request) (s : State σ) : State σ → Prop
  | quiet {f : σ → σ} (hf : Quiet L f) : Does cmd request s (s.onWorld f)
  | delay (hcmd : cmd = ID_DAP_Delay) :
      Does cmd request s (s.onWorld (L.pinDelaySlow (delayOf t request)))
  | swjSequence (count : UInt32) (data : Request) :
      Does cmd request s (s.onWorld (L.swjSequence s.dapData s.speed count data))
  | swdSequence (info : UInt32) (data : Request) :
      Does cmd request s (s.onWorld fun w => (L.swdSequence s.dapData s.speed info data w).2)
  | jtagSequence (info : UInt32) (data : Request) :
      Does cmd request s (s.onWorld fun w => (L.jtagSequence s.dapData info data w).2)
  | swdTransfer (r : UInt32) (stores : Bool) (data : UInt32) :
      Does cmd request s
        (State.transferred s (L.swdTransfer s.dapData s.speed r stores data s.world))
  | jtagTransfer (r : UInt32) (stores : Bool) (data : UInt32) :
      Does cmd request s (State.transferred s (L.jtagTransfer s.dapData r stores data s.world))
  | jtagIr (ir : UInt32) (hvalid : validIndex s.dapData = true) :
      Does cmd request s (s.onWorld (L.jtagIr s.dapData ir))
  | jtagReadIdCode : Does cmd request s (s.onWorld fun w => (L.jtagReadIdCode s.dapData w).2)
  | jtagWriteAbort (data : UInt32) :
      Does cmd request s (s.onWorld (L.jtagWriteAbort s.dapData data))
  | conf (d : DapData) (hdelay : d.clockDelay = s.dapData.clockDelay)
      (hfast : d.fastClock = s.dapData.fastClock) (hjtag : d.jtagDev = s.dapData.jtagDev) :
      Does cmd request s { s with dapData := d }
  | index (i : UInt8) : Does cmd request s (setJtagIndex i s)
  | clock {fast : UInt8} {delay : UInt32} (hclock : ClockSetting t fast delay)
      (speed : TransferType) : Does cmd request s { setClock fast delay s with speed }
  | configure (hcmd : cmd = ID_DAP_JTAG_Configure) :
      Does cmd request s (dapJtagConfigure request s).state

structure Moves (cmd : UInt8) (request : Request) (s s' : State σ) : Prop where
  does : ReflTransGen (Does t L cmd request) s s'
  jtagDev : s'.dapData.jtagDev = s.dapData.jtagDev

section Moves

variable {t L} {cmd : UInt8} {request : Request} {s s' s'' : State σ}

theorem Moves.refl (s : State σ) : Moves t L cmd request s s := ⟨.refl, rfl⟩

theorem Moves.trans (h : Moves t L cmd request s s') (h' : Moves t L cmd request s' s'') :
    Moves t L cmd request s s'' := ⟨h.does.trans h'.does, h'.jtagDev.trans h.jtagDev⟩

theorem Moves.single (h : Does t L cmd request s s')
    (hjtag : s'.dapData.jtagDev = s.dapData.jtagDev) : Moves t L cmd request s s' :=
  ⟨.single h, hjtag⟩

theorem Moves.validIndex (h : Moves t L cmd request s s') :
    validIndex s'.dapData = validIndex s.dapData := by
  rw [DapTransfer.validIndex, DapTransfer.validIndex, h.jtagDev]

theorem moves_quiet {f : σ → σ} (hf : Quiet L f) (s : State σ) :
    Moves t L cmd request s (s.onWorld f) := .single (.quiet hf) rfl

theorem moves_conf {d : DapData} (hdelay : d.clockDelay = s.dapData.clockDelay)
    (hfast : d.fastClock = s.dapData.fastClock) (hjtag : d.jtagDev = s.dapData.jtagDev) :
    Moves t L cmd request s { s with dapData := d } := .single (.conf d hdelay hfast hjtag) hjtag

def Accesses (access : Access σ) : Prop := ∀ cmd request r stores data s,
  Moves t L cmd request s (access r stores data s).2.2

theorem swdTransfer_accesses : Accesses (t := t) (L := L) (swdTransfer L) :=
  fun _ _ r stores data _ => .single (.swdTransfer r stores data) rfl

theorem jtagTransfer_accesses : Accesses (t := t) (L := L) (jtagTransfer L) :=
  fun _ _ r stores data _ => .single (.jtagTransfer r stores data) rfl

variable {access : Access σ} {l : Loop σ}

theorem retryLoop_moves (haccess : Accesses (t := t) (L := L) access) (r : UInt32) (stores : Bool)
    (n : Nat) (data : UInt32) (s : State σ) :
    Moves t L cmd request s (retryLoop L access r stores n data s).2.2 := by
  induction n generalizing data s with
  | zero => exact haccess _ _ _ _ _ _
  | succ n ih =>
      simp only [retryLoop]
      split
      · exact (haccess _ _ _ _ _ _).trans (ih _ _)
      · exact haccess _ _ _ _ _ _

theorem access_moves (haccess : Accesses (t := t) (L := L) access) (r : UInt32) (stores : Bool)
    (l : Loop σ) : Moves t L cmd request l.state (l.access L access r stores).state :=
  retryLoop_moves haccess _ _ _ _ _

theorem selectIr_moves (hvalid : validIndex l.state.dapData = true) (next : UInt32) :
    Moves t L cmd request l.state (l.selectIr L next).state := by
  rw [Loop.selectIr]
  split
  · exact .single (.jtagIr next hvalid) rfl
  · exact .refl _

theorem stamped_moves (h : l.state = s) (value : UInt32) :
    Moves t L cmd request s (l.storeTimestamp value).state := by
  rw [Loop.storeTimestamp]
  split
  · exact h ▸ .refl _
  · exact h ▸ .refl _

theorem matchLoop_moves (haccess : Accesses (t := t) (L := L) access) (value matchValue : UInt32)
    (n : Nat) (l : Loop σ) :
    Moves t L cmd request l.state (matchLoop L access value matchValue n l).state := by
  induction n generalizing l with
  | zero => exact access_moves haccess _ _ _
  | succ n ih =>
      have hfirst : Moves t L cmd request l.state _ := access_moves haccess value true l
      simp only [matchLoop]
      split
      · exact hfirst
      · split
        · exact hfirst.trans (ih _)
        · exact hfirst

/-- Whether the step goes on or leaves the loop, its state comes from that of `l`. -/
def Leads (t : Target) (L : Link σ) (cmd : UInt8) (request : Request) (l : Loop σ) :
    Step σ (Loop σ) → Prop :=
  Ends (fun l' => Moves t L cmd request l.state l'.state)
    fun l' => Moves t L cmd request l.state l'.state

theorem Leads.bind {x : Step σ (Loop σ)} {f : Loop σ → Step σ (Loop σ)}
    (hx : Leads t L cmd request l x)
    (hf : ∀ l', Moves t L cmd request l.state l'.state → Leads t L cmd request l' (f l')) :
    Leads t L cmd request l (x >>= f) := by
  refine Ends.bind hx fun l' hl' => ?_
  exact (hf l' hl').mono (fun _ h => hl'.trans h) (fun _ h => hl'.trans h)

theorem leads_pure {l' : Loop σ} (h : Moves t L cmd request l.state l'.state) :
    Leads t L cmd request l (pure l') := h

theorem leads_check {l' : Loop σ} (h : Moves t L cmd request l.state l'.state) :
    Leads t L cmd request l l'.check := by
  rw [Loop.check]
  split
  · exact h
  · exact h

theorem countTransfer_leads (l : Loop σ) : Leads t L cmd request l (countTransfer L l) := by
  rw [countTransfer]
  split
  · exact Moves.refl l.state
  · exact Moves.refl l.state

theorem pollMatch_leads (haccess : Accesses (t := t) (L := L) access) (value matchValue : UInt32)
    (n : Nat) (l : Loop σ) :
    Leads t L cmd request l (pollMatch L access value matchValue n l) := by
  have hloop : Moves t L cmd request l.state _ := matchLoop_moves haccess value matchValue n l
  rw [pollMatch]
  apply leads_check
  split
  · exact hloop
  · exact hloop

theorem writeMatchMask_moves (l : Loop σ) :
    Moves t L cmd request l.state (writeMatchMask l).state := moves_conf rfl rfl rfl

theorem posted_leads {l₁ : Loop σ} (value : UInt32) (h : Moves t L cmd request l.state l₁.state) :
    Leads t L cmd request l (l₁.check >>= fun l =>
      pure (if (l.store l.data).postRead then (l.store l.data).storeTimestamp value
        else l.store l.data)) := by
  refine Leads.bind (leads_check h) fun l' _ => leads_pure ?_
  split
  · have hstore : (l'.store l'.data).state = l'.state := rfl
    exact stamped_moves hstore value
  · exact .refl _

theorem swdReadPosted_leads (value : UInt32) (l : Loop σ) :
    Leads t L cmd request l (swdReadPosted L value l) := by
  rw [swdReadPosted]
  split
  · apply posted_leads
    split
    · exact access_moves swdTransfer_accesses _ _ _
    · exact access_moves swdTransfer_accesses _ _ _
  · exact leads_pure (.refl _)

theorem swdReadMatch_leads (value : UInt32) (l : Loop σ) :
    Leads t L cmd request l (swdReadMatch L request value l) := by
  rw [swdReadMatch]
  dsimp only
  split
  · refine Leads.bind (leads_check (access_moves swdTransfer_accesses _ _ (l.skip 4))) ?_
    exact fun l' _ => pollMatch_leads swdTransfer_accesses _ _ _ _
  · exact pollMatch_leads swdTransfer_accesses _ _ _ (l.skip 4)

theorem swdReadNormal_leads (value : UInt32) (l : Loop σ) :
    Leads t L cmd request l (swdReadNormal L value l) := by
  rw [swdReadNormal]
  split
  · split
    · exact leads_pure (.refl _)
    · refine Leads.bind (leads_check (access_moves swdTransfer_accesses _ _ l)) ?_
      exact fun l' _ => leads_pure (stamped_moves rfl value)
  · refine Leads.bind (leads_check (access_moves swdTransfer_accesses _ _ l)) ?_
    intro l' _
    have hstamp : Moves t L cmd request l'.state (l'.storeTimestamp value).state :=
      stamped_moves rfl value
    exact leads_pure hstamp

theorem swdRead_leads (value : UInt32) (l : Loop σ) :
    Leads t L cmd request l (swdRead L request value l) := by
  rw [swdRead]
  refine Leads.bind (swdReadPosted_leads value l) fun l' _ => ?_
  dsimp only
  split
  · exact Leads.bind (swdReadMatch_leads value l') fun l'' _ => leads_pure (.refl _)
  · exact Leads.bind (swdReadNormal_leads value l') fun l'' _ => leads_pure (.refl _)

theorem swdWrite_leads (value : UInt32) (l : Loop σ) :
    Leads t L cmd request l (swdWrite L request value l) := by
  rw [TransferRounds.swdWrite_eq]
  refine Leads.bind ?_ fun l' _ => ?_
  · rw [TransferRounds.swdFlush]
    split
    · refine Leads.bind (leads_check (access_moves swdTransfer_accesses _ _ l)) ?_
      exact fun l' _ => leads_pure (.refl _)
    · exact leads_pure (.refl _)
  · split
    · exact leads_pure (writeMatchMask_moves (loadData request l'))
    · rw [TransferRounds.swdRegister]
      have haccess : Leads t L cmd request (loadData request l') _ :=
        leads_check (access_moves swdTransfer_accesses value true (loadData request l'))
      exact Leads.bind haccess fun l'' _ => leads_pure (stamped_moves rfl value)

theorem round_leads {read write : UInt32 → Loop σ → Step σ (Loop σ)} (l : Loop σ)
    (hread : ∀ value, Leads t L cmd request (l.skip 1) (read value (l.skip 1)))
    (hwrite : ∀ value, Leads t L cmd request (l.skip 1) (write value (l.skip 1))) (value : UInt32) :
    Leads t L cmd request l ((if has value DAP_TRANSFER_RnW then read value (l.skip 1)
      else write value (l.skip 1)) >>= countTransfer L) := by
  refine Leads.bind ?_ fun l' _ => countTransfer_leads l'
  split
  · exact hread value
  · exact hwrite value

theorem swdRound_leads (l : Loop σ) : Leads t L cmd request l (swdRound L request l) := by
  rw [TransferRounds.swdRound_eq]
  exact round_leads l (fun value => swdRead_leads value _) (fun value => swdWrite_leads value _) _

theorem jtagReadPosted_leads (hvalid : validIndex l.state.dapData = true) (value : UInt32) :
    Leads t L cmd request l (jtagReadPosted L value l) := by
  rw [jtagReadPosted]
  split
  · apply posted_leads
    split
    · exact access_moves jtagTransfer_accesses _ _ _
    · exact (selectIr_moves hvalid JTAG_DPACC).trans
        (access_moves jtagTransfer_accesses _ _ (l.selectIr L JTAG_DPACC))
  · exact leads_pure (.refl _)

theorem selected_leads (hvalid : validIndex l.state.dapData = true) (next r : UInt32)
    (stores : Bool) :
    Leads t L cmd request l ((l.selectIr L next).access L (jtagTransfer L) r stores).check :=
  leads_check ((selectIr_moves hvalid next).trans
    (access_moves jtagTransfer_accesses r stores (l.selectIr L next)))

theorem jtagReadMatch_leads (hvalid : validIndex l.state.dapData = true) (value : UInt32) :
    Leads t L cmd request l (jtagReadMatch L request value l) := by
  have hvalid' : validIndex (l.skip 4).state.dapData = true := hvalid
  have hfirst : Leads t L cmd request l _ := selected_leads hvalid' (irOf value) value false
  exact Leads.bind hfirst fun l' _ => pollMatch_leads jtagTransfer_accesses _ _ _ _

theorem jtagReadNormal_leads (hvalid : validIndex l.state.dapData = true) (value : UInt32) :
    Leads t L cmd request l (jtagReadNormal L value l) := by
  rw [jtagReadNormal]
  split
  · exact leads_pure (.refl _)
  · exact Leads.bind (selected_leads hvalid (irOf value) value false) fun l' _ =>
      leads_pure (stamped_moves rfl value)

theorem jtagRead_leads (hvalid : validIndex l.state.dapData = true) (value : UInt32) :
    Leads t L cmd request l (jtagRead L request value l) := by
  rw [jtagRead]
  refine Leads.bind (jtagReadPosted_leads hvalid value) fun l' hl' => ?_
  have hvalid' := hl'.validIndex.trans hvalid
  split
  · exact jtagReadMatch_leads hvalid' value
  · exact jtagReadNormal_leads hvalid' value

theorem jtagWrite_leads (hvalid : validIndex l.state.dapData = true) (value : UInt32) :
    Leads t L cmd request l (jtagWrite L request value l) := by
  rw [TransferRounds.jtagWrite_eq]
  refine Leads.bind ?_ fun l' hl' => ?_
  · rw [TransferRounds.jtagFlush]
    split
    · exact Leads.bind (selected_leads hvalid JTAG_DPACC rdbuff true) fun l' _ =>
        leads_pure (.refl _)
    · exact leads_pure (.refl _)
  · have hvalid' := hl'.validIndex.trans hvalid
    split
    · exact leads_pure (writeMatchMask_moves (loadData request l'))
    · rw [TransferRounds.jtagRegister]
      have hload : validIndex (loadData request l').state.dapData = true := hvalid'
      have hfirst : Leads t L cmd request l' _ := selected_leads hload (irOf value) value true
      exact Leads.bind hfirst fun l'' _ => leads_pure (stamped_moves rfl value)

theorem jtagRound_leads (hvalid : validIndex l.state.dapData = true) :
    Leads t L cmd request l (jtagRound L request l) := by
  have hvalid' : validIndex (l.skip 1).state.dapData = true := hvalid
  rw [TransferRounds.jtagRound_eq]
  exact round_leads l (jtagRead_leads hvalid') (jtagWrite_leads hvalid') _

theorem transferLoop_moves {round : Loop σ → Step σ (Loop σ)}
    (hround : ∀ l', Moves t L cmd request l.state l'.state → Leads t L cmd request l' (round l'))
    (n : Nat) {l' : Loop σ} (h : Moves t L cmd request l.state l'.state) :
    Moves t L cmd request l.state (transferLoop round n l').2.state := by
  induction n generalizing l' with
  | zero => exact h
  | succ n ih =>
      have hleads := hround l' h
      rw [transferLoop]
      split
      next l'' hround =>
        rw [hround] at hleads
        exact ih (h.trans hleads)
      next l'' hround =>
        rw [hround] at hleads
        exact h.trans hleads

theorem swdFinish_moves (l : Loop σ) : Moves t L cmd request l.state (swdFinish L l).state := by
  rw [swdFinish]
  split
  · exact .refl _
  · split
    · have haccess : Moves t L cmd request l.state _ :=
        access_moves swdTransfer_accesses rdbuff true l
      dsimp only
      split
      · exact haccess
      · exact haccess
    · split
      · exact access_moves swdTransfer_accesses _ _ _
      · exact .refl _

theorem jtagFinish_moves (hvalid : validIndex l.state.dapData = true) :
    Moves t L cmd request l.state (jtagFinish L l).state := by
  have haccess : ∀ stores, Moves t L cmd request l.state
      ((l.selectIr L JTAG_DPACC).access L (jtagTransfer L) rdbuff stores).state := fun stores =>
    (selectIr_moves hvalid _).trans (access_moves jtagTransfer_accesses _ _ _)
  rw [jtagFinish]
  split
  · exact .refl _
  · dsimp only
    split
    · split
      · exact haccess true
      · exact haccess true
    · exact haccess false

theorem startLoop_moves (n : Nat) (s : State σ) :
    Moves t L cmd request s (startLoop L n s).state := moves_quiet .clearTransferAbort s

theorem dapSwdTransfer_moves (s : State σ) :
    Moves t L cmd request s (dapSwdTransfer L request s).state := by
  have hloop : Moves t L cmd request (startLoop L 2 s).state _ :=
    transferLoop_moves (fun l' _ => swdRound_leads l') (request 1).toNat (.refl _)
  exact ((startLoop_moves 2 s).trans hloop).trans (swdFinish_moves (cancelRequests request _))

theorem dapJtagTransfer_does (s : State σ) :
    ReflTransGen (Does t L cmd request) s (dapJtagTransfer L request s).state := by
  rw [dapJtagTransfer]
  apply ReflTransGen.head (.index (request 0))
  dsimp only
  split
  next hvalid =>
    have hstart : Moves t L cmd request (setJtagIndex (request 0) s) _ := startLoop_moves 2 _
    have hvalid' := hstart.validIndex.trans hvalid
    have hloop : Moves t L cmd request (startLoop L 2 (setJtagIndex (request 0) s)).state _ :=
      transferLoop_moves (fun l' hl' => jtagRound_leads (hl'.validIndex.trans hvalid'))
        (request 1).toNat (.refl _)
    have hfinish : Moves t L cmd request (cancelRequests request _).state _ :=
      jtagFinish_moves (hloop.validIndex.trans hvalid')
    exact ((hstart.trans hloop).trans hfinish).does
  · exact (startLoop_moves 1 _).does

theorem dapTransfer_does (s : State σ) :
    ReflTransGen (Does t L cmd request) s (dapTransfer L request s).state := by
  rw [dapTransfer]
  split
  · exact (dapSwdTransfer_moves s).does
  · split
    · exact dapJtagTransfer_does s
    · exact .refl

theorem readBlock_leads (haccess : Accesses (t := t) (L := L) access) (value last : UInt32)
    {select : Loop σ → Loop σ} (hselect : ∀ l', Moves t L cmd request l.state l'.state →
      Moves t L cmd request l'.state (select l').state) (n : Nat) {l' : Loop σ}
    (h : Moves t L cmd request l.state l'.state) :
    Leads t L cmd request l' (readBlock L access value last select n l') := by
  induction n generalizing l' with
  | zero => exact leads_pure (.refl _)
  | succ n ih =>
      rw [readBlock]
      refine Leads.bind ?_ fun l'' hl'' => ih (h.trans hl'')
      apply leads_check
      refine Moves.trans ?_ (access_moves haccess _ _ _)
      split
      · exact hselect l' h
      · exact .refl _

theorem writeBlock_leads (haccess : Accesses (t := t) (L := L) access) (value : UInt32) (n : Nat)
    (l : Loop σ) : Leads t L cmd request l (writeBlock L access request value n l) := by
  induction n generalizing l with
  | zero => exact leads_pure (.refl _)
  | succ n ih =>
      rw [writeBlock]
      refine Leads.bind (leads_check (access_moves haccess _ _ (loadData request l))) ?_
      exact fun l' _ => ih _

theorem swdBlock_leads (value : UInt32) (n : Nat) (l : Loop σ) :
    Leads t L cmd request l (swdBlock L request value n l) := by
  have hblock : ∀ last n (l : Loop σ), Leads t L cmd request l
      (readBlock L (swdTransfer L) value last id n l) := fun last n l =>
    readBlock_leads swdTransfer_accesses value last (fun _ _ => .refl _) n (.refl _)
  rw [swdBlock]
  split
  · split
    · refine Leads.bind (leads_check (access_moves swdTransfer_accesses _ _ l)) ?_
      exact fun l' _ => hblock _ _ l'
    · exact hblock _ _ l
  · refine Leads.bind (writeBlock_leads swdTransfer_accesses _ _ l) ?_
    exact fun l' _ => leads_pure (access_moves swdTransfer_accesses _ _ l')

theorem jtagBlock_leads (hvalid : validIndex l.state.dapData = true) (value : UInt32) (n : Nat) :
    Leads t L cmd request l (jtagBlock L request value n l) := by
  have hselect : ∀ l' : Loop σ, Moves t L cmd request l.state l'.state →
      Moves t L cmd request l'.state (l'.selectIr L JTAG_DPACC).state :=
    fun l' h => selectIr_moves (h.validIndex.trans hvalid) _
  rw [jtagBlock]
  generalize hl₁ : ({ l with
    ir := irOf value, state := l.state.onWorld (L.jtagIr l.state.dapData (irOf value)) } :
      Loop σ) = l₁
  have hir : Moves t L cmd request l.state l₁.state := hl₁ ▸ .single (.jtagIr _ hvalid) rfl
  split
  · refine Leads.bind (leads_check (hir.trans (access_moves jtagTransfer_accesses _ _ _))) ?_
    intro l' hl'
    refine readBlock_leads jtagTransfer_accesses _ _ (fun l'' hl'' => ?_) _ (.refl _)
    exact hselect l'' (hl'.trans hl'')
  · refine Leads.bind ((writeBlock_leads jtagTransfer_accesses _ _ _).mono
      (fun _ h => hir.trans h) fun _ h => hir.trans h) ?_
    intro l' hl'
    exact leads_pure ((hselect l' hl').trans (access_moves jtagTransfer_accesses _ _ _))

theorem runBlock_moves {block : UInt32 → Nat → Loop σ → Step σ (Loop σ)}
    (hblock : ∀ value n, Leads t L cmd request (l.skip 4) (block value n (l.skip 4))) :
    Moves t L cmd request l.state (runBlock block request l).state := by
  rw [runBlock]
  split
  · exact .refl _
  · have hleads := hblock (request 3).toUInt32 (request.half 1).toNat
    show Moves t L cmd request l.state (endOf _).state
    cases h : block (request 3).toUInt32 (request.half 1).toNat (l.skip 4) with
    | ok l' =>
        rw [h] at hleads
        exact hleads
    | error l' =>
        rw [h] at hleads
        exact hleads

theorem dapTransferBlock_does (s : State σ) :
    ReflTransGen (Does t L cmd request) s (dapTransferBlock L request s).state := by
  rw [dapTransferBlock]
  dsimp only
  split
  · have hblock : Moves t L cmd request (startLoop L 0 s).state _ :=
      runBlock_moves fun value n => swdBlock_leads value n _
    exact ((startLoop_moves 0 s).trans hblock).does
  · split
    · apply ReflTransGen.head (.index (request 0))
      have hstart : Moves t L cmd request (setJtagIndex (request 0) s) _ := startLoop_moves 0 _
      rw [dapJtagTransferBlock]
      split
      next hvalid =>
        have hskip : validIndex
            ((startLoop L 0 (setJtagIndex (request 0) s)).skip 4).state.dapData = true := hvalid
        have hblock : Moves t L cmd request (startLoop L 0 (setJtagIndex (request 0) s)).state _ :=
          runBlock_moves fun value n => jtagBlock_leads hskip value n
        exact (hstart.trans hblock).does
      · exact hstart.does
    · exact .refl

theorem quiet_does {f : σ → σ} (hf : Quiet L f) (s : State σ) :
    ReflTransGen (Does t L cmd request) s (s.onWorld f) := .single (.quiet hf)

theorem conf_does {d : DapData} (hdelay : d.clockDelay = s.dapData.clockDelay)
    (hfast : d.fastClock = s.dapData.fastClock) (hjtag : d.jtagDev = s.dapData.jtagDev) :
    ReflTransGen (Does t L cmd request) s { s with dapData := d } :=
  .single (.conf d hdelay hfast hjtag)

theorem dapConnect_does (s : State σ) :
    ReflTransGen (Does t L cmd request) s (dapConnect L request s).state := by
  have hport : ∀ port, ReflTransGen (Does t L cmd request) s (setDebugPort port s) :=
    fun port => conf_does rfl rfl rfl
  rw [dapConnect]
  dsimp only
  split
  · apply (hport DAP_PORT_SWD).trans
    show ReflTransGen _ _ (if _ then _ else _)
    split
    · exact quiet_does .portSwdSetup _
    · exact .refl
  · split
    · exact (hport DAP_PORT_JTAG).trans (quiet_does .portJtagSetup _)
    · exact .refl

theorem dapDisconnect_does (s : State σ) :
    ReflTransGen (Does t L cmd request) s (dapDisconnect L s).state := by
  have hport : ReflTransGen (Does t L cmd request) s (setDebugPort DAP_PORT_DISABLED s) :=
    conf_does rfl rfl rfl
  exact hport.trans (quiet_does .portOff _)

theorem swdSend_does (r data : UInt32) (s : State σ) :
    ReflTransGen (Does t L cmd request) s (swdSend L r data s) := .single (.swdTransfer r true data)

theorem dapResetTarget_does (s : State σ) :
    ReflTransGen (Does t L cmd request) s (dapResetTarget L s).state := by
  rw [dapResetTarget]
  dsimp only
  split
  · refine ReflTransGen.trans ?_ (quiet_does .resetTarget _)
    refine (swdSend_does 0x05 0xE000ED0C s).trans ((quiet_does (.dapOsDelay 2) _).trans ?_)
    exact swdSend_does 0x0d 0x05FA0004 _
  · exact quiet_does .resetTarget s

theorem swjOutput_does (value select : UInt32) (pin : Pin) (s : State σ) :
    ReflTransGen (Does t L cmd request) s (s.onWorld (swjOutput L value select pin)) := by
  show ReflTransGen _ s { s with world := if _ then _ else _ }
  split
  · exact quiet_does (.pinOut _ _) s
  · exact .refl

theorem swjWaitLoop_does (value select wait timestamp : UInt32) (n : Nat) (s : State σ) :
    ReflTransGen (Does t L cmd request) s
      (s.onWorld (swjWaitLoop L value select wait timestamp n)) := by
  induction n generalizing s with
  | zero => exact .refl
  | succ n ih =>
      have hget : ReflTransGen (Does t L cmd request) s (s.onWorld fun w => (L.timestampGet w).2) :=
        quiet_does .timestampGet s
      simp only [State.onWorld, swjWaitLoop]
      split
      · split
        · exact hget.trans (ih _)
        · exact hget
      · exact .refl

theorem swjWait_does (value select wait : UInt32) (s : State σ) :
    ReflTransGen (Does t L cmd request) s (s.onWorld (swjWait L value select wait)) := by
  have hget : ReflTransGen (Does t L cmd request) s (s.onWorld fun w => (L.timestampGet w).2) :=
    quiet_does .timestampGet s
  simp only [State.onWorld, swjWait]
  split
  · exact hget.trans (swjWaitLoop_does _ _ _ _ _ _)
  · exact .refl

theorem swjOutputs_does (value select : UInt32) (s : State σ) :
    ReflTransGen (Does t L cmd request) s (s.onWorld (swjOutputs L value select)) :=
  (swjOutput_does value select .swclkTck s).trans
    ((swjOutput_does value select .swdioTms _).trans
      ((swjOutput_does value select .tdi _).trans
        ((swjOutput_does value select .nTrst _).trans (swjOutput_does value select .nReset _))))

theorem spi_does {f : σ → σ} (hf : Quiet L f) (s : State σ) :
    ReflTransGen (Does t L cmd request) s (if s.speed = .spi then s.onWorld f else s) := by
  split
  · exact quiet_does hf s
  · exact .refl

theorem dapSwjPins_does (s : State σ) :
    ReflTransGen (Does t L cmd request) s (dapSwjPins L request s).state :=
  (spi_does .spiDeinit s).trans ((swjOutputs_does _ _ _).trans
    ((swjWait_does _ _ _ _).trans (spi_does .spiInit _)))

theorem dapSwjClock_does (s : State σ) :
    ReflTransGen (Does t L cmd request) s (dapSwjClock t L request s).state := by
  rw [dapSwjClock]
  dsimp only
  split
  · exact .refl
  next hzero =>
    have hpos : request.word 0 ≠ 0 := by simpa using hzero
    split
    · show ReflTransGen _ s (setClock 1 1 (if _ then _ else _))
      split
      · exact (quiet_does .spiInit s).tail (.clock .fast .spi)
      · exact .single (.clock .fast .gpioFast)
    next hfast =>
      have hdeinit : ReflTransGen (Does t L cmd request) s (s.onWorld L.spiDeinit) :=
        quiet_does .spiDeinit s
      split
      · exact hdeinit.tail (.clock .fast .gpioFast)
      next hslow =>
        exact hdeinit.tail (.clock (.slow hpos (UInt32.not_le.mp hslow)) .gpioNormal)

theorem dapSwjSequence_does (s : State σ) :
    ReflTransGen (Does t L cmd request) s (dapSwjSequence L request s).state :=
  .single (.swjSequence _ _)

theorem sequenceLoop_does {one : Sequence σ → Sequence σ}
    (hone : ∀ q, ReflTransGen (Does t L cmd request) q.state (one q).state) (n : Nat)
    (q : Sequence σ) :
    ReflTransGen (Does t L cmd request) q.state (sequenceLoop one n q).state := by
  induction n generalizing q with
  | zero => exact .refl
  | succ n ih => exact (hone q).trans (ih (one q))

theorem swdSequence_does (q : Sequence σ) :
    ReflTransGen (Does t L cmd request) q.state (swdSequence L request q).state := by
  have hdoes : ReflTransGen (Does t L cmd request) q.state _ :=
    .single (.swdSequence (request q.request).toUInt32 (request.from (q.request + 1)))
  simp only [swdSequence]
  split
  · exact hdoes
  · exact hdoes

theorem jtagSequence_does (q : Sequence σ) :
    ReflTransGen (Does t L cmd request) q.state (jtagSequence L request q).state := by
  have hdoes : ReflTransGen (Does t L cmd request) q.state _ :=
    .single (.jtagSequence (request q.request).toUInt32 (request.from (q.request + 1)))
  simp only [jtagSequence]
  split
  · exact hdoes
  · exact hdoes

theorem dapSwdSequence_does (s : State σ) :
    ReflTransGen (Does t L cmd request) s (dapSwdSequence L request s).state := by
  have hloop : ReflTransGen (Does t L cmd request) (startSequences s).state _ :=
    sequenceLoop_does swdSequence_does (request 0).toNat (startSequences s)
  exact hloop

theorem dapJtagSequence_does (s : State σ) :
    ReflTransGen (Does t L cmd request) s (dapJtagSequence L request s).state := by
  have hloop : ReflTransGen (Does t L cmd request) (startSequences s).state _ :=
    sequenceLoop_does jtagSequence_does (request 0).toNat (startSequences s)
  exact hloop

theorem dapJtagIdCode_does (s : State σ) :
    ReflTransGen (Does t L cmd request) s (dapJtagIdCode L request s).state := by
  rw [dapJtagIdCode]
  split
  · exact .refl
  · apply ReflTransGen.head (.index (request 0))
    dsimp only
    split
    next hvalid =>
      exact ReflTransGen.head (.jtagIr JTAG_IDCODE hvalid) (.single .jtagReadIdCode)
    · exact .refl

theorem dapWriteAbort_does (s : State σ) :
    ReflTransGen (Does t L cmd request) s (dapWriteAbort L request s).state := by
  rw [dapWriteAbort]
  dsimp only
  split
  · exact swdSend_does DP_ABORT (request.word 1) s
  · split
    · rw [dapJtagWriteAbort]
      apply ReflTransGen.head (.index (request 0))
      dsimp only
      split
      next hvalid =>
        exact ReflTransGen.head (.jtagIr JTAG_ABORT hvalid)
          (.single (.jtagWriteAbort (request.word 1)))
      · exact .refl
    · exact .refl

end Moves

theorem command_does {cmd : UInt8} {request : Request} {s : State σ} {reply : Reply σ}
    (h : command t L cmd request s = some reply) :
    ReflTransGen (Does t L cmd request) s reply.state := by
  unfold command at h
  split at h <;> cases h
  · rw [dapHostStatus]
    split <;> exact .refl
  · exact dapConnect_does s
  · exact dapDisconnect_does s
  · exact .single (.delay rfl)
  · exact dapResetTarget_does s
  · exact dapSwjPins_does s
  · exact dapSwjClock_does s
  · exact dapSwjSequence_does s
  · exact conf_does rfl rfl rfl
  · exact dapSwdSequence_does s
  · exact dapJtagSequence_does s
  · exact .single (.configure rfl)
  · exact dapJtagIdCode_does s
  · exact conf_does rfl rfl rfl
  · exact dapTransfer_does s
  · exact dapTransferBlock_does s
  · exact dapWriteAbort_does s

theorem processCommand_does (request : Request) (s : State σ) :
    ReflTransGen (Does t L (request 0) (request.from 1)) s
      (dapProcessCommand t L request s).state := by
  rw [dapProcessCommand]
  dsimp only
  split
  · exact .refl
  · split
    · exact .refl
    · split
      next reply h =>
        have hdoes : ReflTransGen _ s reply.state := command_does t L h
        exact hdoes
      next => exact .refl

end WirelessEsp.CommandSteps
