import WirelessEsp.DapRings

namespace WirelessEsp.DapAlignment

open Transition DapRings
open ByteRing (Holds slice overwrite)
open DapProxy (DAP_BUFFER_NUM Fault)

/-- A ring, and the item that the task which receives from it has in its hands. -/
abbrev Side := Option DapRing × Option Item

def dapItem : DapPc → Option Item
  | .wrong item => some item
  | .process item => some item
  | .returnIn item _ => some item
  | _ => none

def tcpItem : TcpPc → Option Item
  | .inReply item => some item
  | .inRespond item => some item
  | .inReturn item => some item
  | .unlinkRespond item => some item
  | .unlinkReturn item => some item
  | _ => none

def inSide (s : State) : Side := (s.dataIN, dapItem s.dap)

def outSide (s : State) : Side := (s.dataOUT, tcpItem s.tcp)

/-- All that a step can do to a side; `next` and `next'` are the numbers for new rings. -/
inductive SideStep (next next' : Nat) : Side → Side → Prop
  | keep (x : Side) : SideStep next next' x x
  | send {r r' : DapRing} {packet : Packet} (item : Option Item)
      (h : xRingbufferSend r packet = some r') :
      SideStep next next' (some r, item) (some r', item)
  | receive {r r' : DapRing} {item : Item} (h : xRingbufferReceiveUpTo r = some (item, r')) :
      SideStep next next' (some r, none) (some r', some item)
  | lose {r r' : DapRing} {item : Item} (h : xRingbufferReceiveUpTo r = some (item, r')) :
      SideStep next next' (some r, none) (some r', none)
  | giveBack {ring : Option DapRing} {r' : DapRing} {item : Item}
      (h : vRingbufferReturnItem ring item = some r') :
      SideStep next next' (ring, some item) (some r', none)
  | edit {r : DapRing} {item : Item} (id : UInt8) (h : r.id = item.ring) :
      SideStep next next' (some r, some item) (some (setCommandId r item id), some item)
  | delete (ring : Option DapRing) (item : Option Item) :
      SideStep next next' (ring, item) (none, item)
  | create (ring : Option DapRing) (memory : RingMemory) (item : Option Item)
      (h : next < next') :
      SideStep next next' (ring, item) (some (xRingbufferCreate next memory), item)

/-- Whether `tcp_server_task` is in a branch for a part of a packet. -/
def tcpWrong : TcpPc → Bool
  | .inWrong => true
  | .unlinkWrong => true
  | _ => false

def dapWrong : DapPc → Bool
  | .wrong _ => true
  | _ => false

/-- A task comes into such a branch only by receiving less, or more, than a packet. -/
inductive PcStep (ring : Option DapRing) (before : Bool) : Bool → Prop
  | keep : PcStep ring before before
  | right : PcStep ring before false
  | part {r r' : DapRing} {item : Item} (hring : ring = some r)
      (h : xRingbufferReceiveUpTo r = some (item, r')) (hsize : item.size ≠ DAP_HANDLE_SIZE) :
      PcStep ring before true

structure Sides (s t : State) : Prop where
  inside : SideStep s.nextRing t.nextRing (inSide s) (inSide t)
  outside : SideStep s.nextRing t.nextRing (outSide s) (outSide t)
  next : s.nextRing ≤ t.nextRing
  tcp : PcStep s.dataOUT (tcpWrong s.tcp) (tcpWrong t.tcp)
  dap : PcStep s.dataIN (dapWrong s.dap) (dapWrong t.dap)

theorem lookup_some {ring : Option DapRing} {h : Handle} {r : DapRing}
    (hl : lookup ring h = some r) : ring = some r ∧ h = some r.id := by
  rw [lookup, Option.filter_eq_some_iff, beq_iff_eq] at hl
  exact ⟨hl.1, hl.2.symm⟩

theorem fail_sides (s : State) (f : Fault) : Sides s (fail s f) :=
  ⟨.keep _, .keep _, Nat.le_refl _, .keep, .keep⟩

theorem tcpStep_sides {s t : State} (h : tcpStep s = some t) : Sides s t := by
  obtain ⟨flag, started, notified, respond, dataIN, dataOUT, next, tcp, dap, num, el, ws, fault⟩ := s
  cases tcp with
  | outSend packet handle =>
      simp only [tcpStep] at h
      split at h
      · cases h; exact fail_sides _ _
      next r hl =>
        obtain ⟨rfl, -⟩ := lookup_some hl
        split at h
        · cases h
        next r' hsend => cases h; exact ⟨.send _ hsend, .keep _, Nat.le_refl _, .right, .keep⟩
  | inReceive handle | unlinkReceive handle =>
      simp only [tcpStep] at h
      split at h
      · cases h; exact fail_sides _ _
      next r hl =>
        obtain ⟨rfl, -⟩ := lookup_some hl
        split at h
        · cases h
        next item r' hreceive =>
          split at h
          · cases h; exact ⟨.keep _, .receive hreceive, Nat.le_refl _, .right, .keep⟩
          next hsize =>
            cases h
            exact ⟨.keep _, .lose hreceive, Nat.le_refl _, .part rfl hreceive hsize, .keep⟩
  | inReturn item | unlinkReturn item =>
      simp only [tcpStep] at h
      split at h
      · cases h; exact fail_sides _ _
      next r' hreturn => cases h; exact ⟨.keep _, .giveBack hreturn, Nat.le_refl _, .right, .keep⟩
  | elMalloc | wsMalloc =>
      simp only [tcpStep] at h
      split at h
      · cases h; exact ⟨.keep _, .keep _, Nat.le_refl _, .right, .keep⟩
      · cases h
        cases started
        · exact ⟨.keep _, .keep _, Nat.le_refl _, .right, .keep⟩
        · exact ⟨.delete _ _, .delete _ _, Nat.le_refl _, .right, .keep⟩
  | outNotify | unlinkCall =>
      simp only [tcpStep] at h
      split at h <;> cases h <;> exact ⟨.keep _, .keep _, Nat.le_refl _, .right, .keep⟩
  | accept | urb | elRead | wsRead => cases h
  | _ => cases h; exact ⟨.keep _, .keep _, Nat.le_refl _, .right, .keep⟩

theorem created_sideStep {next next' : Nat} (h : next < next') (ring : Option DapRing)
    (memory : Option RingMemory) (item : Option Item) :
    SideStep next next' (ring, item)
      (ring.or (memory.map (xRingbufferCreate next)), item) := by
  cases ring with
  | some r => exact .keep _
  | none =>
      cases memory with
      | none => exact .keep _
      | some m => exact .create _ m item h

theorem init_sideStep {next next' : Nat} (h : next < next') (ring : Option DapRing)
    (memory : Option RingMemory) (item : Option Item) :
    SideStep next next' (ring, item) (memory.map (xRingbufferCreate next), item) := by
  cases memory with
  | none => exact .delete ring item
  | some m => exact .create ring m item h

theorem edited_sideStep {next next' : Nat} {r : DapRing} {item : Item} (h : r.id = item.ring)
    (id : UInt8) (c : Prop) [Decidable c] :
    SideStep next next' (some r, some item)
      (some (if c then setCommandId r item id else r), some item) := by
  split
  · exact .edit id h
  · exact .keep _

theorem dapItem_ite (c : Prop) [Decidable c] {pc pc' : DapPc} (h : dapItem pc = none)
    (h' : dapItem pc' = none) : dapItem (if c then pc else pc') = none := by
  split
  · exact h
  · exact h'

theorem dapWrong_ite {ring : Option DapRing} {before : Bool} (c : Prop) [Decidable c]
    {pc pc' : DapPc} (h : dapWrong pc = false) (h' : dapWrong pc' = false) :
    PcStep ring before (dapWrong (if c then pc else pc')) := by
  rw [apply_ite dapWrong, h, h', ite_self]
  exact .right

theorem dapStep_sides {w : World} {s t : State} (h : dapStep w s = some t) : Sides s t := by
  obtain ⟨flag, started, notified, respond, dataIN, dataOUT, next, tcp, dap, num, el, ws, fault⟩ := s
  cases dap with
  | init =>
      cases h
      refine ⟨?_, ?_, Nat.le_succ _, .keep, dapWrong_ite _ rfl rfl⟩
      · simp only [inSide, @dapItem_ite _ _ .deleted .top rfl rfl]
        exact init_sideStep (Nat.lt_succ_self _) _ _ _
      · exact init_sideStep (Nat.lt_succ_self _) _ _ _
  | free =>
      cases h
      cases started
      · exact ⟨.keep _, .keep _, Nat.le_refl _, .keep, .right⟩
      · exact ⟨.delete _ _, .delete _ _, Nat.le_refl _, .keep, .right⟩
  | malloc =>
      cases h
      cases started
      · refine ⟨?_, .keep _, Nat.le_refl _, .keep, dapWrong_ite _ rfl rfl⟩
        simp only [inSide, @dapItem_ite _ _ .deleted .clear rfl rfl]
        exact .keep _
      · refine ⟨?_, created_sideStep (Nat.lt_succ_self _) _ _ _, Nat.le_succ _, .keep,
          dapWrong_ite _ rfl rfl⟩
        simp only [inSide, @dapItem_ite _ _ .deleted .clear rfl rfl]
        exact created_sideStep (Nat.lt_succ_self _) _ _ _
  | receive handle =>
      simp only [dapStep] at h
      split at h
      · cases h; exact fail_sides _ _
      next r hl =>
        obtain ⟨rfl, -⟩ := lookup_some hl
        split at h
        · cases h; exact ⟨.keep _, .keep _, Nat.le_refl _, .keep, .right⟩
        next item r' hreceive =>
          split at h
          · cases h; exact ⟨.lose hreceive, .keep _, Nat.le_refl _, .keep, .right⟩
          · split at h
            next hpart =>
              have hsize : item.size ≠ DAP_HANDLE_SIZE := Nat.ne_of_lt hpart
              cases h
              exact ⟨.receive hreceive, .keep _, Nat.le_refl _, .keep, .part rfl hreceive hsize⟩
            · cases h; exact ⟨.receive hreceive, .keep _, Nat.le_refl _, .keep, .right⟩
  | wrong item | returnIn item response =>
      simp only [dapStep] at h
      split at h
      · cases h; exact fail_sides _ _
      next r' hreturn => cases h; exact ⟨.giveBack hreturn, .keep _, Nat.le_refl _, .keep, .right⟩
  | process item =>
      simp only [dapStep] at h
      split at h
      · cases h; exact fail_sides _ _
      next r hl =>
        obtain ⟨rfl, hid⟩ := lookup_some hl
        cases h
        have hring : r.id = item.ring := (Option.some.inj hid).symm
        exact ⟨edited_sideStep hring _ _, .keep _, Nat.le_refl _, .keep, .right⟩
  | sendOut response handle =>
      simp only [dapStep] at h
      split at h
      · cases h; exact fail_sides _ _
      next r hl =>
        obtain ⟨rfl, -⟩ := lookup_some hl
        split at h
        · cases h
        next r' hsend => cases h; exact ⟨.keep _, .send _ hsend, Nat.le_refl _, .keep, .right⟩
  | top | afterFree | wait | check =>
      simp only [dapStep] at h
      split at h <;> cases h <;> exact ⟨.keep _, .keep _, Nat.le_refl _, .keep, .right⟩
  | deleted => cases h
  | _ => cases h; exact ⟨.keep _, .keep _, Nat.le_refl _, .keep, .right⟩

theorem connect_sides {s : State} (hpc : s.tcp = .accept) (tr : DapProxy.Transport) :
    Sides s (connect s tr) := by
  obtain ⟨flag, started, notified, respond, dataIN, dataOUT, next, tcp, dap, num, el, ws, fault⟩ := s
  cases hpc
  cases tr <;> exact ⟨.keep _, .keep _, Nat.le_refl _, .right, .keep⟩

theorem commandStep_sides {s t : State} {c : Command} (h : commandStep s c = some t) :
    Sides s t := by
  obtain ⟨flag, started, notified, respond, dataIN, dataOUT, next, tcp, dap, num, el, ws, fault⟩ := s
  cases tcp with
  | urb =>
      cases c with
      | inSubmit =>
          simp only [commandStep, urbCommand] at h
          split at h <;> cases h <;> exact ⟨.keep _, .keep _, Nat.le_refl _, .right, .keep⟩
      | outSubmit | unlink | other =>
          cases h
          exact ⟨.keep _, .keep _, Nat.le_refl _, .right, .keep⟩
  | elRead | wsRead => cases h; exact ⟨.keep _, .keep _, Nat.le_refl _, .right, .keep⟩
  | _ => cases h

theorem closeStep_sides {s t : State} (h : closeStep s = some t) : Sides s t := by
  obtain ⟨flag, started, notified, respond, dataIN, dataOUT, next, tcp, dap, num, el, ws, fault⟩ := s
  cases tcp with
  | urb | elRead | wsRead => cases h; exact ⟨.keep _, .keep _, Nat.le_refl _, .right, .keep⟩
  | _ => cases h

theorem timeoutStep_sides {s t : State} (h : timeoutStep s = some t) : Sides s t := by
  obtain ⟨flag, started, notified, respond, dataIN, dataOUT, next, tcp, dap, num, el, ws, fault⟩ := s
  cases tcp with
  | unlinkReceive handle =>
      simp only [timeoutStep] at h
      split at h
      · cases h; exact fail_sides _ _
      · split at h
        · cases h; exact ⟨.keep _, .keep _, Nat.le_refl _, .right, .keep⟩
        · cases h
  | _ => cases h

theorem step_sides {s t : State} {a : Act} (h : step s a = some t) : Sides s t := by
  rw [step] at h
  split at h
  · cases h
  · cases a with
    | connect tr =>
        simp only [enabledStep] at h
        split at h
        next hpc => cases h; exact connect_sides hpc tr
        · cases h
    | command c => exact commandStep_sides h
    | close => exact closeStep_sides h
    | timeout => exact timeoutStep_sides h
    | tcp => exact tcpStep_sides h
    | dap w => exact dapStep_sides h

/-- The ring holds whole packets: those that were sent and not yet received, in their order. -/
def Whole (r : DapRing) : Prop :=
  ∃ f taken packets, Holds DAP_HANDLE_SIZE DAP_BUFFER_NUM r.ring f taken packets ∧
    r.sent = r.received ++ packets

def Held (r : DapRing) (item : Item) : Prop :=
  ∃ f p packets, Holds DAP_HANDLE_SIZE DAP_BUFFER_NUM r.ring f [p] packets ∧
    r.sent = r.received ++ packets ∧
    item.offset = DAP_HANDLE_SIZE * f ∧ item.size = DAP_HANDLE_SIZE

structure SideOk (next : Nat) (x : Side) : Prop where
  whole : ∀ r, x.1 = some r → Whole r
  held : ∀ r item, x = (some r, some item) → item.ring = r.id → Held r item
  ringId : ∀ r, x.1 = some r → r.id < next
  itemId : ∀ item, x.2 = some item → item.ring < next

theorem handle_pos : 0 < DAP_HANDLE_SIZE := by decide

theorem Held.whole {r : DapRing} {item : Item} (h : Held r item) : Whole r := by
  obtain ⟨f, p, packets, hholds, hsent, -⟩ := h
  exact ⟨f, [p], packets, hholds, hsent⟩

theorem xRingbufferCreate_whole (id : Nat) (memory : RingMemory) :
    Whole (xRingbufferCreate id memory) :=
  ⟨0, [], [], ByteRing.create_holds (by decide) Vector.length_toList, rfl⟩

theorem xRingbufferSend_some {r r' : DapRing} {packet : Packet}
    (h : xRingbufferSend r packet = some r') :
    ∃ ring, r.ring.send packet.toList = some ring ∧
      r' = { r with ring := ring, sent := r.sent ++ [packet.toList] } := by
  rw [xRingbufferSend, Option.map_eq_some_iff] at h
  obtain ⟨ring, hsend, rfl⟩ := h
  exact ⟨ring, hsend, rfl⟩

theorem send_whole {r r' : DapRing} {packet : Packet} (h : xRingbufferSend r packet = some r')
    (hr : Whole r) : Whole r' := by
  obtain ⟨ring, hsend, rfl⟩ := xRingbufferSend_some h
  obtain ⟨f, taken, packets, hholds, hsent⟩ := hr
  have hnext := hholds.send handle_pos packet.length_toList hsend
  refine ⟨f, taken, packets ++ [packet.toList], hnext, ?_⟩
  rw [← List.append_assoc, ← hsent]

theorem send_held {r r' : DapRing} {packet : Packet} {item : Item}
    (h : xRingbufferSend r packet = some r') (hr : Held r item) : Held r' item := by
  obtain ⟨ring, hsend, rfl⟩ := xRingbufferSend_some h
  obtain ⟨f, p, packets, hholds, hsent, hoffset, hsize⟩ := hr
  have hnext := hholds.send handle_pos packet.length_toList hsend
  refine ⟨f, p, packets ++ [packet.toList], hnext, ?_, hoffset, hsize⟩
  rw [← List.append_assoc, ← hsent]

/-- The item is a whole packet: the oldest one that was sent and not received, as it was sent. -/
structure WholePacket (r : DapRing) (item : Item) : Prop where
  size : item.size = DAP_HANDLE_SIZE
  offset : DAP_HANDLE_SIZE ∣ item.offset
  bytes : r.sent[r.received.length]? = some (slice r.ring.memory item.offset item.size)

theorem receive_whole {r r' : DapRing} {item : Item} (hr : Whole r)
    (h : xRingbufferReceiveUpTo r = some (item, r')) :
    WholePacket r item ∧ item.ring = r.id ∧ r'.id = r.id ∧ Held r' item := by
  obtain ⟨f, taken, packets, hholds, hsent⟩ := hr
  rw [xRingbufferReceiveUpTo, Option.map_eq_some_iff] at h
  obtain ⟨⟨⟨offset, size⟩, ring⟩, hreceive, heq⟩ := h
  rcases hholds.receive_cases handle_pos (by decide) with hnone | ⟨p, ps, q, hp, hsome, hslice, hq⟩
  · rw [hnone] at hreceive
    cases hreceive
  · rw [hsome] at hreceive
    cases hreceive
    cases heq
    have hnext : r.sent[r.received.length]? = some p := by
      rw [hsent, hp, List.getElem?_append_right (Nat.le_refl _), Nat.sub_self]
      rfl
    refine ⟨⟨rfl, Nat.dvd_mul_right _ f, ?_⟩, rfl, rfl, f, p, ps, hq, ?_, rfl, rfl⟩
    · rw [hnext, hslice]
    · rw [hsent, hp, hslice, List.append_assoc]
      rfl

theorem vRingbufferReturnItem_some {ring : Option DapRing} {item : Item} {r' : DapRing}
    (h : vRingbufferReturnItem ring item = some r') :
    ∃ r, ring = some r ∧ r.id = item.ring ∧ r' = { r with ring := r.ring.giveBack } := by
  rw [vRingbufferReturnItem, Option.map_eq_some_iff] at h
  obtain ⟨r, hl, rfl⟩ := h
  obtain ⟨hring, hid⟩ := lookup_some hl
  exact ⟨r, hring, (Option.some.inj hid).symm, rfl⟩

theorem giveBack_whole {r : DapRing} {item : Item} (h : Held r item) :
    Whole { r with ring := r.ring.giveBack } := by
  obtain ⟨f, p, packets, hholds, hsent, -⟩ := h
  exact ⟨_, [], packets, hholds.giveBack, hsent⟩

theorem setCommandId_held {r : DapRing} {item : Item} (id : UInt8) (h : Held r item) :
    Held (setCommandId r item id) item := by
  obtain ⟨f, p, packets, hholds, hsent, hoffset, hsize⟩ := h
  have hfits : 4 + 1 ≤ DAP_HANDLE_SIZE := by decide
  have hedit := hholds.overwriteTaken (show 4 + [id].length ≤ DAP_HANDLE_SIZE from hfits)
  rw [← hoffset] at hedit
  exact ⟨f, _, packets, hedit, hsent, hoffset, hsize⟩

variable {next next' : Nat} {x y : Side}

theorem sideOk_none (item : Option Item) (hitem : ∀ i, item = some i → i.ring < next) :
    SideOk next (none, item) where
  whole := fun r hr => by cases hr
  held := fun r i hri => by cases hri
  ringId := fun r hr => by cases hr
  itemId := hitem

theorem sideOk_some {r : DapRing} {item : Option Item} (hwhole : Whole r)
    (hheld : ∀ i, item = some i → i.ring = r.id → Held r i) (hid : r.id < next)
    (hitem : ∀ i, item = some i → i.ring < next) : SideOk next (some r, item) where
  whole := fun q hq => by cases hq; exact hwhole
  held := fun q i hqi => by cases hqi; exact hheld i rfl
  ringId := fun q hq => by cases hq; exact hid
  itemId := hitem

theorem SideOk.mono (h : SideOk next x) (hle : next ≤ next') : SideOk next' x where
  whole := h.whole
  held := h.held
  ringId := fun r hr => Nat.lt_of_lt_of_le (h.ringId r hr) hle
  itemId := fun i hi => Nat.lt_of_lt_of_le (h.itemId i hi) hle

theorem SideStep.ok (h : SideStep next next' x y) (hle : next ≤ next') (hx : SideOk next x) :
    SideOk next' y := by
  cases h with
  | keep => exact hx.mono hle
  | @send r r' packet item hsend =>
      have hid : r'.id = r.id := by
        obtain ⟨ring, -, rfl⟩ := xRingbufferSend_some hsend
        rfl
      refine (sideOk_some (send_whole hsend (hx.whole r rfl)) ?_ ?_ hx.itemId).mono hle
      · rintro i rfl hring
        exact send_held hsend (hx.held r i rfl (hring.trans hid))
      · rw [hid]
        exact hx.ringId r rfl
  | @receive r r' item hreceive =>
      obtain ⟨-, hring, hid, hheld⟩ := receive_whole (hx.whole r rfl) hreceive
      refine (sideOk_some hheld.whole ?_ ?_ ?_).mono hle
      · rintro i hi -
        cases hi
        exact hheld
      · rw [hid]
        exact hx.ringId r rfl
      · rintro i hi
        cases hi
        rw [hring]
        exact hx.ringId r rfl
  | @lose r r' item hreceive =>
      obtain ⟨-, -, hid, hheld⟩ := receive_whole (hx.whole r rfl) hreceive
      refine (sideOk_some hheld.whole ?_ ?_ hx.itemId).mono hle
      · rintro i hi -
        cases hi
      · rw [hid]
        exact hx.ringId r rfl
  | @giveBack ring r' item hreturn =>
      obtain ⟨r, rfl, hid, rfl⟩ := vRingbufferReturnItem_some hreturn
      have hheld : Held r item := hx.held r item rfl hid.symm
      refine (sideOk_some (giveBack_whole hheld) ?_ (hx.ringId r rfl) ?_).mono hle
      · rintro i hi -
        cases hi
      · rintro i hi
        cases hi
  | @edit r item id hid =>
      have hheld : Held (setCommandId r item id) item :=
        setCommandId_held id (hx.held r item rfl hid.symm)
      refine (sideOk_some hheld.whole ?_ (hx.ringId r rfl) hx.itemId).mono hle
      rintro i hi -
      cases hi
      exact hheld
  | delete ring item => exact (sideOk_none item hx.itemId).mono hle
  | create ring memory item hlt =>
      refine sideOk_some (xRingbufferCreate_whole next memory) ?_ hlt ?_
      · intro i hi hring
        -- an item is of an older ring than the new one
        exact absurd hring (Nat.ne_of_lt (hx.itemId i hi))
      · intro i hi
        exact Nat.lt_of_lt_of_le (hx.itemId i hi) hle

theorem PcStep.right_of_whole {ring : Option DapRing} {before after : Bool}
    (h : PcStep ring before after) (hwhole : ∀ r, ring = some r → Whole r)
    (hbefore : before = false) : after = false := by
  cases h with
  | keep => exact hbefore
  | right => rfl
  | part hring hreceive hsize =>
      exact absurd (receive_whole (hwhole _ hring) hreceive).1.size hsize

structure Inv (s : State) : Prop where
  inside : SideOk s.nextRing (inSide s)
  outside : SideOk s.nextRing (outSide s)
  tcp : tcpWrong s.tcp = false
  dap : dapWrong s.dap = false

theorem boot_inv : Inv State.boot where
  inside := sideOk_none none (fun i hi => by cases hi)
  outside := sideOk_none none (fun i hi => by cases hi)
  tcp := rfl
  dap := rfl

theorem step_inv {s t : State} {a : Act} (hs : Inv s) (h : step s a = some t) : Inv t where
  inside := (step_sides h).inside.ok (step_sides h).next hs.inside
  outside := (step_sides h).outside.ok (step_sides h).next hs.outside
  tcp := (step_sides h).tcp.right_of_whole hs.outside.whole hs.tcp
  dap := (step_sides h).dap.right_of_whole hs.inside.whole hs.dap

/-- Both rings hold whole packets, a receive of either finds nothing or a whole packet, and the
branches for a part of a packet are not entered. -/
structure Aligned (s : State) : Prop where
  whole : ∀ r, s.dataIN = some r ∨ s.dataOUT = some r → Whole r
  receive : ∀ r item r', s.dataIN = some r ∨ s.dataOUT = some r →
    xRingbufferReceiveUpTo r = some (item, r') → WholePacket r item
  thread : ∀ item, s.dap ≠ .wrong item
  fastReply : s.tcp ≠ .inWrong
  unlink : s.tcp ≠ .unlinkWrong

theorem Inv.aligned {s : State} (h : Inv s) : Aligned s := by
  have hwhole : ∀ r, s.dataIN = some r ∨ s.dataOUT = some r → Whole r := by
    rintro r (hr | hr)
    · exact h.inside.whole r hr
    · exact h.outside.whole r hr
  have htcp := h.tcp
  have hdap := h.dap
  refine ⟨hwhole, ?_, ?_, ?_, ?_⟩
  · intro r item r' hr hreceive
    exact (receive_whole (hwhole r hr) hreceive).1
  · intro item hitem
    rw [hitem] at hdap
    cases hdap
  · intro hpc
    rw [hpc] at htcp
    cases htcp
  · intro hpc
    rw [hpc] at htcp
    cases htcp

/-- On every run, no packet is ever split at the end of a ring or received in part. -/
theorem rings_stay_aligned (as : List Act) : Always step Aligned State.boot as := by
  have hinv : Always step Inv State.boot as :=
    always_of_invariant (fun s a t hs h => step_inv hs h) boot_inv as
  exact hinv.mono fun s hs => hs.aligned

end WirelessEsp.DapAlignment
