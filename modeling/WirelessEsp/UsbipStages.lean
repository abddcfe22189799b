import WirelessEsp.UsbipReceive

namespace WirelessEsp.UsbipStages

open LeWords UsbipHeader UsbipServer UsbipReceive

/-- The command field of the stage 1 request at an offset of a stream. -/
def requested (bs : List UInt8) (off : Nat) : UInt16 :=
  (bs.getD (off + 2) 0).toUInt16 <<< 8 ||| (bs.getD (off + 3) 0).toUInt16

theorem ntohl_low (mem : Memory) :
    ntohl (word mem 0) &&& 0xFFFF = (stage1Command mem).toUInt32 := by
  apply UInt32.toBitVec_inj.mp
  apply BitVec.eq_of_getLsbD_eq
  intro i hi
  simp only [ntohl, word, byteOf_ofBytes _ _ _ _ _ (show 0 < 4 by omega),
    byteOf_ofBytes _ _ _ _ _ (show 1 < 4 by omega), byteOf_ofBytes _ _ _ _ _ (show 2 < 4 by omega),
    byteOf_ofBytes _ _ _ _ _ (show 3 < 4 by omega)]
  have hcommand : (stage1Command mem).toUInt32.toBitVec =
      (((mem 2).toBitVec.setWidth 16 <<< 8) ||| (mem 3).toBitVec.setWidth 16).setWidth 32 := rfl
  rw [hcommand]
  interval_cases i <;> simp [ofBytes]

theorem store_get {mem : Memory} {off i : Nat} {xs : List UInt8} (h : off ≤ i)
    (hi : i < off + xs.length) : store mem off xs i = xs.getD (i - off) 0 :=
  if_pos ⟨h, hi⟩

theorem store_below {mem : Memory} {off i : Nat} {xs : List UInt8} (h : i < off) :
    store mem off xs i = mem i :=
  if_neg (by omega)

def answer (command : UInt16) : List Stage1Send :=
  if command &&& 0xFF == USBIP_STAGE1_CMD_DEVICE_LIST then handleDeviceList
  else if command &&& 0xFF == USBIP_STAGE1_CMD_DEVICE_ATTACH then
    sendStage1Header USBIP_STAGE1_CMD_DEVICE_ATTACH 0 ++ sendDeviceInfo
  else []

theorem attach_eq (mem : Memory) {length : Nat} (h : 8 ≤ length) :
    attach mem length = some (answer (stage1Command mem)) := by
  have hread : readStage1Command mem length = some (stage1Command mem &&& 0xFF) :=
    if_neg (by omega)
  have hattach : handleDeviceAttach length =
      sendStage1Header USBIP_STAGE1_CMD_DEVICE_ATTACH 0 ++ sendDeviceInfo := if_neg (by omega)
  simp only [attach, hread, hattach, answer]
  split
  · rfl
  · split <;> rfl

theorem request_ok {off length : Nat} (c : Stage1) (h8 : 8 ≤ length) (hfit : length ≤ bufferLength)
    (hoff : off ≤ length) (hlen : length - off ≤ (stream c.segs).length) : ∃ segs',
      c.request off length = .ok
        ⟨store c.mem off ((stream c.segs).take (length - off)), segs',
          c.received ++ [stage1Command (store c.mem off ((stream c.segs).take (length - off)))],
          c.sent ++ answer (stage1Command (store c.mem off ((stream c.segs).take (length - off))))⟩ ∧
      stream segs' = (stream c.segs).drop (length - off) := by
  obtain ⟨segs', hloop, hrest⟩ := @recvLoop_ok off _ c.mem c.segs hlen (by omega)
  refine ⟨segs', ?_, hrest⟩
  rw [Stage1.request, hloop]
  simp only [bind, Except.bind, attach_eq _ h8]
  rfl

theorem request_closed {off length : Nat} (c : Stage1) (hfit : length ≤ bufferLength)
    (hlen : (stream c.segs).length < length - off) : c.request off length = .error .closed := by
  rw [Stage1.request, recvLoop_closed c.mem hlen (by omega)]
  rfl

def importReply : List Stage1Send :=
  sendStage1Header USBIP_STAGE1_CMD_DEVICE_ATTACH 0 ++ sendDeviceInfo

/-- An `OP_REQ_IMPORT` was received and its reply was sent. -/
structure Imported (c : Stage1) : Prop where
  request : 0x8003 ∈ c.received
  reply : importReply <:+: c.sent

theorem answer_import : answer 0x8003 = importReply := by decide

theorem command_start {mem : Memory} {bs : List UInt8} {n : Nat} (hlen : n ≤ bs.length) (hn : 4 ≤ n) :
    stage1Command (store mem 0 (bs.take n)) = requested bs 0 := by
  have hget : ∀ i < 4, store mem 0 (bs.take n) i = bs.getD i 0 := by
    intro i hi
    rw [store_get (Nat.zero_le i) (by rw [List.length_take]; omega), Nat.sub_zero,
      List.getD_eq_getElem?_getD, List.getElem?_take_of_lt (by omega), List.getD_eq_getElem?_getD]
  rw [stage1Command, hget 2 (by omega), hget 3 (by omega), requested]

theorem command_kept {mem : Memory} {xs : List UInt8} :
    stage1Command (store mem 4 xs) = stage1Command mem := by
  rw [stage1Command, store_below (by omega), store_below (by omega), stage1Command]

theorem command_next {mem : Memory} {bs : List UInt8} {n : Nat} (hlen : n ≤ bs.length) (hn : 4 ≤ n)
    (off : Nat) (all : List UInt8) (h : bs = all.drop off) :
    stage1Command (store mem 0 (bs.take n)) = requested all off := by
  rw [command_start hlen hn, h, requested, requested]
  simp only [List.getD_eq_getElem?_getD, List.getElem?_drop, Nat.zero_add]

theorem usbipWorker_import {c : Stage1} (hc : stage1Command c.mem = 0x8003)
    (hlen : 36 ≤ (stream c.segs).length) (hsent : c.sent = []) : ∃ c',
      usbipWorker .waitImport c = .ok c' ∧ Imported c' ∧
      stream c'.segs = (stream c.segs).drop 36 := by
  obtain ⟨segs', hreq, hrest⟩ := @request_ok 4 40 c (by decide) (by decide) (by decide) hlen
  refine ⟨_, hreq, ⟨?_, ?_⟩, hrest⟩
  · show 0x8003 ∈ c.received ++ [_]
    rw [command_kept, hc]
    exact List.mem_append_right _ (List.mem_singleton.mpr rfl)
  · show importReply <:+: c.sent ++ _
    rw [command_kept, hc, answer_import, hsent]
    exact List.infix_rfl

/-- The connection of a stream that asks for the device list first: it comes to the URB phase
whatever the second request is. -/
theorem usbipWorker_devlist {c : Stage1} (hc : stage1Command c.mem = 0x8005)
    (hlen : 44 ≤ (stream c.segs).length) (hreceived : c.received = []) : ∃ c',
      usbipWorker .waitDevlist c = .ok c' ∧
      c'.received = [0x8005, requested (stream c.segs) 4] ∧
      (requested (stream c.segs) 4 = 0x8003 → Imported c') ∧
      stream c'.segs = (stream c.segs).drop 44 := by
  obtain ⟨segs', hreq, hrest⟩ := @request_ok 4 8 c (by decide) (by decide) (by decide)
    (Nat.le_trans (by decide) hlen)
  rw [command_kept, hc] at hreq
  generalize hmem : store c.mem 4 _ = mem at hreq
  have hlen' : 40 ≤ (stream segs').length := by
    rw [hrest, List.length_drop]
    omega
  obtain ⟨segs'', hreq', hrest'⟩ := @request_ok 0 40
    ⟨mem, segs', c.received ++ [0x8005], c.sent ++ answer 0x8005⟩ (by decide) (by decide)
    (by decide) hlen'
  have hcommand : stage1Command (store mem 0 ((stream segs').take 40)) =
      requested (stream c.segs) 4 := command_next hlen' (by decide) 4 _ hrest
  refine ⟨⟨store mem 0 ((stream segs').take 40), segs'', c.received ++ [0x8005] ++
      [requested (stream c.segs) 4], c.sent ++ answer 0x8005 ++ answer (requested (stream c.segs) 4)⟩,
    ?_, ?_, ?_, ?_⟩
  · rw [usbipWorker, if_pos rfl, hreq]
    show Stage1.request 0 40 _ = _
    rw [hreq']
    show Except.ok _ = _
    rw [hcommand]
  · rw [hreceived]
    rfl
  · intro himport
    refine ⟨?_, ?_⟩
    · rw [himport]
      exact List.mem_append_right _ (List.mem_singleton.mpr rfl)
    · rw [himport, answer_import]
      exact (List.suffix_append _ _).isInfix
  · show stream segs'' = _
    rw [hrest', hrest, List.drop_drop]

theorem usbipWorker_import_short {c : Stage1} (hlen : (stream c.segs).length < 36) :
    usbipWorker .waitImport c = .error .closed :=
  request_closed c (by decide) hlen

theorem usbipWorker_devlist_short {c : Stage1} (hlen : (stream c.segs).length < 44) :
    usbipWorker .waitDevlist c = .error .closed := by
  rw [usbipWorker, if_pos rfl]
  by_cases hfirst : 4 ≤ (stream c.segs).length
  · obtain ⟨segs', hreq, hrest⟩ := @request_ok 4 8 c (by decide) (by decide) (by decide) hfirst
    have hlen' : (stream segs').length < 40 := by
      rw [hrest, List.length_drop]
      omega
    rw [hreq]
    exact request_closed _ (by decide) hlen'
  · rw [request_closed c (by decide) (Nat.lt_of_not_le hfirst)]
    rfl

theorem tcpServerTask_short {mem : Memory} {segs : Segments} (h : (stream segs).length < 4) :
    tcpServerTask mem segs = .error .closed := by
  rw [tcpServerTask, recvLoop_closed mem h (Nat.le_trans (by omega) (by decide : 4 ≤ bufferLength))]
  rfl

theorem wide_beq (x v : UInt16) (w : UInt32) (h : v.toUInt32 = w) : (x.toUInt32 == w) = (x == v) := by
  rw [← h]
  by_cases hx : x = v
  · rw [hx, beq_self_eq_true, beq_self_eq_true]
  · rw [beq_false_of_ne hx, beq_false_of_ne]
    intro heq
    exact hx (by rw [← UInt16.toUInt16_toUInt32 x, heq, UInt16.toUInt16_toUInt32])

theorem tcpServerTask_start (mem : Memory) (segs : Segments) (h : 4 ≤ (stream segs).length) :
    ∃ c : Stage1, c.received = [] ∧ c.sent = [] ∧ stream c.segs = (stream segs).drop 4 ∧
      stage1Command c.mem = requested (stream segs) 0 ∧
      (requested (stream segs) 0 = 0x8005 →
        tcpServerTask mem segs = (usbipWorker .waitDevlist c).map some) ∧
      (requested (stream segs) 0 = 0x8003 →
        tcpServerTask mem segs = (usbipWorker .waitImport c).map some) ∧
      (requested (stream segs) 0 ≠ 0x8005 → requested (stream segs) 0 ≠ 0x8003 →
        tcpServerTask mem segs = .ok none) := by
  obtain ⟨segs', hloop, hrest⟩ := @recvLoop_ok 0 4 mem segs h (by decide)
  have hcommand := @command_start mem _ 4 h (Nat.le_refl 4)
  have hlow := ntohl_low (store mem 0 ((stream segs).take 4))
  rw [hcommand] at hlow
  have hlink : requested (stream segs) 0 = 0x8005 ∨ requested (stream segs) 0 = 0x8003 →
      (ntohl (word (store mem 0 ((stream segs).take 4)) 0) == EL_LINK_IDENTIFIER) = false := by
    intro husbip
    apply beq_false_of_ne
    intro heq
    rw [heq] at hlow
    rcases husbip with h | h
    · rw [h] at hlow
      exact absurd hlow (by decide)
    · rw [h] at hlow
      exact absurd hlow (by decide)
  refine ⟨⟨store mem 0 ((stream segs).take 4), segs', [], []⟩, rfl, rfl, hrest, hcommand, ?_, ?_, ?_⟩
  · intro hlist
    have hbeq : ((0x8005 : UInt16) == 0x8003) = false := by decide
    simp only [tcpServerTask, hloop, bind, Except.bind, hlow, hlink (.inl hlist),
      wide_beq _ 0x8005 0x8005 rfl, wide_beq _ 0x8003 0x8003 rfl, hlist, hbeq, beq_self_eq_true,
      Bool.false_or, Bool.false_eq_true, if_true, if_false]
    cases usbipWorker .waitDevlist _ <;> rfl
  · intro himport
    have hbeq : ((0x8003 : UInt16) == 0x8005) = false := by decide
    simp only [tcpServerTask, hloop, bind, Except.bind, hlow, hlink (.inr himport),
      wide_beq _ 0x8005 0x8005 rfl, wide_beq _ 0x8003 0x8003 rfl, himport, hbeq, beq_self_eq_true,
      Bool.true_or, Bool.false_eq_true, if_true, if_false]
    cases usbipWorker .waitImport _ <;> rfl
  · intro hlist himport
    simp only [tcpServerTask, hloop, bind, Except.bind, hlow, wide_beq _ 0x8005 0x8005 rfl,
      wide_beq _ 0x8003 0x8003 rfl, beq_false_of_ne hlist, beq_false_of_ne himport, Bool.or_self,
      Bool.false_eq_true, if_false]
    split <;> rfl

/-- The URB phase is entered after an import for every stream except the ones that start with a
device list request and another 40 bytes that ask for something else. -/
theorem staged_iff (mem : Memory) (segs : Segments) :
    (∀ c, tcpServerTask mem segs = .ok (some c) → Imported c) ↔
    (requested (stream segs) 0 = 0x8005 → 48 ≤ (stream segs).length →
      requested (stream segs) 8 = 0x8003) := by
  by_cases hlen : 4 ≤ (stream segs).length
  · obtain ⟨c, hreceived, hsent, hrest, hcommand, hlist, himport, hother⟩ :=
      tcpServerTask_start mem segs hlen
    have hnext : requested (stream c.segs) 4 = requested (stream segs) 8 := by
      rw [hrest, requested, requested]
      simp only [List.getD_eq_getElem?_getD, List.getElem?_drop]
    have hrestlen : (stream c.segs).length = (stream segs).length - 4 := by
      rw [hrest, List.length_drop]
    by_cases h5 : requested (stream segs) 0 = 0x8005
    · rw [hlist h5]
      rw [h5] at hcommand
      by_cases hall : 48 ≤ (stream segs).length
      · obtain ⟨c', hworker, hcommands, himported, -⟩ :=
          usbipWorker_devlist hcommand (by omega) hreceived
        rw [hworker, ← hnext]
        constructor
        · intro h _ _
          have hmem := (h c' rfl).request
          rw [hcommands] at hmem
          rcases List.mem_cons.mp hmem with heq | hmem'
          · exact absurd heq (by decide)
          · exact (List.mem_singleton.mp hmem').symm
        · intro h c'' hc
          cases hc
          exact himported (h h5 hall)
      · rw [usbipWorker_devlist_short (by omega)]
        refine ⟨fun _ _ h48 => absurd h48 hall, ?_⟩
        intro _ c' hc
        cases hc
    · by_cases h3 : requested (stream segs) 0 = 0x8003
      · refine ⟨fun _ hlist => absurd hlist h5, ?_⟩
        rw [himport h3]
        rw [h3] at hcommand
        intro _ c' hc
        by_cases hall : 36 ≤ (stream c.segs).length
        · obtain ⟨c'', hworker, himported, -⟩ := usbipWorker_import hcommand hall hsent
          rw [hworker] at hc
          cases hc
          exact himported
        · rw [usbipWorker_import_short (Nat.lt_of_not_le hall)] at hc
          cases hc
      · refine ⟨fun _ hlist => absurd hlist h5, ?_⟩
        rw [hother h5 h3]
        intro _ c' hc
        cases hc
  · rw [tcpServerTask_short (Nat.lt_of_not_le hlen)]
    refine ⟨fun _ _ h48 => absurd h48 (by omega), ?_⟩
    intro _ c hc
    cases hc

/-- A device list request and forty bytes of zeros. -/
theorem not_imported_unknown : ¬ ∀ c,
    tcpServerTask (fun _ => 0) [[1, 17, 0x80, 5, 0, 0, 0, 0] ++ List.replicate 40 0] = .ok (some c) →
      Imported c := by
  intro h
  obtain ⟨c, hreceived, hsent, hrest, hcommand, hlist, -⟩ := tcpServerTask_start (fun _ => 0)
    [[1, 17, 0x80, 5, 0, 0, 0, 0] ++ List.replicate 40 0] (by decide)
  obtain ⟨c', hworker, hcommands, -⟩ := usbipWorker_devlist hcommand (by rw [hrest]; decide) hreceived
  have htask := hlist (by decide)
  rw [hworker] at htask
  have hmem := (h c' htask).request
  rw [hcommands, hrest] at hmem
  exact absurd hmem (by decide)

theorem request_inBounds {off length : Nat} (c : Stage1) (hoff : off ≤ length)
    (hfit : length ≤ bufferLength) : InBounds (c.request off length) := by
  apply InBounds.bind (recvLoop_inBounds _ _ (by omega))
  intro x
  dsimp only
  split
  · exact .closed
  · exact .ok _

theorem usbipWorker_inBounds (state : ServerState) (c : Stage1) :
    InBounds (usbipWorker state c) := by
  rw [usbipWorker]
  split
  · apply InBounds.bind (request_inBounds c (by decide) (by decide))
    intro c'
    exact request_inBounds c' (by decide) (by decide)
  · exact request_inBounds c (by decide) (by decide)

theorem tcpServerTask_inBounds (mem : Memory) (segs : Segments) :
    InBounds (tcpServerTask mem segs) := by
  apply InBounds.bind (recvLoop_inBounds _ _ (by decide))
  intro x
  dsimp only
  split
  · exact .ok _
  · split
    · apply InBounds.bind (usbipWorker_inBounds _ _)
      intro c
      exact .ok _
    · exact .ok _

/-- The receives of a connection: the requests before the URB phase, and every command that it
comes to. -/
structure ReceivesAlways (mem : Memory) (segs : Segments) (items : List DapItem) : Prop extends
    InBounds (tcpServerTask mem segs) where
  commands : ∀ c, tcpServerTask mem segs = .ok (some c) → ∀ p, Reached (c.urb items) p → Receives p

theorem receivesAlways_iff (mem : Memory) (segs : Segments) (items : List DapItem) :
    ReceivesAlways mem segs items ↔
    ∀ c, tcpServerTask mem segs = .ok (some c) → ∀ p, Reached (c.urb items) p → Fits p := by
  constructor
  · intro h c hc p hp
    exact (h.commands c hc p hp).fits
  · intro h
    refine ⟨tcpServerTask_inBounds mem segs, ?_⟩
    intro c hc p hp
    exact .of_fits (h c hc p hp)

def largeSubmit : List UInt8 :=
  [0, 0, 0, 1, 0, 0, 0, 0, 0, 0, 0, 0, 0, 0, 0, 0, 0, 0, 0, 1, 0, 0, 0, 0, 0, 0, 5, 0xAD] ++
    List.replicate 20 0

/-- An import request and a submit of 1453 bytes, which all arrive. -/
theorem not_receivesAlways_large : ¬ ReceivesAlways (fun _ => 0)
    [[1, 17, 0x80, 3] ++ List.replicate 36 0, largeSubmit, List.replicate 1453 0] [] := by
  have hlength : (List.replicate 1453 (0 : UInt8)).length = 1453 := List.length_replicate
  generalize List.replicate 1453 (0 : UInt8) = data at hlength ⊢
  have hdata : data ≠ [] := List.ne_nil_of_length_pos (by omega)
  have hstream : stream [[1, 17, 0x80, 3] ++ List.replicate 36 0, largeSubmit, data] =
      ([1, 17, 0x80, 3] ++ List.replicate 36 0) ++ (largeSubmit ++ data) := by
    rw [stream_cons _ (by decide), stream_cons _ (by decide), stream_cons _ hdata, stream,
      List.append_nil]
  generalize [[1, 17, 0x80, 3] ++ List.replicate 36 0, largeSubmit, data] = segs at hstream ⊢
  intro h
  obtain ⟨c, -, hsent, hrest, hcommand, -, himport, -⟩ :=
    tcpServerTask_start (fun _ => 0) segs (by rw [hstream]; simp)
  have hlen : 36 ≤ (stream c.segs).length := by
    rw [hrest, hstream]
    simp [largeSubmit]
  have hrequested : requested (stream segs) 0 = 0x8003 := by
    rw [hstream, requested, List.append_assoc, List.getD_append _ _ _ _ (by decide),
      List.getD_append _ _ _ _ (by decide)]
    rfl
  rw [hrequested] at hcommand
  obtain ⟨c', hworker, -, hrest'⟩ := usbipWorker_import hcommand hlen hsent
  have htask := himport hrequested
  rw [hworker] at htask
  have hfits := (h.commands c' htask _ .refl).fits
  have hurb : stream (c'.urb []).segs = largeSubmit ++ data := by
    show stream c'.segs = _
    rw [hrest', hrest, List.drop_drop, hstream]
    rfl
  have hheader : headerOf (largeSubmit ++ data) = headerOf largeSubmit := by
    apply readHeader_congr
    intro i hi
    exact List.getD_append _ _ _ _ hi
  have hannounced : announced (headerOf largeSubmit) = 1453 := by decide
  have hheaderLength : largeSubmit.length = 48 := rfl
  have hbuffer : bufferLength = 1500 := rfl
  rw [Fits, hurb, hheader, hannounced, List.length_append] at hfits
  have hbound := (hfits (by omega)).2
  omega

end WirelessEsp.UsbipStages
