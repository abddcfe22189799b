import Mathlib.Data.List.Forall2
import WirelessEsp.UsbipReceive
import WirelessEsp.Transports

namespace WirelessEsp.ElaphureLink

open DapTypes DapProbe DapCommand Transports UsbipHeader UsbipServer UsbipReceive

variable {σ : Type} (t : Target) (L : Link σ)

def EL_COMMAND_HANDSHAKE : UInt32 := 0

def EL_DAP_VERSION : UInt32 := 1

structure ElResponseHandshake where
  elLinkIdentifier : UInt32
  command : UInt32
  elDapVersion : UInt32

/-- What is sent for a handshake; `none` for a request that is not one. -/
def elHandshakeProcess (mem : Memory) (len : Nat) : Option ElResponseHandshake :=
  if len ≠ 12 then none
  else if ntohl (word mem 0) ≠ EL_LINK_IDENTIFIER then none
  else if ntohl (word mem 4) ≠ EL_COMMAND_HANDSHAKE then none
  else some ⟨ntohl EL_LINK_IDENTIFIER, ntohl EL_COMMAND_HANDSHAKE, ntohl EL_DAP_VERSION⟩

/-- One call of `el_dap_data_process`: the receive buffer, the number of bytes received, and what
is sent. -/
structure Execution where
  buffer : Memory
  len : Nat
  response : List UInt8

/-- The loop of the data phase: each result of `recv` is taken as one command. -/
def dataPhase (mem : Memory) (segs : Segments) (buf : Buffer) (s : State σ) : List Execution :=
  match _h : recv bufferLength segs with
  | none => []
  | some (xs, segs') =>
      let mem := store mem 0 xs
      let (res, buf, s) := dapExecuteCommand t L mem buf s
      ⟨mem, xs.length, sent buf res⟩ :: dataPhase mem segs' buf s
termination_by (stream segs).length
decreasing_by
  have hlen := recv_length (by decide) _h
  rw [recv_some _h, List.length_append]
  omega

/-- `el_dap_work`, with the identifier in the buffer; `none` when there is no handshake. -/
def elDapWork (mem : Memory) (segs : Segments) (buf : Buffer) (s : State σ) :
    Except Halt (Option (ElResponseHandshake × List Execution)) := do
  let (mem, segs) ← recvLoop 4 8 mem segs
  match elHandshakeProcess mem 12 with
  | none => pure none
  | some res => pure (some (res, dataPhase t L mem segs buf s))

structure Delivery where
  chunks : List (List UInt8)
  some_chunk : chunks ≠ []
  filled : ∀ c ∈ chunks, c ≠ []

def Delivery.packet (d : Delivery) : List UInt8 := d.chunks.flatten

/-- A lock-step client: what follows the identifier of its handshake, and its packets. Nothing of
a packet is sent before the packet in front of it has been received. -/
structure Client where
  handshake : List (List UInt8)
  filled : ∀ c ∈ handshake, c ≠ []
  complete : handshake.flatten.length = 8
  command : handshake.flatten.take 4 = [0, 0, 0, 0]
  packets : List Delivery

def Client.segments (c : Client) : Segments := c.handshake ++ c.packets.flatMap Delivery.chunks

def Holds (packet : List UInt8) (e : Execution) : Prop :=
  ∀ i (h : i < packet.length), e.buffer i = packet[i]

/-- One execution and one response for each packet, in order. -/
def Served (c : Client) (x : Except Halt (Option (ElResponseHandshake × List Execution))) : Prop :=
  ∃ res log, x = .ok (some (res, log)) ∧
    List.Forall₂ Holds (c.packets.map Delivery.packet) log

theorem recv_chunk {sz : Nat} {c : List UInt8} (segs : Segments) (hc : c ≠ []) (h : c.length ≤ sz) :
    recv sz (c :: segs) = some (c, segs) := by
  cases c with
  | nil => exact absurd rfl hc
  | cons x xs => exact if_pos h

theorem recv_cut {sz : Nat} {c : List UInt8} (segs : Segments) (hc : c ≠ []) (h : sz < c.length) :
    recv sz (c :: segs) = some (c.take sz, c.drop sz :: segs) := by
  cases c with
  | nil => exact absurd rfl hc
  | cons x xs => exact if_neg (Nat.not_le.mpr h)

theorem recvLoop_chunks {off sz : Nat} (mem : Memory) {chunks : List (List UInt8)} (rest : Segments)
    (hfilled : ∀ c ∈ chunks, c ≠ []) (hlen : chunks.flatten.length = sz)
    (hfit : off + sz ≤ bufferLength) :
    recvLoop off sz mem (chunks ++ rest) = .ok (store mem off chunks.flatten, rest) := by
  induction chunks generalizing off sz mem with
  | nil =>
      rw [recvLoop, dif_pos (by simpa using hlen.symm)]
      rw [List.flatten_nil, store_nil]
      rfl
  | cons c chunks ih =>
      have hc := hfilled c (List.mem_cons_self ..)
      have hpos : 0 < c.length := List.length_pos_iff.mpr hc
      rw [List.flatten_cons, List.length_append] at hlen
      rw [recvLoop, dif_neg (by omega), List.cons_append]
      have hrecv := @recv_chunk sz c (chunks ++ rest) hc (by omega)
      split
      next h =>
        rw [hrecv] at h
        cases h
      next xs segs' h =>
        rw [hrecv] at h
        cases h
        rw [if_neg (by omega), ih (store mem off c) (fun x hx => hfilled x (List.mem_cons_of_mem c hx))
          (by omega) (by omega), store_store, List.flatten_cons]

theorem dataPhase_some (mem : Memory) {segs segs' : Segments} {xs : List UInt8}
    (h : recv bufferLength segs = some (xs, segs')) (buf : Buffer) (s : State σ) :
    ∃ response buf' s', dataPhase t L mem segs buf s =
      ⟨store mem 0 xs, xs.length, response⟩ :: dataPhase t L (store mem 0 xs) segs' buf' s' := by
  rw [dataPhase]
  split
  next hnone =>
    rw [hnone] at h
    cases h
  next ys segs'' hsome =>
    rw [hsome] at h
    cases h
    exact ⟨_, _, _, rfl⟩

theorem dataPhase_length (n : Nat) {segs : Segments} (hn : (stream segs).length ≤ n)
    (hfilled : ∀ c ∈ segs, c ≠ []) (mem : Memory) (buf : Buffer) (s : State σ) :
    segs.length ≤ (dataPhase t L mem segs buf s).length ∧
    ((dataPhase t L mem segs buf s).length = segs.length → ∀ c ∈ segs, c.length ≤ bufferLength) := by
  induction n generalizing segs mem buf s with
  | zero =>
      cases segs with
      | nil =>
          refine ⟨Nat.zero_le _, ?_⟩
          intro _ c hc
          cases hc
      | cons c segs =>
          have hc := hfilled c (List.mem_cons_self ..)
          have hpos : 0 < c.length := List.length_pos_iff.mpr hc
          rw [stream_cons segs hc, List.length_append] at hn
          omega
  | succ n ih =>
      cases segs with
      | nil =>
          refine ⟨Nat.zero_le _, ?_⟩
          intro _ c hc
          cases hc
      | cons c segs =>
          have hc := hfilled c (List.mem_cons_self ..)
          have hrest : ∀ x ∈ segs, x ≠ [] := fun x hx => hfilled x (List.mem_cons_of_mem c hx)
          have hpos : 0 < c.length := List.length_pos_iff.mpr hc
          rw [stream_cons segs hc, List.length_append] at hn
          by_cases hle : c.length ≤ bufferLength
          · obtain ⟨response, buf', s', hphase⟩ :=
              dataPhase_some t L mem (recv_chunk segs hc hle) buf s
            obtain ⟨hcount, hshort⟩ := ih (by omega) hrest (store mem 0 c) buf' s'
            rw [hphase, List.length_cons, List.length_cons]
            refine ⟨Nat.succ_le_succ hcount, ?_⟩
            intro heq x hx
            rcases List.mem_cons.mp hx with rfl | hx
            · exact hle
            · exact hshort (Nat.succ.inj heq) x hx
          · obtain ⟨response, buf', s', hphase⟩ :=
              dataPhase_some t L mem (recv_cut segs hc (Nat.lt_of_not_le hle)) buf s
            have hdrop : c.drop bufferLength ≠ [] := by
              intro hnil
              exact hle (List.drop_eq_nil_iff.mp hnil)
            have hfilled' : ∀ x ∈ c.drop bufferLength :: segs, x ≠ [] := by
              intro x hx
              rcases List.mem_cons.mp hx with rfl | hx
              · exact hdrop
              · exact hrest x hx
            have hsize : (stream (c.drop bufferLength :: segs)).length ≤ n := by
              rw [stream_cons segs hdrop, List.length_append, List.length_drop]
              have hbuffer : bufferLength = 1500 := rfl
              omega
            obtain ⟨hcount, -⟩ := ih hsize hfilled' (store mem 0 (c.take bufferLength)) buf' s'
            rw [hphase, List.length_cons, List.length_cons]
            rw [List.length_cons] at hcount
            refine ⟨Nat.le_succ_of_le hcount, ?_⟩
            intro heq
            omega

theorem dataPhase_served {ds : List Delivery}
    (hsingle : ∀ d ∈ ds, d.chunks.length = 1 ∧ d.packet.length ≤ bufferLength) (mem : Memory)
    (buf : Buffer) (s : State σ) : List.Forall₂ Holds (ds.map Delivery.packet)
      (dataPhase t L mem (ds.flatMap Delivery.chunks) buf s) := by
  induction ds generalizing mem buf s with
  | nil =>
      rw [dataPhase]
      exact .nil
  | cons d ds ih =>
      obtain ⟨hone, hlen⟩ := hsingle d (List.mem_cons_self ..)
      obtain ⟨piece, hpiece⟩ := List.length_eq_one_iff.mp hone
      have hpacket : d.packet = piece := by
        rw [Delivery.packet, hpiece]
        exact List.append_nil piece
      have hfilled : piece ≠ [] := d.filled piece (by rw [hpiece]; exact List.mem_singleton.mpr rfl)
      rw [hpacket] at hlen
      obtain ⟨response, buf', s', hphase⟩ := dataPhase_some t L mem
        (recv_chunk (ds.flatMap Delivery.chunks) hfilled hlen) buf s
      rw [List.map_cons, List.flatMap_cons, hpiece, List.singleton_append, hphase, hpacket]
      refine .cons ?_ (ih (fun x hx => hsingle x (List.mem_cons_of_mem d hx)) _ buf' s')
      intro i hi
      show store mem 0 piece i = piece[i]
      rw [store, if_pos (by omega), Nat.sub_zero, List.getD_eq_getElem?_getD,
        List.getElem?_eq_getElem hi]
      rfl

theorem flatMap_length_ge (ds : List Delivery) :
    ds.length ≤ (ds.flatMap Delivery.chunks).length ∧
    ((ds.flatMap Delivery.chunks).length = ds.length → ∀ d ∈ ds, d.chunks.length = 1) := by
  induction ds with
  | nil =>
      refine ⟨Nat.le_refl _, ?_⟩
      intro _ d hd
      cases hd
  | cons d ds ih =>
      have hpos : 0 < d.chunks.length := List.length_pos_iff.mpr d.some_chunk
      rw [List.flatMap_cons, List.length_append, List.length_cons]
      refine ⟨by omega, ?_⟩
      intro heq x hx
      rcases List.mem_cons.mp hx with rfl | hx
      · omega
      · exact ih.2 (by omega) x hx

/-- The four bytes that `tcp_server_task` has read. -/
def identifier : List UInt8 := [0x8a, 0x65, 0x6c, 0x70]

theorem elHandshakeProcess_client (mem : Memory) (c : Client) : ∃ res,
    elHandshakeProcess (store (store mem 0 identifier) 4 c.handshake.flatten) 12 = some res := by
  have hlen : identifier.length = 4 := rfl
  have hid : word (store (store mem 0 identifier) 4 c.handshake.flatten) 0 =
      LeWords.ofBytes 0x8a 0x65 0x6c 0x70 := by
    have hbyte : ∀ i < 4, store (store mem 0 identifier) 4 c.handshake.flatten i =
        identifier.getD i 0 := by
      intro i hi
      rw [store, if_neg (by omega), store, if_pos (by omega), Nat.sub_zero]
    rw [word, hbyte 0 (by omega), hbyte 1 (by omega), hbyte 2 (by omega), hbyte 3 (by omega)]
    rfl
  have hcommand : word (store (store mem 0 identifier) 4 c.handshake.flatten) 4 =
      LeWords.ofBytes 0 0 0 0 := by
    have hbyte : ∀ i < 4, store (store mem 0 identifier) 4 c.handshake.flatten (4 + i) = 0 := by
      intro i hi
      have hcomplete := c.complete
      have htake : c.handshake.flatten[i]? = ([0, 0, 0, 0] : List UInt8)[i]? := by
        rw [← c.command, List.getElem?_take_of_lt hi]
      rw [store, if_pos (by omega), Nat.add_sub_cancel_left, List.getD_eq_getElem?_getD, htake]
      interval_cases i <;> rfl
    rw [word, hbyte 0 (by omega), hbyte 1 (by omega), hbyte 2 (by omega), hbyte 3 (by omega)]
  refine ⟨⟨ntohl EL_LINK_IDENTIFIER, ntohl EL_COMMAND_HANDSHAKE, ntohl EL_DAP_VERSION⟩, ?_⟩
  rw [elHandshakeProcess, if_neg (not_not.mpr rfl), hid, if_neg (by decide), hcommand,
    if_neg (by decide)]

theorem elDapWork_client (mem : Memory) (c : Client) (buf : Buffer) (s : State σ) : ∃ res mem',
    elDapWork t L (store mem 0 identifier) c.segments buf s =
      .ok (some (res, dataPhase t L mem' (c.packets.flatMap Delivery.chunks) buf s)) := by
  obtain ⟨res, hprocess⟩ := elHandshakeProcess_client mem c
  refine ⟨res, store (store mem 0 identifier) 4 c.handshake.flatten, ?_⟩
  rw [elDapWork, Client.segments,
    recvLoop_chunks _ _ c.filled c.complete (show 4 + 8 ≤ bufferLength by decide)]
  simp only [bind, Except.bind, hprocess]
  rfl

/-- A lock-step client is served if and only if each packet comes in one piece that fits the
buffer. -/
theorem served_iff (mem : Memory) (c : Client) (buf : Buffer) (s : State σ) :
    Served c (elDapWork t L (store mem 0 identifier) c.segments buf s) ↔
    ∀ d ∈ c.packets, d.chunks.length = 1 ∧ d.packet.length ≤ bufferLength := by
  obtain ⟨res, mem', hwork⟩ := elDapWork_client t L mem c buf s
  rw [hwork]
  constructor
  · rintro ⟨_, log, hlog, hholds⟩
    cases hlog
    have hfilled : ∀ x ∈ c.packets.flatMap Delivery.chunks, x ≠ [] := by
      intro x hx
      obtain ⟨d, -, hd⟩ := List.mem_flatMap.mp hx
      exact d.filled x hd
    obtain ⟨hmore, hshort⟩ := dataPhase_length t L _ (Nat.le_refl _) hfilled mem' buf s
    obtain ⟨hchunks, hone⟩ := flatMap_length_ge c.packets
    have hcount := hholds.length_eq
    rw [List.length_map] at hcount
    intro d hd
    have hsingle := hone (by omega) d hd
    obtain ⟨x, hx⟩ := List.length_eq_one_iff.mp hsingle
    have hmem : x ∈ c.packets.flatMap Delivery.chunks :=
      List.mem_flatMap.mpr ⟨d, hd, by rw [hx]; exact List.mem_singleton.mpr rfl⟩
    refine ⟨hsingle, ?_⟩
    rw [Delivery.packet, hx, List.flatten_cons, List.flatten_nil, List.append_nil]
    exact hshort (by omega) x hmem
  · intro hsingle
    exact ⟨res, _, rfl, dataPhase_served t L hsingle mem' buf s⟩

def splitClient : Client where
  handshake := [[0, 0, 0, 0, 0, 0, 0, 1]]
  filled := by decide
  complete := rfl
  command := rfl
  packets := [⟨[[0x00], [0xF0]], by decide, by decide⟩]

theorem not_served_split : ¬ Served splitClient
    (elDapWork .esp32 idleLink (store (fun _ => 0) 0 identifier) splitClient.segments (fun _ => 0)
      ⟨dapSetup .esp32, .gpioNormal, ()⟩) := by
  obtain ⟨res, mem', hwork⟩ := elDapWork_client .esp32 idleLink (fun _ => 0) splitClient
    (fun _ => 0) ⟨dapSetup .esp32, .gpioNormal, ()⟩
  rw [hwork]
  rintro ⟨_, log, hlog, hholds⟩
  cases hlog
  have hcount := hholds.length_eq
  obtain ⟨hmore, -⟩ := dataPhase_length .esp32 idleLink _ (Nat.le_refl _)
    (show ∀ x ∈ splitClient.packets.flatMap Delivery.chunks, x ≠ [] by decide) mem' (fun _ => 0)
    ⟨dapSetup .esp32, .gpioNormal, ()⟩
  have hone : (splitClient.packets.map Delivery.packet).length = 1 := rfl
  have htwo : (splitClient.packets.flatMap Delivery.chunks).length = 2 := rfl
  omega

end WirelessEsp.ElaphureLink
