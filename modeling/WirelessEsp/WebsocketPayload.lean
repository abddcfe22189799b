import WirelessEsp.WebsocketHeader

namespace WirelessEsp.WebsocketPayload

open Rfc6455 WebsocketServer WebsocketMask WebsocketHeader LeWords

/-- A header as it was established, with the payload handed on for it so far. -/
structure Received where
  fin : Bool
  opcode : UInt8
  mask : Bool
  payloadLen : Nat
  payload : List UInt8
deriving DecidableEq, Repr

def receive (rs : List Received) : Event → List Received
  | .header fin opcode mask payloadLen => rs ++ [⟨fin, opcode, mask, payloadLen, []⟩]
  | .payload chunk =>
      match rs.getLast? with
      | none => rs
      | some r => rs.dropLast ++ [{ r with payload := r.payload ++ chunk }]
  | _ => rs

/-- The frames a log amounts to. -/
def received (log : List Event) : List Received := log.foldl receive []

def executed (log : List Event) : List (List UInt8) :=
  log.filterMap fun
    | .processBinary data => some data
    | _ => none

def ofFrame (f : Frame) : Received :=
  ⟨f.header.fin, f.header.opcode, f.header.key.isSome, f.header.length, f.payload⟩

def binaryPayloads (fs : List Frame) : List (List UInt8) :=
  (fs.filter (fun f => f.header.opcode == WS_OPCODE_BINARY)).map Frame.payload

def unread (scb : CoSocketCb) : List UInt8 := (pending scb).drop scb.readLen

structure Room (scb : CoSocketCb) : Prop where
  size : scb.buf.length = CONFIG_CO_SOCKET_BUFFER_SIZE
  fits : scb.remainingLen ≤ scb.buf.length

structure HeaderSim (fs : List Frame) (s : Session) : Prop extends Room s.scb where
  progress : HeaderProgress (pending s.scb) s.scb
  log : received s.log = fs.map ofFrame

/-- The session has read the header `h` and handed on the payload bytes `got`. -/
structure PayloadSim (fs : List Frame) (h : Header) (got : List UInt8) (s : Session) : Prop
    extends Room s.scb where
  status : s.scb.status = .websocketPayload
  readLen : s.scb.readLen ≤ s.scb.remainingLen
  opcode : s.scb.wcb.opcode = h.opcode
  mask : s.scb.wcb.mask = h.key.isSome
  payloadLen : s.scb.wcb.payloadLen + got.length = h.length
  key : ∀ k, h.key = some k → ∀ i,
    byteOf s.scb.wcb.maskVal (i % 4) = k.getD ((got.length + i) % 4) 0
  plain : Plain h
  log : received s.log = fs.map ofFrame ++ [ofFrame ⟨h, got⟩]

/-- The position of a session between two calls in the stream it has received. -/
inductive Sim (s : Session) : Decoder → Prop
  | header {fs : List Frame} {seen : List UInt8} (sim : HeaderSim fs s)
      (pending : pending s.scb = seen) (open_ : ¬ Complete seen) : Sim s ⟨fs, .header seen⟩
  | payload {fs : List Frame} {h : Header} {got : List UInt8} (sim : PayloadSim fs h got s)
      (remainingLen : s.scb.remainingLen = 0) (readLen : s.scb.readLen = 0)
      (open_ : got.length < h.length) : Sim s ⟨fs, .payload h got⟩

theorem received_append (log : List Event) (e : Event) :
    received (log ++ [e]) = receive (received log) e := by
  rw [received, List.foldl_append]; rfl

theorem executed_append (log log' : List Event) :
    executed (log ++ log') = executed log ++ executed log' := List.filterMap_append

theorem receive_payload (rs : List Received) (f : Frame) (chunk : List UInt8) :
    receive (rs ++ [ofFrame f]) (.payload chunk) =
      rs ++ [ofFrame { f with payload := f.payload ++ chunk }] := by
  simp only [receive, List.getLast?_append, List.getLast?_singleton, Option.some_or,
    List.dropLast_concat]
  rfl

theorem binaryPayloads_append (fs gs : List Frame) :
    binaryPayloads (fs ++ gs) = binaryPayloads fs ++ binaryPayloads gs := by
  rw [binaryPayloads, List.filter_append, List.map_append]; rfl

theorem isSome_headerKey (bs : List UInt8) :
    (headerKey bs).isSome = maskBit (bs.getD 1 0) := by
  rw [headerKey]
  cases maskBit (bs.getD 1 0) <;> rfl

theorem unmask_eq_xorFrom {k : List UInt8} {w : UInt32} {n : Nat}
    (hk : ∀ i, byteOf w (i % 4) = k.getD ((n + i) % 4) 0) (xs : List UInt8) :
    unmask (some k) n xs = xorFrom w 0 xs := by
  simp only [unmask, xorFrom, Nat.zero_add, hk]

theorem overwrite_length {buf bytes : List UInt8} {i : Nat} (h : i + bytes.length ≤ buf.length) :
    (overwrite buf i bytes).length = buf.length := by
  simp only [overwrite, List.length_append, List.length_take, List.length_drop]
  omega

theorem overwrite_drop {buf bytes : List UInt8} {i : Nat} (h : i ≤ buf.length) :
    (overwrite buf i bytes).drop i = bytes ++ buf.drop (i + bytes.length) := by
  rw [overwrite, List.append_assoc]
  exact List.drop_left' (List.length_take_of_le h)

theorem overwrite_take {buf bytes : List UInt8} {i : Nat} (h : i ≤ buf.length) :
    (overwrite buf i bytes).take (i + bytes.length) = buf.take i ++ bytes := by
  rw [overwrite]
  apply List.take_left'
  rw [List.length_append, List.length_take_of_le h]

theorem sizeSub_eq {a b : Nat} (hb : b ≤ a) (ha : a < 2 ^ 32) : sizeSub a b = a - b := by
  rw [sizeSub]
  omega

theorem unmaskChunk_form (scb : CoSocketCb) :
    ∃ buf maskVal, unmaskChunk scb = scb.withMasked buf maskVal := by
  unfold unmaskChunk
  split
  next => exact ⟨_, _, rfl⟩
  next => exact ⟨scb.buf, scb.wcb.maskVal, rfl⟩

@[simp] theorem unmaskChunk_status (scb : CoSocketCb) :
    (unmaskChunk scb).status = scb.status := by
  obtain ⟨_, _, h⟩ := unmaskChunk_form scb
  rw [h]; rfl

@[simp] theorem unmaskChunk_remainingLen (scb : CoSocketCb) :
    (unmaskChunk scb).remainingLen = scb.remainingLen := by
  obtain ⟨_, _, h⟩ := unmaskChunk_form scb
  rw [h]; rfl

@[simp] theorem unmaskChunk_readLen (scb : CoSocketCb) :
    (unmaskChunk scb).readLen = scb.readLen := by
  obtain ⟨_, _, h⟩ := unmaskChunk_form scb
  rw [h]; rfl

@[simp] theorem unmaskChunk_opcode (scb : CoSocketCb) :
    (unmaskChunk scb).wcb.opcode = scb.wcb.opcode := by
  obtain ⟨_, _, h⟩ := unmaskChunk_form scb
  rw [h]; rfl

@[simp] theorem unmaskChunk_mask (scb : CoSocketCb) :
    (unmaskChunk scb).wcb.mask = scb.wcb.mask := by
  obtain ⟨_, _, h⟩ := unmaskChunk_form scb
  rw [h]; rfl

@[simp] theorem unmaskChunk_payloadLen (scb : CoSocketCb) :
    (unmaskChunk scb).wcb.payloadLen = scb.wcb.payloadLen := by
  obtain ⟨_, _, h⟩ := unmaskChunk_form scb
  rw [h]; rfl

@[simp] theorem withMasked_buf (scb : CoSocketCb) (buf : List UInt8) (maskVal : UInt32) :
    (scb.withMasked buf maskVal).buf = buf := rfl

@[simp] theorem withMasked_maskVal (scb : CoSocketCb) (buf : List UInt8) (maskVal : UInt32) :
    (scb.withMasked buf maskVal).wcb.maskVal = maskVal := rfl

theorem unread_length {scb : CoSocketCb} (hr : Room scb) :
    (unread scb).length = scb.remainingLen - scb.readLen := by
  rw [unread, List.length_drop, pending_length hr.fits]

theorem Room.lt {scb : CoSocketCb} (h : Room scb) : scb.remainingLen < 2 ^ 32 := by
  have hsize := h.size
  rw [CONFIG_CO_SOCKET_BUFFER_SIZE] at hsize
  have := h.fits
  omega

structure Reading (scb : CoSocketCb) : Prop extends Room scb where
  readLen : scb.readLen ≤ scb.remainingLen

/-- The mask stands where the payload octet number `n` needs it. -/
structure Masking (key : Option (List UInt8)) (n : Nat) (scb : CoSocketCb) : Prop where
  mask : scb.wcb.mask = key.isSome
  notPing : scb.wcb.opcode ≠ WS_OPCODE_PING
  key : ∀ k, key = some k → ∀ i, byteOf scb.wcb.maskVal (i % 4) = k.getD ((n + i) % 4) 0

def chunkRest (scb : CoSocketCb) : List UInt8 := (unread scb).drop (chunkLen scb)

section

variable {scb : CoSocketCb} {key : Option (List UInt8)} {n : Nat}

theorem Reading.chunkLen_eq (hr : Reading scb) :
    chunkLen scb = min (unread scb).length scb.wcb.payloadLen := by
  rw [chunkLen, sizeSub_eq hr.readLen hr.lt, unread_length hr.toRoom]

theorem Reading.chunk_eq (hr : Reading scb) :
    scb.chunk = (unread scb).take (chunkLen scb) := by
  have hlen := hr.chunkLen_eq
  rw [unread_length hr.toRoom] at hlen
  rw [CoSocketCb.chunk, unread, pending, List.drop_take, List.take_take, Nat.min_eq_left (by omega)]

theorem Reading.chunk_length (hr : Reading scb) : scb.chunk.length = chunkLen scb := by
  rw [hr.chunk_eq, List.length_take, hr.chunkLen_eq]
  omega

theorem Reading.chunk_fits (hr : Reading scb) :
    scb.readLen + chunkLen scb ≤ scb.buf.length := by
  have hlen := hr.chunkLen_eq
  have hfit := hr.fits
  have hread := hr.readLen
  rw [unread_length hr.toRoom] at hlen
  omega

theorem unmaskChunk_ping (hop : scb.wcb.opcode = WS_OPCODE_PING) : unmaskChunk scb = scb := by
  rw [unmaskChunk, if_neg fun h => h.2 hop]

theorem Masking.unmaskChunk_buf (hm : Masking key n scb) (hr : Reading scb) :
    (unmaskChunk scb).buf.drop scb.readLen =
      unmask key n scb.chunk ++ scb.buf.drop (scb.readLen + chunkLen scb) ∧
    (unmaskChunk scb).buf.length = scb.buf.length := by
  have hfits := hr.chunk_fits
  cases hk : key with
  | none =>
      have hm : ¬ (scb.wcb.mask ∧ scb.wcb.opcode ≠ WS_OPCODE_PING) := by
        rw [hm.mask, hk]; simp
      rw [unmaskChunk, if_neg hm]
      refine ⟨?_, rfl⟩
      rw [unmask, CoSocketCb.chunk, ← List.drop_drop, List.take_append_drop]
  | some k =>
      have hmask : scb.wcb.mask ∧ scb.wcb.opcode ≠ WS_OPCODE_PING := by
        rw [hm.mask, hk]
        exact ⟨rfl, hm.notPing⟩
      have hlen := hr.chunk_length
      rw [unmaskChunk, if_pos hmask, withMasked_buf, coWebsocketFastMask_eq,
        unmask_eq_xorFrom (hm.key k hk)]
      refine ⟨?_, ?_⟩
      · rw [overwrite_drop (by omega), xorFrom_length, hlen]
      · rw [overwrite_length (by rw [xorFrom_length, hlen]; exact hfits)]

theorem Masking.unmaskChunk_data (hm : Masking key n scb) (hr : Reading scb) :
    ((unmaskChunk scb).buf.drop scb.readLen).take (chunkLen scb) = unmask key n scb.chunk := by
  rw [(hm.unmaskChunk_buf hr).1]
  exact List.take_left' (by rw [unmask_length, hr.chunk_length])

theorem Masking.unmaskChunk_rest (hm : Masking key n scb) (hr : Reading scb) :
    (unmaskChunk scb).buf.drop (scb.readLen + chunkLen scb) =
      scb.buf.drop (scb.readLen + chunkLen scb) := by
  rw [← List.drop_drop, (hm.unmaskChunk_buf hr).1]
  exact List.drop_left' (by rw [unmask_length, hr.chunk_length])

theorem Masking.unmaskChunk_key (hm : Masking key n scb) {k : List UInt8} (hk : key = some k)
    (i : Nat) :
    byteOf (unmaskChunk scb).wcb.maskVal (i % 4) = k.getD ((n + chunkLen scb + i) % 4) 0 := by
  have hmask : scb.wcb.mask ∧ scb.wcb.opcode ≠ WS_OPCODE_PING := by
    rw [hm.mask, hk]
    exact ⟨rfl, hm.notPing⟩
  rw [unmaskChunk, if_pos hmask, withMasked_maskVal, byteOf_getNewMask, hm.key k hk, Nat.add_assoc]

theorem Masking.unmaskChunk_room (hm : Masking key n scb) (hr : Reading scb) :
    Room (unmaskChunk scb) := by
  refine ⟨?_, ?_⟩
  · rw [(hm.unmaskChunk_buf hr).2]; exact hr.size
  · rw [(hm.unmaskChunk_buf hr).2, unmaskChunk_remainingLen]; exact hr.fits

theorem Masking.rest_eq (hm : Masking key n scb) (hr : Reading scb) :
    (pending (unmaskChunk scb)).drop ((unmaskChunk scb).readLen + chunkLen scb) =
      chunkRest scb := by
  rw [unmaskChunk_readLen, pending, unmaskChunk_remainingLen, List.drop_take,
    hm.unmaskChunk_rest hr, ← List.drop_take, chunkRest, unread, pending, List.drop_drop]

theorem chunkRest_length (hr : Room scb) :
    (chunkRest scb).length = scb.remainingLen - scb.readLen - chunkLen scb := by
  rw [chunkRest, List.length_drop, unread_length hr]

end

variable {fs : List Frame} {h : Header} {got : List UInt8} {s : Session}

theorem plain_not_ping (hp : Plain h) : h.opcode ≠ WS_OPCODE_PING := by
  rcases hp.opcode with ho | ho <;> rw [ho] <;> decide

theorem PayloadSim.reading (hs : PayloadSim fs h got s) : Reading s.scb := ⟨hs.toRoom, hs.readLen⟩

theorem PayloadSim.masking (hs : PayloadSim fs h got s) : Masking h.key got.length s.scb := by
  refine ⟨hs.mask, ?_, hs.key⟩
  rw [hs.opcode]
  exact plain_not_ping hs.plain

def chunkEvents (opcode : UInt8) (data : List UInt8) : List Event :=
  .payload data :: if opcode = WS_OPCODE_BINARY then [.processBinary data] else []

theorem processOpcode_plain {s : Session} (data : List UInt8)
    (hop : s.scb.wcb.opcode = WS_OPCODE_BINARY ∨ s.scb.wcb.opcode = WS_OPCODE_PONG) :
    processOpcode (s.emit (.payload data)) data =
      (.ok, { s with log := s.log ++ chunkEvents s.scb.wcb.opcode data }) := by
  rcases hop with hop | hop
  · have ht : ¬ (s.emit (.payload data)).scb.wcb.opcode = WS_OPCODE_TEXT := by
      simp only [Session.emit, hop]; decide
    rw [processOpcode, if_neg ht, if_pos (by exact hop), chunkEvents, if_pos hop]
    simp only [Session.emit, List.append_assoc, List.cons_append, List.nil_append]
  · have ht : ¬ (s.emit (.payload data)).scb.wcb.opcode = WS_OPCODE_TEXT := by
      simp only [Session.emit, hop]; decide
    have hb : ¬ s.scb.wcb.opcode = WS_OPCODE_BINARY := by rw [hop]; decide
    have hp : ¬ (s.emit (.payload data)).scb.wcb.opcode = WS_OPCODE_PING := by
      simp only [Session.emit, hop]; decide
    rw [processOpcode, if_neg ht, if_neg (by exact hb), if_neg hp, if_pos (by exact hop),
      chunkEvents, if_neg hb]
    rfl

theorem dispatchChunk_plain {s : Session} {len : Nat} {data : List UInt8}
    (hdata : (s.scb.buf.drop s.scb.readLen).take len = data)
    (hop : s.scb.wcb.opcode = WS_OPCODE_BINARY ∨ s.scb.wcb.opcode = WS_OPCODE_PONG) :
    dispatchChunk s len =
      ((finishChunk s.scb len).1,
        { s with
          scb := (finishChunk s.scb len).2
          log := s.log ++ chunkEvents s.scb.wcb.opcode data }) := by
  rw [dispatchChunk, hdata, processOpcode_plain data hop]

theorem PayloadSim.processPayload_eq (hs : PayloadSim fs h got s) :
    coWebsocketProcessPayload s =
      ((finishChunk (unmaskChunk s.scb) (chunkLen s.scb)).1,
        { s with
          scb := (finishChunk (unmaskChunk s.scb) (chunkLen s.scb)).2
          log := s.log ++ chunkEvents h.opcode (unmask h.key got.length s.scb.chunk) }) := by
  have hop : (unmaskChunk s.scb).wcb.opcode = h.opcode := by rw [unmaskChunk_opcode, hs.opcode]
  have hplain := hs.plain.opcode
  have hdata := hs.masking.unmaskChunk_data hs.reading
  rw [← hop] at hplain ⊢
  rw [← unmaskChunk_readLen] at hdata
  exact dispatchChunk_plain hdata hplain

def chunkData (h : Header) (got : List UInt8) (scb : CoSocketCb) : List UInt8 :=
  unmask h.key got.length scb.chunk

def executedChunk (opcode : UInt8) (data : List UInt8) : List (List UInt8) :=
  if opcode = WS_OPCODE_BINARY then [data] else []

theorem received_chunkEvents {log : List Event} {f : Frame} (opcode : UInt8) (data : List UInt8)
    (hlog : received log = fs.map ofFrame ++ [ofFrame f]) :
    received (log ++ chunkEvents opcode data) =
      fs.map ofFrame ++ [ofFrame { f with payload := f.payload ++ data }] := by
  have hpayload := received_append log (.payload data)
  rw [hlog, receive_payload] at hpayload
  rw [chunkEvents]
  split
  next =>
    rw [List.append_cons, received_append, hpayload]
    rfl
  next => exact hpayload

theorem executed_chunkEvents (log : List Event) (opcode : UInt8) (data : List UInt8) :
    executed (log ++ chunkEvents opcode data) = executed log ++ executedChunk opcode data := by
  rw [executed_append, chunkEvents, executedChunk]
  split <;> rfl

variable {scb : CoSocketCb} {len : Nat}

theorem finishChunk_more (hr : Room scb) (hread : scb.readLen ≤ scb.remainingLen)
    (hmore : scb.readLen + len < scb.remainingLen) :
    ∃ scb', finishChunk scb len = (.ioPending, scb') ∧ Room scb' ∧
      HeaderProgress (pending scb') scb' ∧
      pending scb' = (pending scb).drop (scb.readLen + len) := by
  have hfit := hr.fits
  have hnew : sizeSub scb.remainingLen scb.readLen - len =
      scb.remainingLen - (scb.readLen + len) := by
    rw [sizeSub_eq hread hr.lt]; omega
  have hbytes : ((scb.buf.drop (scb.readLen + len)).take
      (scb.remainingLen - (scb.readLen + len))).length =
      scb.remainingLen - (scb.readLen + len) := by
    rw [List.length_take, List.length_drop]; omega
  rw [finishChunk, hnew, if_pos (by omega)]
  refine ⟨_, rfl, ⟨?_, ?_⟩, .start rfl rfl, ?_⟩
  · rw [overwrite_length (by omega)]; exact hr.size
  · rw [overwrite_length (by omega)]
    exact Nat.le_trans (Nat.sub_le _ _) hfit
  · have htake := @overwrite_take scb.buf ((scb.buf.drop (scb.readLen + len)).take
      (scb.remainingLen - (scb.readLen + len))) 0 (Nat.zero_le scb.buf.length)
    rw [hbytes, Nat.zero_add] at htake
    rw [pending, htake, pending, List.drop_take]
    rfl

theorem finishChunk_part (hr : Room scb) (hread : scb.readLen ≤ scb.remainingLen)
    (hend : scb.remainingLen ≤ scb.readLen + len) (hpart : len < scb.wcb.payloadLen) :
    finishChunk scb len = (.ok, { scb with
      wcb := { scb.wcb with payloadLen := scb.wcb.payloadLen - len }
      readLen := 0
      remainingLen := 0 }) := by
  rw [finishChunk, sizeSub_eq hread hr.lt, if_neg (by omega), if_pos hpart]

theorem finishChunk_full (hr : Room scb) (hread : scb.readLen ≤ scb.remainingLen)
    (hend : scb.remainingLen ≤ scb.readLen + len) (hfull : scb.wcb.payloadLen ≤ len) :
    finishChunk scb len = (.ok, { scb with
      readLen := 0
      remainingLen := 0
      status := .websocketHeader
      wcb := { scb.wcb with payloadLen := 0 } }) := by
  rw [finishChunk, sizeSub_eq hread hr.lt, if_neg (by omega), if_neg (by omega)]

theorem PayloadSim.data_length (hs : PayloadSim fs h got s) :
    (chunkData h got s.scb).length = chunkLen s.scb := by
  rw [chunkData, unmask_length, hs.reading.chunk_length]

theorem PayloadSim.data_fits (hs : PayloadSim fs h got s) :
    (got ++ chunkData h got s.scb).length ≤ h.length := by
  have hlen := hs.reading.chunkLen_eq
  have hpl := hs.payloadLen
  rw [List.length_append, hs.data_length]
  omega

theorem PayloadSim.settle_chunk (hs : PayloadSim fs h got s) :
    (settle fs h got).bytes (unread s.scb) =
      (settle fs h (got ++ chunkData h got s.scb)).bytes (chunkRest s.scb) := by
  have hfits := hs.data_fits
  rw [List.length_append, chunkData, unmask_length] at hfits
  have hsplit := List.take_append_drop (chunkLen s.scb) (unread s.scb)
  rw [← hsplit, bytes_append, ← hs.reading.chunk_eq, settle_bytes hfits]
  rfl

theorem PayloadSim.log_chunk (hs : PayloadSim fs h got s) :
    received (s.log ++ chunkEvents h.opcode (chunkData h got s.scb)) =
      (fs ++ [Frame.mk h (got ++ chunkData h got s.scb)]).map ofFrame := by
  rw [received_chunkEvents _ _ hs.log, List.map_append]
  rfl

def afterChunk (h : Header) (got : List UInt8) (s : Session) (scb : CoSocketCb) : Session :=
  { s with scb := scb, log := s.log ++ chunkEvents h.opcode (chunkData h got s.scb) }

theorem PayloadSim.processPayload_finish (hs : PayloadSim fs h got s) {ret : CoErr}
    {scb' : CoSocketCb} (hf : finishChunk (unmaskChunk s.scb) (chunkLen s.scb) = (ret, scb')) :
    coWebsocketProcessPayload s = (ret, afterChunk h got s scb') := by
  rw [hs.processPayload_eq, hf]
  rfl

theorem PayloadSim.processPayload_more (hs : PayloadSim fs h got s) (hrest : chunkRest s.scb ≠ []) :
    ∃ scb', coWebsocketProcessPayload s = (.ioPending, afterChunk h got s scb') ∧
      HeaderSim (fs ++ [⟨h, got ++ chunkData h got s.scb⟩]) (afterChunk h got s scb') ∧
      pending scb' = chunkRest s.scb ∧
      h.length = (got ++ chunkData h got s.scb).length := by
  have hpos := List.length_pos_iff.mpr hrest
  have hrestlen := chunkRest_length hs.toRoom
  have hlen := hs.reading.chunkLen_eq
  have hpl := hs.payloadLen
  rw [unread_length hs.toRoom] at hlen
  obtain ⟨scb', hf, hroom, hprog, hpend⟩ := @finishChunk_more _ (chunkLen s.scb)
    (hs.masking.unmaskChunk_room hs.reading) (by simpa using hs.readLen)
    (by rw [unmaskChunk_readLen, unmaskChunk_remainingLen]; omega)
  refine ⟨scb', hs.processPayload_finish hf, ⟨hroom, hprog, hs.log_chunk⟩, ?_, ?_⟩
  · rw [hpend, hs.masking.rest_eq hs.reading]
  · rw [List.length_append, hs.data_length]; omega

structure Unmasked (h : Header) (got : List UInt8) (len : Nat) (scb : CoSocketCb) : Prop
    extends Room scb where
  status : scb.status = .websocketPayload
  readLen : scb.readLen ≤ scb.remainingLen
  opcode : scb.wcb.opcode = h.opcode
  mask : scb.wcb.mask = h.key.isSome
  payloadLen : scb.wcb.payloadLen + got.length = h.length
  key : ∀ k, h.key = some k → ∀ i,
    byteOf scb.wcb.maskVal (i % 4) = k.getD ((got.length + len + i) % 4) 0

theorem PayloadSim.unmasked (hs : PayloadSim fs h got s) :
    Unmasked h got (chunkLen s.scb) (unmaskChunk s.scb) := by
  refine ⟨hs.masking.unmaskChunk_room hs.reading, ?_, ?_, ?_, ?_, ?_,
    fun k hk => hs.masking.unmaskChunk_key hk⟩
  · rw [unmaskChunk_status]; exact hs.status
  · rw [unmaskChunk_readLen, unmaskChunk_remainingLen]; exact hs.readLen
  · rw [unmaskChunk_opcode]; exact hs.opcode
  · rw [unmaskChunk_mask]; exact hs.mask
  · rw [unmaskChunk_payloadLen]; exact hs.payloadLen

theorem Unmasked.finish_last (hu : Unmasked h got len scb)
    (hend : scb.remainingLen ≤ scb.readLen + len) {data : List UInt8} (hdata : data.length = len)
    (hfits : (got ++ data).length ≤ h.length) (hplain : Plain h) {s : Session}
    (hlog : received s.log = (fs ++ [Frame.mk h (got ++ data)]).map ofFrame) :
    ∃ scb', finishChunk scb len = (.ok, scb') ∧
      Sim { s with scb := scb' } (settle fs h (got ++ data)) := by
  have hpl := hu.payloadLen
  rw [List.length_append, hdata] at hfits
  by_cases hpart : (got ++ data).length < h.length
  · have hless : len < scb.wcb.payloadLen := by
      rw [List.length_append, hdata] at hpart; omega
    refine ⟨_, finishChunk_part hu.toRoom hu.readLen hend hless, ?_⟩
    rw [settle_part hpart]
    refine .payload ⟨⟨hu.size, Nat.zero_le _⟩, hu.status, Nat.le_refl _, hu.opcode, hu.mask, ?_, ?_,
      hplain, hlog.trans List.map_append⟩ rfl rfl hpart
    · simp only [List.length_append, hdata]
      omega
    · intro k hk i
      rw [List.length_append, hdata]
      exact hu.key k hk i
  · have hfull : h.length = (got ++ data).length := by
      rw [List.length_append, hdata] at hpart ⊢; omega
    rw [List.length_append, hdata] at hfull
    refine ⟨_, finishChunk_full hu.toRoom hu.readLen hend (by omega), ?_⟩
    rw [settle_full (by rw [List.length_append, hdata, hfull])]
    refine .header ⟨⟨hu.size, Nat.zero_le _⟩, .start rfl rfl, hlog⟩ ?_ not_complete_nil
    rw [pending]
    exact List.take_zero

theorem PayloadSim.processPayload_last (hs : PayloadSim fs h got s) (hrest : chunkRest s.scb = []) :
    ∃ scb', coWebsocketProcessPayload s = (.ok, afterChunk h got s scb') ∧
      Sim (afterChunk h got s scb') (settle fs h (got ++ chunkData h got s.scb)) := by
  have hrestlen := chunkRest_length hs.toRoom
  have hend : (unmaskChunk s.scb).remainingLen ≤ (unmaskChunk s.scb).readLen + chunkLen s.scb := by
    rw [hrest, List.length_nil] at hrestlen
    rw [unmaskChunk_readLen, unmaskChunk_remainingLen]
    omega
  obtain ⟨scb', hf, hsim⟩ := hs.unmasked.finish_last hend hs.data_length hs.data_fits hs.plain
    (s := { s with log := s.log ++ chunkEvents h.opcode (chunkData h got s.scb) }) hs.log_chunk
  exact ⟨scb', hs.processPayload_finish hf, hsim⟩

theorem executed_afterChunk (h : Header) (got : List UInt8) (s : Session) (scb : CoSocketCb) :
    executed (afterChunk h got s scb).log =
      executed s.log ++ executedChunk h.opcode (chunkData h got s.scb) :=
  executed_chunkEvents _ _ _

end WirelessEsp.WebsocketPayload
