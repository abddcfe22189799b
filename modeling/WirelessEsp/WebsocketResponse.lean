import WirelessEsp.MemoryBlock
import WirelessEsp.WebsocketHeader

namespace WirelessEsp.WebsocketResponse

open WebsocketServer WebsocketHeader MemoryBlock

def CO_RES_SUCCESS : Nat := 0

def coWebsocketGetResPayloadOffset (payloadLen : Nat) : Nat :=
  2 + if payloadLen ≥ 126 then 2 else 0

def storeExtendedLength (block : List UInt8) (p : Nat) (payloadLength : UInt16) :
    Option (List UInt8) :=
  if payloadLength ≥ 126 then
    store block p [(payloadLength >>> 8).toUInt8, payloadLength.toUInt8]
  else some block

/-- The bytes handed to `send`. The frame buffer begins at position `p` of a block; an access
outside of the block is `none`. -/
def coWebsocketSendFrame (block : List UInt8) (p payloadLen : Nat) (frameType : UInt8) :
    Option (List UInt8) := do
  let payloadLength := UInt16.ofNat payloadLen
  let sz := coWebsocketGetResPayloadOffset payloadLen + payloadLen
  let block ← store block p [WS_FIN ||| frameType]
  let block ← store block (p + 1) [if payloadLength ≥ 126 then 126 else payloadLength.toUInt8]
  let block ← storeExtendedLength block (p + 2) payloadLength
  fetch block p sz

/-- `dapExecuteCommand` takes a request and the memory behind the place for its response; it
returns its value and what it leaves there. -/
def coWebsocketProcessDap (dapExecuteCommand : List UInt8 → List UInt8 → UInt32 × List UInt8)
    (wsProcessBuffer data : List UInt8) : Option (List UInt8) :=
  let maxOffset := coWebsocketGetResPayloadOffset 1500
  let (res, response) := dapExecuteCommand data (wsProcessBuffer.drop maxOffset)
  let res := (res &&& 0xFFFF).toNat
  let offset := coWebsocketGetResPayloadOffset res
  coWebsocketSendFrame (wsProcessBuffer.take maxOffset ++ response) (maxOffset - offset) res
    WS_OPCODE_BINARY

def text (s : String) : List UInt8 := s.toList.map fun c => UInt8.ofNat c.toNat

def decimal (n : Nat) : List UInt8 := (Nat.toDigits 10 n).map fun c => UInt8.ofNat c.toNat

def formatted (code : Nat) (msg : List UInt8) : List UInt8 :=
  if code = CO_RES_SUCCESS then
    text "code=" ++ decimal code ++ text "&data=\"" ++ msg ++ text "\""
  else text "code=" ++ decimal code ++ text "&data=\"msg=" ++ msg ++ text "\""

/-- Writes no more than `size` characters, the end of the string included. -/
def snprintf (block : List UInt8) (p size : Nat) (chars : List UInt8) : Option (List UInt8) :=
  if size = 0 then some block else store block p (chars.take (size - 1) ++ [0])

/-- The frames that are sent. `malloc` returns a block of the size it is asked for. -/
def coWebsocketSendMsgWithCode (malloc : Nat → Option (List UInt8)) (code : Nat)
    (msg : List UInt8) : Option (List (List UInt8)) :=
  let len := msg.length
  let offset := coWebsocketGetResPayloadOffset len
  match malloc (offset + len + 25) with
  | none => some []
  | some buffer => do
      let buffer ← snprintf buffer offset (len + 24) (formatted code msg)
      let sent ← coWebsocketSendFrame buffer 0 (formatted code msg).length WS_OPCODE_TEXT
      pure [sent]

/-- The types a frame can have. -/
def frameTypes : List UInt8 :=
  [WS_OPCODE_CONTINUATION, WS_OPCODE_TEXT, WS_OPCODE_BINARY, WS_OPCODE_CLOSE, WS_OPCODE_PING,
    WS_OPCODE_PONG]

/-- A parser that is about to read the bytes `sent`, of which it has received `n` at least. A
continuation comes after no other frame. -/
structure Reads (scb : CoSocketCb) (sent : List UInt8) (frameType : UInt8) (n : Nat) : Prop where
  status : scb.status = .websocketHeader
  fits : scb.remainingLen ≤ scb.buf.length
  received : pending scb <+: sent
  enough : n ≤ scb.remainingLen
  first : frameType = WS_OPCODE_CONTINUATION → scb.wcb.opcode = WS_OPCODE_CONTINUATION

/-- A header as the parser leaves it, with its payload where the parser stopped. -/
structure Parsed (scb : CoSocketCb) (sent : List UInt8) (frameType : UInt8)
    (payload : List UInt8) : Prop where
  status : scb.status = .websocketPayload
  fin : scb.wcb.fin = true
  opcode : scb.wcb.opcode = frameType
  mask : scb.wcb.mask = false
  payloadLen : scb.wcb.payloadLen = payload.length
  readLen : scb.readLen = coWebsocketGetResPayloadOffset payload.length
  payload : sent.drop scb.readLen = payload

def frameHeader (frameType : UInt8) (n : Nat) : List UInt8 :=
  if n ≥ 126 then [WS_FIN ||| frameType, 126, UInt8.ofNat (n / 256), UInt8.ofNat n]
  else [WS_FIN ||| frameType, UInt8.ofNat n]

/-- These bytes are one unmasked frame with this payload and nothing behind it, and whatever parser
reads them finds that frame. -/
structure DecodesTo (sent : List UInt8) (frameType : UInt8) (payload : List UInt8) : Prop where
  bytes : sent = frameHeader frameType payload.length ++ payload
  decodes : ∀ scb, Reads scb sent frameType (coWebsocketGetResPayloadOffset payload.length) →
    ∃ scb', coWebsocketProcessHeader scb = (.ok, scb') ∧ Parsed scb' sent frameType payload

theorem frameHeader_length (frameType : UInt8) (n : Nat) :
    (frameHeader frameType n).length = coWebsocketGetResPayloadOffset n := by
  rw [frameHeader, coWebsocketGetResPayloadOffset]
  split <;> rfl

theorem ofNat16_ge {n : Nat} (hn : n ≤ 65535) : UInt16.ofNat n ≥ 126 ↔ 126 ≤ n := by
  rw [ge_iff_le, UInt16.le_iff_toNat_le, UInt16.toNat_ofNat_of_lt' (by simp [UInt16.size]; omega)]
  rfl

theorem toUInt8_ofNat16 (n : Nat) : (UInt16.ofNat n).toUInt8 = UInt8.ofNat n := by
  rw [← UInt8.toNat_inj]
  simp only [UInt16.toNat_toUInt8, UInt16.toNat_ofNat', UInt8.toNat_ofNat']
  omega

theorem shifted_ofNat16 {n : Nat} (hn : n ≤ 65535) :
    (UInt16.ofNat n >>> 8).toUInt8 = UInt8.ofNat (n / 256) := by
  rw [← UInt8.toNat_inj]
  simp only [UInt16.toNat_toUInt8, UInt16.toNat_shiftRight, UInt16.toNat_ofNat',
    UInt8.toNat_ofNat', Nat.shiftRight_eq_div_pow]
  change n % 65536 / 2 ^ 8 % 256 = n / 256 % 256
  omega

theorem sendFrame_append {pre old payload post : List UInt8} (frameType : UInt8)
    (hold : old.length = coWebsocketGetResPayloadOffset payload.length)
    (hn : payload.length ≤ 65535) :
    coWebsocketSendFrame (pre ++ old ++ payload ++ post) pre.length payload.length frameType =
      some (frameHeader frameType payload.length ++ payload) := by
  have hge := ofNat16_ge hn
  have hsz : coWebsocketGetResPayloadOffset payload.length + payload.length =
      (frameHeader frameType payload.length ++ payload).length := by
    rw [List.length_append, frameHeader_length]
  rw [coWebsocketSendFrame, hsz]
  rw [coWebsocketGetResPayloadOffset] at hold
  by_cases hlong : 126 ≤ payload.length
  · rw [if_pos hlong] at hold
    obtain ⟨a, b, c, d, rfl⟩ : ∃ a b c d, old = [a, b, c, d] := by
      match old, hold with
      | [a, b, c, d], _ => exact ⟨a, b, c, d, rfl⟩
    have h1 := @store_segment _ (pre ++ [a, b, c, d] ++ payload ++ post) pre [a]
      ([b, c, d] ++ payload ++ post) [WS_FIN ||| frameType] pre.length (by simp) rfl rfl
    have h2 := @store_segment _ _ (pre ++ [WS_FIN ||| frameType]) [b] ([c, d] ++ payload ++ post)
      [126] (pre.length + 1) rfl (by simp) rfl
    have h3 := @store_segment _ _ (pre ++ [WS_FIN ||| frameType, 126]) [c, d] (payload ++ post)
      [UInt8.ofNat (payload.length / 256), UInt8.ofNat payload.length] (pre.length + 2) rfl
      (by simp) rfl
    have hsent := @fetch_segment _ _ pre post (frameHeader frameType payload.length ++ payload)
      pre.length _ rfl rfl rfl
    simp only [storeExtendedLength, if_pos (hge.mpr hlong), shifted_ofNat16 hn, toUInt8_ofNat16]
    rw [frameHeader, if_pos hlong] at hsent ⊢
    simp only [Option.bind_eq_bind, List.append_assoc, List.cons_append, List.nil_append]
      at h1 h2 h3 hsent ⊢
    rw [h1, Option.bind_some, h2, Option.bind_some, h3, Option.bind_some, hsent]
  · rw [if_neg hlong] at hold
    obtain ⟨a, b, rfl⟩ : ∃ a b, old = [a, b] := by
      match old, hold with
      | [a, b], _ => exact ⟨a, b, rfl⟩
    have h1 := @store_segment _ (pre ++ [a, b] ++ payload ++ post) pre [a]
      ([b] ++ payload ++ post) [WS_FIN ||| frameType] pre.length (by simp) rfl rfl
    have h2 := @store_segment _ _ (pre ++ [WS_FIN ||| frameType]) [b] (payload ++ post)
      [UInt8.ofNat payload.length] (pre.length + 1) rfl (by simp) rfl
    have hsent := @fetch_segment _ _ pre post (frameHeader frameType payload.length ++ payload)
      pre.length _ rfl rfl rfl
    simp only [storeExtendedLength, if_neg (mt hge.mp hlong), toUInt8_ofNat16]
    rw [frameHeader, if_neg hlong] at hsent ⊢
    simp only [Option.bind_eq_bind, List.append_assoc, List.cons_append, List.nil_append]
      at h1 h2 hsent ⊢
    rw [h1, Option.bind_some, h2, Option.bind_some, Option.bind_some, hsent]

variable {scb : CoSocketCb} {sent payload : List UInt8} {frameType : UInt8} {n : Nat}

theorem Reads.data (h : Reads scb sent frameType n) {i : Nat} (hi : i < n) :
    scb.data i = sent.getD i 0 := by
  obtain ⟨later, hlater⟩ := h.received
  have hlen : i < (pending scb).length := by
    rw [pending_length h.fits]
    exact Nat.lt_of_lt_of_le hi h.enough
  rw [data_pending hlen, ← hlater, Rfc6455.getD_append_left later hlen]

theorem first_byte : ∀ frameType ∈ frameTypes,
    (WS_FIN ||| frameType) &&& 0x70 = 0 ∧ (WS_FIN ||| frameType) &&& 0x0f = frameType ∧
      ((WS_FIN ||| frameType) &&& WS_FIN == WS_FIN) = true := by decide +kernel

theorem second_byte : ∀ m < 127, (UInt8.ofNat m &&& 0x7f).toNat = m ∧
    (UInt8.ofNat m &&& WS_MASK == WS_MASK) = false := by decide +kernel

theorem Reads.frameOpcode (h : Reads scb sent frameType n) (ht : frameType ∈ frameTypes)
    (h0 : scb.data 0 = WS_FIN ||| frameType) : frameOpcode scb = some frameType := by
  rw [WebsocketServer.frameOpcode, h0, (first_byte frameType ht).2.1]
  by_cases hcont : frameType = WS_OPCODE_CONTINUATION
  · rw [if_pos hcont, h.first hcont, hcont]
  · rw [if_neg hcont]
    simp only [frameTypes, List.mem_cons, List.not_mem_nil, or_false, hcont, false_or] at ht
    rcases ht with rfl | rfl | rfl | rfl | rfl <;> rfl

def begun (scb : CoSocketCb) (frameType : UInt8) (m : Nat) : CoSocketCb :=
  { scb with
    status := if m = 126 then .websocketExtendLength else .websocketHeader
    readLen := 2
    wcb := { scb.wcb with fin := true, opcode := frameType, mask := false, payloadLen := m } }

theorem Reads.readHeader {m : Nat} (h : Reads scb sent frameType n) (ht : frameType ∈ frameTypes)
    (hn : 2 ≤ n) (hm : m ≤ 126) (h0 : scb.data 0 = WS_FIN ||| frameType)
    (h1 : scb.data 1 = UInt8.ofNat m) :
    readHeader scb = .ok (begun scb frameType m) := by
  obtain ⟨hrsv, -, hfin⟩ := first_byte frameType ht
  obtain ⟨hlen, hmask⟩ := second_byte m (by omega)
  have hrem : ¬ scb.remainingLen < 2 := by
    have henough := h.enough
    omega
  have hplain : ¬ (scb.data 0 &&& 0x70 != 0) = true := by
    rw [bne_iff_ne, not_not, h0]
    exact hrsv
  have h127 : m ≠ 127 := by omega
  rw [WebsocketServer.readHeader, if_pos h.status, if_neg hrem, if_neg hplain, h.frameOpcode ht h0]
  simp only [storeHeader, begun, h0, h1, hlen, hmask, hfin, h.status, h127, or_false,
    Bool.false_eq_true, if_false]

theorem readRest_short {m : Nat} (hm : m ≠ 126) :
    readRest (begun scb frameType m) =
      (.ok, { begun scb frameType m with status := .websocketPayload }) := by
  have hs : (begun scb frameType m).status = .websocketHeader := if_neg hm
  rw [readRest, readExtendLength_skip (by rw [hs]; simp)]
  exact if_neg (by rw [hs]; simp)

theorem readRest_long (hrem : 4 ≤ scb.remainingLen) :
    readRest (begun scb frameType 126) =
      (.ok, storeLength (begun scb frameType 126) 4 (extendedLength16 scb)) := by
  have hs : (begun scb frameType 126).status = .websocketExtendLength := rfl
  have hpl : (begun scb frameType 126).wcb.payloadLen = 126 := rfl
  have hshort : ¬ (begun scb frameType 126).remainingLen < (begun scb frameType 126).readLen + 2 :=
    Nat.not_lt.mpr hrem
  rw [readRest, readExtendLength, if_pos hs, if_pos hpl, if_neg hshort]
  rfl

theorem extendedLength16_ofNat (hn : n ≤ 65535) (h2 : scb.data 2 = UInt8.ofNat (n / 256))
    (h3 : scb.data 3 = UInt8.ofNat n) : extendedLength16 scb = n := by
  have hlow : (UInt8.ofNat n).toNat < 2 ^ 8 := (UInt8.ofNat n).toNat_lt
  rw [extendedLength16, h2, h3, Nat.or_comm, or_shiftLeft hlow]
  simp only [UInt8.toNat_ofNat']
  omega

theorem decodesTo_frame (ht : frameType ∈ frameTypes) (hn : payload.length ≤ 65535) :
    DecodesTo (frameHeader frameType payload.length ++ payload) frameType payload := by
  refine ⟨rfl, ?_⟩
  intro scb h
  have hlength := frameHeader_length frameType payload.length
  have hdrop : (frameHeader frameType payload.length ++ payload).drop
      (coWebsocketGetResPayloadOffset payload.length) = payload := List.drop_left' hlength
  have hdata := fun i => @Reads.data _ _ _ _ h i
  have henough := h.enough
  by_cases hlong : 126 ≤ payload.length
  · have hoff : coWebsocketGetResPayloadOffset payload.length = 4 := by
      rw [coWebsocketGetResPayloadOffset, if_pos hlong]
    rw [hoff] at hdata henough hdrop
    simp only [frameHeader, if_pos hlong] at hdata
    have hhead := h.readHeader ht (by omega) (Nat.le_refl 126) (hdata 0 (by omega))
      (hdata 1 (by omega))
    have hext := extendedLength16_ofNat hn (hdata 2 (by omega)) (hdata 3 (by omega))
    refine ⟨_, (coWebsocketProcessHeader_ok hhead).trans (readRest_long henough), ?_⟩
    rw [hext]
    exact ⟨rfl, rfl, rfl, rfl, Nat.mod_eq_of_lt (by omega), hoff.symm, hdrop⟩
  · have hoff : coWebsocketGetResPayloadOffset payload.length = 2 := by
      rw [coWebsocketGetResPayloadOffset, if_neg hlong]
    rw [hoff] at hdata hdrop
    simp only [frameHeader, if_neg hlong] at hdata
    have hhead := h.readHeader ht (by omega) (show payload.length ≤ 126 by omega)
      (hdata 0 (by omega)) (hdata 1 (by omega))
    refine ⟨_, (coWebsocketProcessHeader_ok hhead).trans (readRest_short (by omega)), ?_⟩
    exact ⟨rfl, rfl, rfl, rfl, rfl, hoff.symm, hdrop⟩

/-- One frame is sent, and it carries the payload. -/
def Sends (r : Option (List UInt8)) (frameType : UInt8) (payload : List UInt8) : Prop :=
  ∃ sent, r = some sent ∧ DecodesTo sent frameType payload

theorem sendFrame_sends {block : List UInt8} {p : Nat} (ht : frameType ∈ frameTypes)
    (hn : payload.length ≤ 65535)
    (hroom : p + coWebsocketGetResPayloadOffset payload.length ≤ block.length)
    (hpayload : payload <+: block.drop (p + coWebsocketGetResPayloadOffset payload.length)) :
    Sends (coWebsocketSendFrame block p payload.length frameType) frameType payload := by
  obtain ⟨pre, old, rest, rfl, rfl, hold⟩ := exists_segment hroom
  rw [← hold, ← List.length_append, List.drop_left] at hpayload
  obtain ⟨post, rfl⟩ := hpayload
  rw [← List.append_assoc]
  exact ⟨_, sendFrame_append frameType hold hn, decodesTo_frame ht hn⟩

theorem processDap_sends (dapExecuteCommand : List UInt8 → List UInt8 → UInt32 × List UInt8)
    {wsProcessBuffer data response : List UInt8} {res : UInt32}
    (hsize : wsProcessBuffer.length = 1200)
    (hrun : dapExecuteCommand data (wsProcessBuffer.drop 4) = (res, response))
    (hresponse : response.length = 1196) (hres : (res &&& 0xFFFF).toNat ≤ 1196) :
    Sends (coWebsocketProcessDap dapExecuteCommand wsProcessBuffer data) WS_OPCODE_BINARY
      (response.take (res &&& 0xFFFF).toNat) := by
  have hmax : coWebsocketGetResPayloadOffset 1500 = 4 := rfl
  have hlen : (response.take (res &&& 0xFFFF).toNat).length = (res &&& 0xFFFF).toNat :=
    List.length_take_of_le (by omega)
  have hoff : coWebsocketGetResPayloadOffset (res &&& 0xFFFF).toNat ≤ 4 := by
    rw [coWebsocketGetResPayloadOffset]
    split <;> omega
  have hfour : (wsProcessBuffer.take 4).length = 4 := List.length_take_of_le (by omega)
  rw [coWebsocketProcessDap, hmax, hrun]
  have hsends := @sendFrame_sends (response.take (res &&& 0xFFFF).toNat) WS_OPCODE_BINARY
    (wsProcessBuffer.take 4 ++ response)
    (4 - coWebsocketGetResPayloadOffset (res &&& 0xFFFF).toNat) (by decide) (by omega)
  rw [hlen, Nat.sub_add_cancel hoff, List.length_append, hfour, List.drop_left' hfour] at hsends
  exact hsends (by omega) (List.take_prefix _ _)

/-- Every frame that is sent decodes to what was put in its place, up to the largest length. -/
theorem frames_round_trip :
    (∀ (block : List UInt8) (p : Nat) (payload : List UInt8), ∀ frameType ∈ frameTypes,
      payload.length ≤ 65535 →
      p + coWebsocketGetResPayloadOffset payload.length ≤ block.length →
      payload <+: block.drop (p + coWebsocketGetResPayloadOffset payload.length) →
      Sends (coWebsocketSendFrame block p payload.length frameType) frameType payload) ∧
    (∀ (dapExecuteCommand : List UInt8 → List UInt8 → UInt32 × List UInt8)
      (wsProcessBuffer data response : List UInt8) (res : UInt32),
      wsProcessBuffer.length = 1200 →
      dapExecuteCommand data (wsProcessBuffer.drop 4) = (res, response) →
      response.length = 1196 → (res &&& 0xFFFF).toNat ≤ 1196 →
      Sends (coWebsocketProcessDap dapExecuteCommand wsProcessBuffer data) WS_OPCODE_BINARY
        (response.take (res &&& 0xFFFF).toNat)) :=
  ⟨fun _ _ _ _ ht hn hroom hpayload => sendFrame_sends ht hn hroom hpayload,
    fun dapExecuteCommand _ _ _ _ hsize hrun hresponse hres =>
      processDap_sends dapExecuteCommand hsize hrun hresponse hres⟩

/-- A text frame in the middle of a block, and a command that answers with three bytes. -/
theorem frames_round_trip_three :
    Sends (coWebsocketSendFrame [9, 9, 9, 1, 2, 3] 1 3 WS_OPCODE_TEXT) WS_OPCODE_TEXT [1, 2, 3] ∧
    Sends (coWebsocketProcessDap (fun _ response => (0x10003, [5, 6, 7] ++ response.drop 3))
      (List.replicate 1200 0) [0]) WS_OPCODE_BINARY [5, 6, 7] :=
  ⟨frames_round_trip.1 [9, 9, 9, 1, 2, 3] 1 [1, 2, 3] WS_OPCODE_TEXT (by decide) (by decide)
    (by decide) (by decide),
  frames_round_trip.2 _ (List.replicate 1200 0) [0]
    ([5, 6, 7] ++ ((List.replicate 1200 0).drop 4).drop 3) 0x10003 List.length_replicate rfl
    (by rw [List.length_append, List.length_drop, List.length_drop, List.length_replicate]; rfl)
    (by decide)⟩

/-- One text frame is sent, and it carries the formatted message. -/
def SendsMsg (malloc : Nat → Option (List UInt8)) (code : Nat) (msg : List UInt8) : Prop :=
  ∃ sent, coWebsocketSendMsgWithCode malloc code msg = some [sent] ∧
    DecodesTo sent WS_OPCODE_TEXT (formatted code msg)

variable {malloc : Nat → Option (List UInt8)} {code : Nat} {msg buffer : List UInt8}

/-- What the format adds to the message. -/
def added (code : Nat) : Nat := if code = CO_RES_SUCCESS then 14 else 18

theorem decimal_length : ∀ code ≤ 4, (decimal code).length = 1 := by decide

theorem formatted_length (hcode : code ≤ 4) :
    (formatted code msg).length = msg.length + added code := by
  have hdec := decimal_length code hcode
  have h1 : (text "code=").length = 5 := by decide
  have h2 : (text "&data=\"").length = 7 := by decide
  have h3 : (text "&data=\"msg=").length = 11 := by decide
  have h4 : (text "\"").length = 1 := by decide
  rw [formatted, added]
  split
  next =>
    simp only [List.length_append, hdec, h1, h2, h4]
    omega
  next =>
    simp only [List.length_append, hdec, h1, h3, h4]
    omega

theorem formatted_code (code : Nat) (msg : List UInt8) :
    text "code=" <+: formatted code msg := by
  rw [formatted]
  split
  next => simp only [List.append_assoc, List.prefix_append]
  next => simp only [List.append_assoc, List.prefix_append]

theorem added_le (code : Nat) : added code ≤ 18 := by
  rw [added]
  split <;> omega

theorem sendMsg_eq (hcode : code ≤ 4)
    (hmalloc : malloc (coWebsocketGetResPayloadOffset msg.length + msg.length + 25) = some buffer)
    (hbuffer : buffer.length = coWebsocketGetResPayloadOffset msg.length + msg.length + 25) :
    ∃ pre post, pre.length = coWebsocketGetResPayloadOffset msg.length ∧ 6 ≤ post.length ∧
      coWebsocketSendMsgWithCode malloc code msg =
        (coWebsocketSendFrame (pre ++ (formatted code msg ++ [0]) ++ post) 0
          (formatted code msg).length WS_OPCODE_TEXT).map (fun sent => [sent]) := by
  have hlen : (formatted code msg).length = msg.length + added code := formatted_length hcode
  have hadded := added_le code
  obtain ⟨pre, old, post, rfl, hpre, hold⟩ := @exists_segment _ buffer
    (coWebsocketGetResPayloadOffset msg.length) ((formatted code msg).length + 1) (by omega)
  refine ⟨pre, post, hpre, ?_, ?_⟩
  · simp only [List.length_append] at hbuffer
    omega
  · have hstore : snprintf (pre ++ old ++ post) (coWebsocketGetResPayloadOffset msg.length)
        (msg.length + 24) (formatted code msg) =
        some (pre ++ (formatted code msg ++ [0]) ++ post) := by
      rw [snprintf, if_neg (by omega), List.take_of_length_le (by omega)]
      exact store_segment rfl hpre.symm (by rw [hold, List.length_append, List.length_singleton])
    rw [coWebsocketSendMsgWithCode]
    simp only [hmalloc, hstore, Option.bind_eq_bind, Option.bind_some]
    cases coWebsocketSendFrame (pre ++ (formatted code msg ++ [0]) ++ post) 0
      (formatted code msg).length WS_OPCODE_TEXT <;> rfl

theorem text_code : text "code=" = [99, 111, 100, 101, 61] := by decide

theorem not_sendsMsg_of_boundary (hcode : code ≤ 4)
    (hmalloc : malloc (coWebsocketGetResPayloadOffset msg.length + msg.length + 25) = some buffer)
    (hbuffer : buffer.length = coWebsocketGetResPayloadOffset msg.length + msg.length + 25)
    (hshort : msg.length < 126) (hlong : 126 ≤ msg.length + added code) :
    ¬ SendsMsg malloc code msg := by
  have hlen : (formatted code msg).length = msg.length + added code := formatted_length hcode
  have hadded := added_le code
  obtain ⟨pre, post, hpre, hpost, hsend⟩ := sendMsg_eq hcode hmalloc hbuffer
  rintro ⟨sent, heq, hdec⟩
  rw [coWebsocketGetResPayloadOffset, if_neg (by omega)] at hpre
  obtain ⟨tail, htail⟩ := formatted_code code msg
  rw [text_code] at htail
  obtain ⟨x, post, rfl⟩ : ∃ x post', post = x :: post' :=
    List.exists_cons_of_length_pos (by omega)
  -- the header takes the first two characters, and two bytes behind the text are sent
  have hframe := @sendFrame_append [] (pre ++ [99, 111]) ([100, 101, 61] ++ tail ++ [0, x]) post
    WS_OPCODE_TEXT
  have hn : ([100, 101, 61] ++ tail ++ [0, x]).length = (formatted code msg).length := by
    rw [← htail]
    simp only [List.length_append, List.length_cons, List.length_nil]
    omega
  have hblock : pre ++ (formatted code msg ++ [0]) ++ x :: post =
      [] ++ (pre ++ [99, 111]) ++ ([100, 101, 61] ++ tail ++ [0, x]) ++ post := by
    rw [← htail]
    simp
  have hold : (pre ++ [99, 111]).length =
      coWebsocketGetResPayloadOffset (formatted code msg).length := by
    rw [List.length_append, hpre, coWebsocketGetResPayloadOffset, if_pos (by omega)]
    rfl
  rw [hn, List.length_nil] at hframe
  rw [hsend, hblock, hframe hold (by omega)] at heq
  obtain rfl : frameHeader WS_OPCODE_TEXT (formatted code msg).length ++
      ([100, 101, 61] ++ tail ++ [0, x]) = sent := by simpa using heq
  have hsame := List.append_cancel_left hdec.bytes
  rw [← htail] at hsame
  exact absurd (List.cons.inj hsame).1 (by decide)

theorem sendsMsg_of_offset (hcode : code ≤ 4) (hmsg : msg.length ≤ 65000)
    (hmalloc : malloc (coWebsocketGetResPayloadOffset msg.length + msg.length + 25) = some buffer)
    (hbuffer : buffer.length = coWebsocketGetResPayloadOffset msg.length + msg.length + 25)
    (hoff : coWebsocketGetResPayloadOffset msg.length =
      coWebsocketGetResPayloadOffset (formatted code msg).length) :
    SendsMsg malloc code msg := by
  have hlen : (formatted code msg).length = msg.length + added code := formatted_length hcode
  have hadded := added_le code
  obtain ⟨pre, post, hpre, -, hsend⟩ := sendMsg_eq hcode hmalloc hbuffer
  have hframe := @sendFrame_append [] pre (formatted code msg) (0 :: post) WS_OPCODE_TEXT
    (hpre.trans hoff) (by omega)
  refine ⟨_, ?_, decodesTo_frame (by decide) (by omega)⟩
  simp only [List.nil_append, List.length_nil] at hframe
  rw [hsend, List.append_assoc, List.append_assoc, List.singleton_append, ← List.append_assoc,
    hframe]
  rfl

/-- The message arrives exactly when it and its text are on one side of the boundary. -/
theorem sendsMsg_iff (hcode : code ≤ 4) (hmsg : msg.length ≤ 65000)
    (hmalloc : malloc (coWebsocketGetResPayloadOffset msg.length + msg.length + 25) = some buffer)
    (hbuffer : buffer.length = coWebsocketGetResPayloadOffset msg.length + msg.length + 25) :
    SendsMsg malloc code msg ↔ msg.length + added code < 126 ∨ 126 ≤ msg.length := by
  constructor
  · intro hsends
    by_contra hcond
    rw [not_or, Nat.not_lt, Nat.not_le] at hcond
    exact not_sendsMsg_of_boundary hcode hmalloc hbuffer hcond.2 hcond.1 hsends
  · intro hcond
    refine sendsMsg_of_offset hcode hmsg hmalloc hbuffer ?_
    rw [formatted_length hcode, coWebsocketGetResPayloadOffset, coWebsocketGetResPayloadOffset]
    split <;> split <;> omega

/-- A message of three characters, in a block that held something else before. -/
theorem sendsMsg_three : SendsMsg (fun n => some (List.replicate n 170)) 3 [97, 98, 99] :=
  (sendsMsg_iff (by decide) (by decide) rfl List.length_replicate).mpr
    (.inl (by decide))

/-- A message of 120 characters loses the first two characters of its text. -/
theorem not_sendsMsg_always :
    ¬ ∀ (malloc : Nat → Option (List UInt8)) (code : Nat) (msg : List UInt8), code ≤ 4 →
      msg.length ≤ 65000 → (∀ n, ∃ block, malloc n = some block ∧ block.length = n) →
      SendsMsg malloc code msg := by
  intro hall
  have hsends := hall (fun n => some (List.replicate n 170)) 3 (List.replicate 120 97)
    (by decide) (by decide) (fun n => ⟨_, rfl, List.length_replicate⟩)
  exact not_sendsMsg_of_boundary (by decide) rfl List.length_replicate (by decide) (by decide)
    hsends

end WirelessEsp.WebsocketResponse
