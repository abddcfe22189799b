import WirelessEsp.Rfc6455
import WirelessEsp.WebsocketServer

namespace WirelessEsp.WebsocketHeader

open Rfc6455 WebsocketServer LeWords

def pending (scb : CoSocketCb) : List UInt8 := scb.buf.take scb.remainingLen

/-- The frames that are neither text nor control frames with an answer, with a
length that a `size_t` holds. -/
structure Plain (h : Header) : Prop where
  rsv : h.rsv = 0
  opcode : h.opcode = WS_OPCODE_BINARY ∨ h.opcode = WS_OPCODE_PONG
  length : h.length < 2 ^ 32

/-- Two control blocks that differ only in what the header parser writes. -/
structure SameBuffer (scb scb' : CoSocketCb) : Prop where
  addr : scb'.addr = scb.addr
  buf : scb'.buf = scb.buf
  remainingLen : scb'.remainingLen = scb.remainingLen

structure Opened (bs : List UInt8) (scb : CoSocketCb) : Prop where
  two : 2 ≤ bs.length
  fin : scb.wcb.fin = (headerOf bs).fin
  opcode : scb.wcb.opcode = (headerOf bs).opcode
  mask : scb.wcb.mask = maskBit (bs.getD 1 0)

structure Measured (bs : List UInt8) (scb : CoSocketCb) : Prop extends Opened bs scb where
  readLen : scb.readLen = 2 + extendedSize (bs.getD 1 0)
  fits : scb.readLen ≤ bs.length
  payloadLen : scb.wcb.payloadLen = headerLength bs

structure HeaderDone (bs : List UInt8) (scb : CoSocketCb) : Prop extends Opened bs scb where
  status : scb.status = .websocketPayload
  complete : Complete bs
  readLen : scb.readLen = headerSize bs
  payloadLen : scb.wcb.payloadLen = headerLength bs
  key : ∀ k, headerKey bs = some k → ∀ i < 4, byteOf scb.wcb.maskVal i = k.getD i 0

inductive HeaderProgress (bs : List UInt8) (scb : CoSocketCb) : Prop
  | start (status : scb.status = .websocketHeader) (readLen : scb.readLen = 0)
  | extendLength (status : scb.status = .websocketExtendLength) (opened : Opened bs scb)
      (readLen : scb.readLen = 2) (payloadLen : scb.wcb.payloadLen = lengthField (bs.getD 1 0))
      (extended : extendedSize (bs.getD 1 0) ≠ 0)
  | mask (status : scb.status = .websocketMask) (measured : Measured bs scb)
      (masked : maskBit (bs.getD 1 0) = true)

theorem SameBuffer.refl (scb : CoSocketCb) : SameBuffer scb scb := ⟨rfl, rfl, rfl⟩

theorem SameBuffer.trans {a b c : CoSocketCb} (h : SameBuffer a b) (g : SameBuffer b c) :
    SameBuffer a c :=
  ⟨g.addr.trans h.addr, g.buf.trans h.buf, g.remainingLen.trans h.remainingLen⟩

theorem data_pending {scb : CoSocketCb} {i : Nat} (hi : i < (pending scb).length) :
    scb.data i = (pending scb).getD i 0 := by
  have hrem : i < scb.remainingLen := by
    rw [pending, List.length_take] at hi
    omega
  rw [CoSocketCb.data, List.getD_eq_getElem?_getD, List.getD_eq_getElem?_getD, pending,
    List.getElem?_take_of_lt hrem]

theorem pending_length {scb : CoSocketCb} (h : scb.remainingLen ≤ scb.buf.length) :
    (pending scb).length = scb.remainingLen := by
  rw [pending, List.length_take, Nat.min_eq_left h]

theorem bit7_eq (b : UInt8) : (b &&& 0x80 == 0x80) = (b &&& 0x80 != 0) := by
  have h : ∀ v : BitVec 8, (v &&& 0x80#8 == 0x80#8) = (v &&& 0x80#8 != 0#8) := by decide
  have hb := h b.toBitVec
  rw [Bool.eq_iff_iff] at hb ⊢
  simp only [beq_iff_eq, bne_iff_ne, ne_eq, ← UInt8.toBitVec_inj] at hb ⊢
  exact hb

theorem or_shiftLeft {n k : Nat} (hn : n < 2 ^ k) (d : Nat) : n ||| d <<< k = n + d * 2 ^ k := by
  rw [Nat.or_comm, ← Nat.shiftLeft_add_eq_or_of_lt hn, Nat.shiftLeft_eq, Nat.add_comm]

theorem extendedLength16_eq {scb : CoSocketCb} (h : 4 ≤ (pending scb).length) :
    extendedLength16 scb = beNat (((pending scb).drop 2).take 2) := by
  have hd : ((pending scb).drop 2).take 2 = [scb.data 2, scb.data 3] := by
    rw [data_pending (by omega), data_pending (by omega)]
    match pending scb, h with
    | _ :: _ :: _ :: _ :: _, _ => rfl
  have h2 := (scb.data 2).toNat_lt
  have h3 := (scb.data 3).toNat_lt
  rw [extendedLength16, hd, Nat.or_comm, or_shiftLeft h3]
  simp only [beNat, List.foldl_cons, List.foldl_nil]
  omega

theorem extendedLength64_eq {scb : CoSocketCb} (h : 10 ≤ (pending scb).length) :
    extendedLength64 scb = beNat (((pending scb).drop 2).take 8) := by
  have hd : ((pending scb).drop 2).take 8 = [scb.data 2, scb.data 3, scb.data 4, scb.data 5,
      scb.data 6, scb.data 7, scb.data 8, scb.data 9] := by
    iterate 8 rw [data_pending (by omega)]
    match pending scb, h with
    | _ :: _ :: _ :: _ :: _ :: _ :: _ :: _ :: _ :: _ :: _, _ => rfl
  have hlt (i : Nat) : (scb.data i).toNat < 256 := (scb.data i).toNat_lt
  have h2 := hlt 2; have h3 := hlt 3; have h4 := hlt 4; have h5 := hlt 5
  have h6 := hlt 6; have h7 := hlt 7; have h8 := hlt 8; have h9 := hlt 9
  rw [extendedLength64, hd, Nat.shiftLeft_zero, or_shiftLeft (k := 8) (by omega),
    or_shiftLeft (k := 16) (by omega), or_shiftLeft (k := 24) (by omega),
    or_shiftLeft (k := 32) (by omega), or_shiftLeft (k := 40) (by omega),
    or_shiftLeft (k := 48) (by omega), or_shiftLeft (k := 56) (by omega)]
  simp only [beNat, List.foldl_cons, List.foldl_nil]
  omega

/-- What `readHeader` leaves when it has read the first two bytes. -/
structure AfterHeader (bs : List UInt8) (scb : CoSocketCb) : Prop extends Opened bs scb where
  readLen : scb.readLen = 2
  payloadLen : scb.wcb.payloadLen = lengthField (bs.getD 1 0)
  status : scb.status =
    if extendedSize (bs.getD 1 0) ≠ 0 then .websocketExtendLength
    else if maskBit (bs.getD 1 0) then .websocketMask
    else .websocketHeader

/-- What `readExtendLength` leaves when the length is known. -/
structure AfterLength (bs : List UInt8) (scb : CoSocketCb) : Prop extends Measured bs scb where
  status : (scb.status = .websocketMask) = (maskBit (bs.getD 1 0) = true)

theorem extendedSize_cases (b : UInt8) :
    (lengthField b = 126 ∧ extendedSize b = 2) ∨ (lengthField b = 127 ∧ extendedSize b = 8) ∨
      (lengthField b ≠ 126 ∧ lengthField b ≠ 127 ∧ extendedSize b = 0) := by
  rw [extendedSize]
  split
  next h => exact .inl ⟨h, rfl⟩
  next h =>
    split
    next h' => exact .inr (.inl ⟨h', rfl⟩)
    next h' => exact .inr (.inr ⟨h, h', rfl⟩)

theorem readHeader_short {scb : CoSocketCb} (hs : scb.status = .websocketHeader)
    (hlen : scb.remainingLen < 2) : readHeader scb = .error (.ok, scb) := by
  rw [readHeader, if_pos hs, if_pos hlen]

theorem readHeader_skip {scb : CoSocketCb} (hs : scb.status ≠ .websocketHeader) :
    readHeader scb = .ok scb := by
  rw [readHeader, if_neg hs]

theorem frameOpcode_plain {scb : CoSocketCb}
    (hop : scb.data 0 &&& 0x0f = WS_OPCODE_BINARY ∨ scb.data 0 &&& 0x0f = WS_OPCODE_PONG) :
    frameOpcode scb = some (scb.data 0 &&& 0x0f) := by
  rw [frameOpcode]
  rcases hop with h | h <;> rw [h] <;> rfl

theorem storeHeader_status {scb : CoSocketCb} (hs : scb.status = .websocketHeader) (op : UInt8) :
    (storeHeader scb op).status =
      if extendedSize (scb.data 1) ≠ 0 then .websocketExtendLength
      else if maskBit (scb.data 1) then .websocketMask
      else .websocketHeader := by
  have hmask : (scb.data 1 &&& WS_MASK == WS_MASK) = maskBit (scb.data 1) := bit7_eq _
  simp only [storeHeader, hmask, hs]
  change (if lengthField (scb.data 1) = 126 ∨ lengthField (scb.data 1) = 127 then _ else _) = _
  rcases extendedSize_cases (scb.data 1) with ⟨h, h'⟩ | ⟨h, h'⟩ | ⟨h, h', h''⟩
  · simp only [h, h', true_or, if_true, ne_eq, OfNat.ofNat_ne_zero, not_false_eq_true]
  · simp only [h, h', or_true, if_true, ne_eq, OfNat.ofNat_ne_zero, not_false_eq_true]
  · simp only [h, h', h'', or_self, if_false, ne_eq, not_true_eq_false]

theorem storeHeader_after {scb : CoSocketCb} (hs : scb.status = .websocketHeader)
    (hlen : 2 ≤ (pending scb).length) :
    SameBuffer scb (storeHeader scb (scb.data 0 &&& 0x0f)) ∧
      AfterHeader (pending scb) (storeHeader scb (scb.data 0 &&& 0x0f)) := by
  have h0 : scb.data 0 = (pending scb).getD 0 0 := data_pending (by omega)
  have h1 : scb.data 1 = (pending scb).getD 1 0 := data_pending (by omega)
  refine ⟨⟨rfl, rfl, rfl⟩, ⟨hlen, ?_, ?_, ?_⟩, rfl, ?_, ?_⟩
  · simp only [storeHeader, headerOf, h0]
    exact bit7_eq _
  · simp only [storeHeader, headerOf, h0]
  · simp only [storeHeader, h1]
    exact bit7_eq _
  · simp only [storeHeader, h1, lengthField]
  · rw [storeHeader_status hs, h1]

theorem readHeader_stores {scb : CoSocketCb} {opcode : UInt8} (hs : scb.status = .websocketHeader)
    (hfit : scb.remainingLen ≤ scb.buf.length) (hlen : 2 ≤ (pending scb).length)
    (hrsv : (headerOf (pending scb)).rsv = 0) (hop : frameOpcode scb = some opcode) :
    readHeader scb = .ok (storeHeader scb opcode) := by
  have hrem : ¬ scb.remainingLen < 2 := by
    rw [← pending_length hfit]; omega
  have h0 : scb.data 0 = (pending scb).getD 0 0 := data_pending (by omega)
  have hrsv' : ¬ (scb.data 0 &&& 0x70 != 0) = true := by
    rw [bne_iff_ne, not_not, h0]; exact hrsv
  rw [readHeader, if_pos hs, if_neg hrem, if_neg hrsv', hop]

theorem readHeader_plain {scb : CoSocketCb} (hs : scb.status = .websocketHeader)
    (hfit : scb.remainingLen ≤ scb.buf.length) (hlen : 2 ≤ (pending scb).length)
    (hrsv : (headerOf (pending scb)).rsv = 0)
    (hop : (headerOf (pending scb)).opcode = WS_OPCODE_BINARY ∨
      (headerOf (pending scb)).opcode = WS_OPCODE_PONG) :
    ∃ scb', readHeader scb = .ok scb' ∧ SameBuffer scb scb' ∧ AfterHeader (pending scb) scb' := by
  have h0 : scb.data 0 = (pending scb).getD 0 0 := data_pending (by omega)
  have hkept := readHeader_stores hs hfit hlen hrsv (frameOpcode_plain (h0 ▸ hop))
  exact ⟨_, hkept, storeHeader_after hs hlen⟩

theorem readExtendLength_skip {scb : CoSocketCb} (hs : scb.status ≠ .websocketExtendLength) :
    readExtendLength scb = .ok scb := by
  rw [readExtendLength, if_neg hs]

theorem readExtendLength_wait {scb : CoSocketCb} {bs : List UInt8}
    (hs : scb.status = .websocketExtendLength)
    (hpl : scb.wcb.payloadLen = lengthField (bs.getD 1 0)) (hext : extendedSize (bs.getD 1 0) ≠ 0)
    (hlen : scb.remainingLen < scb.readLen + extendedSize (bs.getD 1 0)) :
    readExtendLength scb = .error (.ok, scb) := by
  rw [readExtendLength, if_pos hs, hpl]
  rcases extendedSize_cases (bs.getD 1 0) with ⟨h, h'⟩ | ⟨h, h'⟩ | ⟨_, _, h⟩
  · rw [if_pos h, if_pos (h' ▸ hlen)]
  · rw [if_neg (by omega), if_pos h, if_pos (h' ▸ hlen)]
  · exact absurd h hext

theorem readExtendLength_stored {scb : CoSocketCb} (hs : scb.status = .websocketExtendLength)
    (hfit : scb.remainingLen ≤ scb.buf.length) (hread : scb.readLen = 2)
    (hpl : scb.wcb.payloadLen = lengthField ((pending scb).getD 1 0))
    (hext : extendedSize ((pending scb).getD 1 0) ≠ 0)
    (hlen : 2 + extendedSize ((pending scb).getD 1 0) ≤ (pending scb).length)
    (hsize : headerLength (pending scb) < 2 ^ 32) :
    readExtendLength scb = .ok (storeLength scb (2 + extendedSize ((pending scb).getD 1 0))
      (headerLength (pending scb))) := by
  have hrem := pending_length hfit
  rw [headerLength, if_neg hext] at hsize ⊢
  rw [readExtendLength, if_pos hs, hpl, hread]
  rcases extendedSize_cases ((pending scb).getD 1 0) with ⟨h, h'⟩ | ⟨h, h'⟩ | ⟨_, _, h⟩
  · rw [h'] at hlen hsize ⊢
    rw [if_pos h, if_neg (by omega), extendedLength16_eq (by omega)]
  · rw [h'] at hlen hsize ⊢
    have hmsb : ¬ extendedLength64 scb >>> 63 &&& 1 = 1 := by
      rw [extendedLength64_eq (by omega), Nat.shiftRight_eq_div_pow,
        Nat.div_eq_of_lt (Nat.lt_of_lt_of_le hsize (by decide))]
      decide
    rw [if_neg (by omega), if_pos h, if_neg (by omega), if_neg hmsb,
      extendedLength64_eq (by omega)]
  · exact absurd h hext

theorem storeLength_after {scb : CoSocketCb} {bs : List UInt8} (ho : Opened bs scb)
    (hlen : 2 + extendedSize (bs.getD 1 0) ≤ bs.length) (hsize : headerLength bs < 2 ^ 32) :
    AfterLength bs (storeLength scb (2 + extendedSize (bs.getD 1 0)) (headerLength bs)) := by
  refine ⟨⟨⟨ho.two, ho.fin, ho.opcode, ho.mask⟩, rfl, hlen, Nat.mod_eq_of_lt hsize⟩, ?_⟩
  simp only [storeLength, ho.mask]
  cases maskBit (bs.getD 1 0) <;> simp

theorem AfterHeader.afterLength {bs : List UInt8} {scb : CoSocketCb} (h : AfterHeader bs scb)
    (hext : extendedSize (bs.getD 1 0) = 0) : AfterLength bs scb := by
  refine ⟨⟨h.toOpened, ?_, ?_, ?_⟩, ?_⟩
  · rw [h.readLen, hext]
  · rw [h.readLen]; exact h.two
  · rw [h.payloadLen, headerLength, if_pos hext]
  · rw [h.status, if_neg (not_not.mpr hext)]
    cases maskBit (bs.getD 1 0) <;> simp

theorem readMask_unmasked {scb : CoSocketCb} {bs : List UInt8} (h : AfterLength bs scb)
    (hm : maskBit (bs.getD 1 0) = false) :
    ∃ scb', readMask scb = (.ok, scb') ∧ SameBuffer scb scb' ∧ HeaderDone bs scb' := by
  have hs : ¬ scb.status = .websocketMask := by rw [h.status, hm]; exact Bool.false_ne_true
  have hsize : headerSize bs = scb.readLen := by
    rw [headerSize, keySize, hm, h.readLen]; rfl
  have hkey : headerKey bs = none := by rw [headerKey, hm]; rfl
  refine ⟨{ scb with status := .websocketPayload }, ?_, ⟨rfl, rfl, rfl⟩,
    ⟨h.two, h.fin, h.opcode, h.mask⟩, rfl, ⟨h.two, ?_⟩, hsize.symm, h.payloadLen, ?_⟩
  · rw [readMask, if_neg hs]
  · rw [hsize]; exact h.fits
  · intro k hk
    rw [hkey] at hk
    cases hk

theorem readMask_wait {scb : CoSocketCb} {bs : List UInt8} (h : AfterLength bs scb)
    (hm : maskBit (bs.getD 1 0) = true) (hlen : scb.remainingLen < scb.readLen + 4) :
    readMask scb = (.ok, scb) := by
  rw [readMask, if_pos (h.status.mpr hm), if_pos hlen]

theorem headerKey_getD {bs : List UInt8} {k : List UInt8} (hk : headerKey bs = some k) {i : Nat}
    (hi : i < 4) : k.getD i 0 = bs.getD (2 + extendedSize (bs.getD 1 0) + i) 0 := by
  rw [headerKey] at hk
  split at hk
  next =>
    cases hk
    simp only [List.getD_eq_getElem?_getD]
    rw [List.getElem?_take_of_lt hi, List.getElem?_drop]
  next => cases hk

theorem readMask_masked {scb : CoSocketCb} (h : AfterLength (pending scb) scb)
    (hfit : scb.remainingLen ≤ scb.buf.length)
    (hm : maskBit ((pending scb).getD 1 0) = true) (hlen : scb.readLen + 4 ≤ scb.remainingLen) :
    ∃ scb', readMask scb = (.ok, scb') ∧ SameBuffer scb scb' ∧ HeaderDone (pending scb) scb' := by
  have hrem := pending_length hfit
  have hsize : headerSize (pending scb) = scb.readLen + 4 := by
    rw [headerSize, keySize, hm, h.readLen]; rfl
  refine ⟨storeMask scb, ?_, ⟨rfl, rfl, rfl⟩, ⟨h.two, h.fin, h.opcode, h.mask⟩, rfl,
    ⟨h.two, ?_⟩, hsize.symm, h.payloadLen, ?_⟩
  · rw [readMask, if_pos (h.status.mpr hm), if_neg (by omega)]
  · rw [hsize, hrem]; exact hlen
  · intro k hk i hi
    have hdata : ∀ j < 4, scb.data (scb.readLen + j) = k.getD j 0 := by
      intro j hj
      rw [data_pending (by omega), headerKey_getD hk hj, h.readLen]
    have hbyte := byteOf_ofBytes_get (fun j => scb.data (scb.readLen + j)) hi
    exact hbyte.trans (hdata i hi)

/-- What the rest of the stream promises about the header that starts in the buffer. -/
def Promised (bs : List UInt8) : Prop :=
  ∃ rest, Complete (bs ++ rest) ∧ Plain (headerOf (bs ++ rest))

theorem Promised.rsv {bs : List UInt8} (h : Promised bs) (h2 : 2 ≤ bs.length) :
    (headerOf bs).rsv = 0 := by
  obtain ⟨rest, _, hp⟩ := h
  have h0 := hp.rsv
  simp only [headerOf, getD_append_left rest (show 0 < bs.length by omega)] at h0
  exact h0

theorem Promised.opcode {bs : List UInt8} (h : Promised bs) (h2 : 2 ≤ bs.length) :
    (headerOf bs).opcode = WS_OPCODE_BINARY ∨ (headerOf bs).opcode = WS_OPCODE_PONG := by
  obtain ⟨rest, _, hp⟩ := h
  have h0 := hp.opcode
  simp only [headerOf, getD_append_left rest (show 0 < bs.length by omega)] at h0
  exact h0

theorem Promised.length {bs : List UInt8} (h : Promised bs) (h2 : 2 ≤ bs.length)
    (hlen : 2 + extendedSize (bs.getD 1 0) ≤ bs.length) : headerLength bs < 2 ^ 32 := by
  obtain ⟨rest, _, hp⟩ := h
  have h0 := hp.length
  simp only [headerOf, headerLength_append h2 hlen] at h0
  exact h0

/-- What one call of the header parser leaves when the bytes in use are `bs`. -/
structure HeaderResult (bs : List UInt8) (scb scb' : CoSocketCb) : Prop where
  same : SameBuffer scb scb'
  done : Complete bs → HeaderDone bs scb'
  wait : ¬ Complete bs → HeaderProgress bs scb'

theorem SameBuffer.pending_eq {scb scb' : CoSocketCb} (h : SameBuffer scb scb') :
    pending scb' = pending scb := by
  rw [pending, pending, h.buf, h.remainingLen]

theorem SameBuffer.fits {scb scb' : CoSocketCb} (h : SameBuffer scb scb')
    (hfit : scb.remainingLen ≤ scb.buf.length) : scb'.remainingLen ≤ scb'.buf.length := by
  rw [h.remainingLen, h.buf]; exact hfit

theorem HeaderDone.result {bs : List UInt8} {scb scb' : CoSocketCb} (h : HeaderDone bs scb')
    (hs : SameBuffer scb scb') : HeaderResult bs scb scb' :=
  ⟨hs, fun _ => h, fun hc => absurd h.complete hc⟩

theorem HeaderProgress.result {bs : List UInt8} {scb scb' : CoSocketCb}
    (h : HeaderProgress bs scb') (hc : ¬ Complete bs) (hs : SameBuffer scb scb') :
    HeaderResult bs scb scb' :=
  ⟨hs, fun h' => absurd h' hc, fun _ => h⟩

theorem HeaderProgress.not_payload {bs : List UInt8} {scb : CoSocketCb}
    (hp : HeaderProgress bs scb) : scb.status ≠ .websocketPayload := by
  cases hp with
  | start hs _ => rw [hs]; simp
  | extendLength hs _ _ _ _ => rw [hs]; simp
  | mask hs _ _ => rw [hs]; simp

theorem HeaderProgress.status_of_short {bs : List UInt8} {scb : CoSocketCb}
    (hp : HeaderProgress bs scb) (h2 : ¬ 2 ≤ bs.length) : scb.status = .websocketHeader := by
  cases hp with
  | start hs _ => exact hs
  | extendLength _ ho _ _ _ => exact absurd ho.two h2
  | mask _ hm _ => exact absurd hm.two h2

theorem readMask_result {scb : CoSocketCb} (hfit : scb.remainingLen ≤ scb.buf.length)
    (h : AfterLength (pending scb) scb) :
    ∃ scb', readMask scb = (.ok, scb') ∧ HeaderResult (pending scb) scb scb' := by
  cases hm : maskBit ((pending scb).getD 1 0) with
  | false =>
      obtain ⟨scb', heq, hsame, hdone⟩ := readMask_unmasked h hm
      exact ⟨scb', heq, hdone.result hsame⟩
  | true =>
      by_cases hlen : scb.remainingLen < scb.readLen + 4
      · have hc : ¬ Complete (pending scb) := by
          rintro ⟨_, hc⟩
          rw [headerSize, keySize, hm, pending_length hfit, ← h.readLen] at hc
          simp only [if_true] at hc
          omega
        exact ⟨scb, readMask_wait h hm hlen,
          (HeaderProgress.mask (h.status.mpr hm) h.toMeasured hm).result hc (.refl scb)⟩
      · obtain ⟨scb', heq, hsame, hdone⟩ := readMask_masked h hfit hm (by omega)
        exact ⟨scb', heq, hdone.result hsame⟩

theorem readMask_after {scb scb' : CoSocketCb} (hfit : scb.remainingLen ≤ scb.buf.length)
    (hsame : SameBuffer scb scb') (h : AfterLength (pending scb) scb') :
    ∃ scb'', readMask scb' = (.ok, scb'') ∧ HeaderResult (pending scb) scb scb'' := by
  rw [← hsame.pending_eq] at h ⊢
  obtain ⟨scb'', heq, hr⟩ := readMask_result (hsame.fits hfit) h
  exact ⟨scb'', heq, hsame.trans hr.same, hr.done, hr.wait⟩

def readRest (scb : CoSocketCb) : CoErr × CoSocketCb :=
  match readExtendLength scb with
  | .error r => r
  | .ok scb => readMask scb

theorem coWebsocketProcessHeader_ok {scb scb' : CoSocketCb} (h : readHeader scb = .ok scb') :
    coWebsocketProcessHeader scb = readRest scb' := by
  rw [coWebsocketProcessHeader, h]; rfl

/-- The length, once it is there, is one that a `size_t` holds. -/
def LengthFits (bs : List UInt8) : Prop :=
  2 + extendedSize (bs.getD 1 0) ≤ bs.length → headerLength bs < 2 ^ 32

theorem readRest_extended {scb : CoSocketCb} (hfit : scb.remainingLen ≤ scb.buf.length)
    (hp : LengthFits (pending scb)) (ho : Opened (pending scb) scb)
    (hs : scb.status = .websocketExtendLength) (hread : scb.readLen = 2)
    (hpl : scb.wcb.payloadLen = lengthField ((pending scb).getD 1 0))
    (hext : extendedSize ((pending scb).getD 1 0) ≠ 0) :
    ∃ scb', readRest scb = (.ok, scb') ∧ HeaderResult (pending scb) scb scb' := by
  have hrem := pending_length hfit
  by_cases hlen : 2 + extendedSize ((pending scb).getD 1 0) ≤ (pending scb).length
  · have hsize := hp hlen
    rw [readRest, readExtendLength_stored hs hfit hread hpl hext hlen hsize]
    exact readMask_after hfit ⟨rfl, rfl, rfl⟩ (storeLength_after ho hlen hsize)
  · have hc : ¬ Complete (pending scb) := by
      rintro ⟨_, hc⟩
      rw [headerSize] at hc
      omega
    rw [readRest, readExtendLength_wait hs hpl hext (by omega)]
    exact ⟨scb, rfl, (HeaderProgress.extendLength hs ho hread hpl hext).result hc (.refl scb)⟩

theorem readRest_afterHeader {scb : CoSocketCb} (hfit : scb.remainingLen ≤ scb.buf.length)
    (hp : LengthFits (pending scb)) (h : AfterHeader (pending scb) scb) :
    ∃ scb', readRest scb = (.ok, scb') ∧ HeaderResult (pending scb) scb scb' := by
  by_cases hext : extendedSize ((pending scb).getD 1 0) = 0
  · have hs : scb.status ≠ .websocketExtendLength := by
      rw [h.status, if_neg (not_not.mpr hext)]
      split <;> simp
    rw [readRest, readExtendLength_skip hs]
    exact readMask_result hfit (h.afterLength hext)
  · have hs : scb.status = .websocketExtendLength := by rw [h.status, if_pos hext]
    exact readRest_extended hfit hp h.toOpened hs h.readLen h.payloadLen hext

theorem readRest_progress {scb : CoSocketCb} (hfit : scb.remainingLen ≤ scb.buf.length)
    (hp : LengthFits (pending scb)) (hs : scb.status ≠ .websocketHeader)
    (h : HeaderProgress (pending scb) scb) :
    ∃ scb', readRest scb = (.ok, scb') ∧ HeaderResult (pending scb) scb scb' := by
  cases h with
  | start hs' _ => exact absurd hs' hs
  | extendLength hs ho hread hpl hext => exact readRest_extended hfit hp ho hs hread hpl hext
  | mask hs hm hmask =>
      have hafter : AfterLength (pending scb) scb := ⟨hm, by simp only [hs, hmask]⟩
      rw [readRest, readExtendLength_skip (by rw [hs]; simp)]
      exact readMask_result hfit hafter

/-- Wherever the parser stopped, its next call completes the header when all of
its bytes are there, and waits otherwise. -/
theorem coWebsocketProcessHeader_result {scb : CoSocketCb}
    (hfit : scb.remainingLen ≤ scb.buf.length) (hp : Promised (pending scb))
    (h : HeaderProgress (pending scb) scb) :
    ∃ scb', coWebsocketProcessHeader scb = (.ok, scb') ∧ HeaderResult (pending scb) scb scb' := by
  by_cases h2 : 2 ≤ (pending scb).length
  · have hlength : LengthFits (pending scb) := hp.length h2
    by_cases hs : scb.status = .websocketHeader
    · obtain ⟨scb', heq, hsame, hafter⟩ := readHeader_plain hs hfit h2 (hp.rsv h2) (hp.opcode h2)
      rw [← hsame.pending_eq] at hlength hafter ⊢
      obtain ⟨scb'', heq', hr⟩ := readRest_afterHeader (hsame.fits hfit) hlength hafter
      exact ⟨scb'', by rw [coWebsocketProcessHeader_ok heq, heq'],
        hsame.trans hr.same, hr.done, hr.wait⟩
    · rw [coWebsocketProcessHeader_ok (readHeader_skip hs)]
      exact readRest_progress hfit hlength hs h
  · have hs := h.status_of_short h2
    have hrem := pending_length hfit
    have heq : coWebsocketProcessHeader scb = (.ok, scb) := by
      rw [coWebsocketProcessHeader, readHeader_short hs (by omega)]; rfl
    exact ⟨scb, heq, h.result (fun hc => h2 hc.1) (.refl scb)⟩

end WirelessEsp.WebsocketHeader
