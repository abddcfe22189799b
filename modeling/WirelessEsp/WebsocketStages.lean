import WirelessEsp.WebsocketAnswers
import WirelessEsp.WebsocketBuffer

namespace WirelessEsp.WebsocketStages

open Rfc6455 FrameParts WebsocketServer WebsocketHeader WebsocketPayload WebsocketSync
  WebsocketBuffer WebsocketAnswers LeWords

/-- The control block with another opcode. The parser stages behind the first two bytes do not
look at it. -/
def relabel (opcode : UInt8) (scb : CoSocketCb) : CoSocketCb :=
  { scb with wcb := { scb.wcb with opcode := opcode } }

variable {scb : CoSocketCb} {opcode : UInt8} {bs : List UInt8}

theorem relabel_self (h : scb.wcb.opcode = opcode) : relabel opcode scb = scb := by
  subst h
  rfl

theorem readMask_relabel (opcode : UInt8) (scb : CoSocketCb) :
    readMask (relabel opcode scb) = ((readMask scb).1, relabel opcode (readMask scb).2) := by
  by_cases hs : scb.status = .websocketMask
  · have hs' : (relabel opcode scb).status = .websocketMask := hs
    rw [readMask, readMask, if_pos hs, if_pos hs']
    by_cases hlen : scb.remainingLen < scb.readLen + 4
    · have hlen' : (relabel opcode scb).remainingLen < (relabel opcode scb).readLen + 4 := hlen
      rw [if_pos hlen, if_pos hlen']
    · have hlen' : ¬ (relabel opcode scb).remainingLen < (relabel opcode scb).readLen + 4 := hlen
      rw [if_neg hlen, if_neg hlen']
      rfl
  · have hs' : ¬ (relabel opcode scb).status = .websocketMask := hs
    rw [readMask, readMask, if_neg hs, if_neg hs']
    rfl

theorem readMask_status (scb : CoSocketCb) : (readMask scb).2.status ≠ .websocketHeader := by
  rw [readMask]
  split
  next hs =>
    split
    · simp only [hs]; decide
    · simp [storeMask]
  next => simp

def relabelStage (opcode : UInt8) :
    Except (CoErr × CoSocketCb) CoSocketCb → Except (CoErr × CoSocketCb) CoSocketCb
  | .error r => .error (r.1, relabel opcode r.2)
  | .ok scb => .ok (relabel opcode scb)

theorem readExtendLength_relabel (opcode : UInt8) (scb : CoSocketCb) :
    readExtendLength (relabel opcode scb) = relabelStage opcode (readExtendLength scb) := by
  rw [readExtendLength, readExtendLength]
  simp only [apply_ite (relabelStage opcode)]
  rfl

theorem readRest_relabel (opcode : UInt8) (scb : CoSocketCb) :
    readRest (relabel opcode scb) = ((readRest scb).1, relabel opcode (readRest scb).2) := by
  rw [readRest, readRest, readExtendLength_relabel]
  cases readExtendLength scb with
  | error r => rfl
  | ok scb' => exact readMask_relabel opcode scb'

theorem readRest_status {scb' : CoSocketCb} (h : readRest scb = (.ok, scb')) :
    scb'.status ≠ .websocketHeader := by
  rw [readRest] at h
  cases hl : readExtendLength scb with
  | error r =>
      rw [hl] at h
      rcases readExtendLength_error hl with hfail | ⟨rfl, hs, -⟩
      · exact absurd (hfail.symm.trans (congrArg Prod.fst h)) (by simp)
      · cases h
        simp [hs]
  | ok scb₁ =>
      rw [hl] at h
      have hmask := readMask_status scb₁
      rw [show readMask scb₁ = (.ok, scb') from h] at hmask
      exact hmask

/-- What the header parser leaves: its place in the header, with the frame's own opcode put in
for the one it is handled under. -/
structure HeaderLeft (d : Dispatch) (bs : List UInt8) (scb scb' : CoSocketCb) : Prop where
  result : HeaderResult bs scb (relabel (headerOf bs).opcode scb')
  opcode : scb'.wcb.opcode =
    if scb'.status = .websocketHeader then d.opcode else resolve d.opcode (headerOf bs).opcode
  skip : scb'.wcb.skipFrame = d.skip

structure AtHeader (d : Dispatch) (s : Session) : Prop extends Room s.scb where
  progress : HeaderProgress (pending s.scb) (relabel (headerOf (pending s.scb)).opcode s.scb)
  opcode : s.scb.wcb.opcode =
    if s.scb.status = .websocketHeader then d.opcode
    else resolve d.opcode (headerOf (pending s.scb)).opcode
  skip : s.scb.wcb.skipFrame = d.skip
  cb : s.cb = ⟨none, 0⟩

/-- The bytes so far are the start of a header that the protocol defines. -/
structure Hopeful (bs : List UInt8) : Prop where
  rsv : 2 ≤ bs.length → (headerOf bs).rsv = 0
  opcode : 2 ≤ bs.length → (headerOf bs).opcode ∈ [WS_OPCODE_CONTINUATION, WS_OPCODE_TEXT,
    WS_OPCODE_BINARY, WS_OPCODE_CLOSE, WS_OPCODE_PING, WS_OPCODE_PONG]
  length : 2 ≤ bs.length → LengthFits bs

theorem hopeful_of_known {rest : List UInt8} (hk : Known (headerOf (bs ++ rest))) : Hopeful bs := by
  refine ⟨fun h2 => ?_, fun h2 => ?_, fun h2 hlen => ?_⟩
  · have h0 := hk.rsv
    simp only [headerOf, getD_append_left rest (show 0 < bs.length by omega)] at h0
    exact h0
  · have h0 := hk.opcode
    simp only [headerOf, getD_append_left rest (show 0 < bs.length by omega)] at h0
    exact h0
  · have h0 := hk.length
    simp only [headerOf, headerLength_append h2 hlen] at h0
    exact h0

theorem frameOpcode_known (h : scb.data 0 &&& 0x0f ∈ [WS_OPCODE_CONTINUATION, WS_OPCODE_TEXT,
    WS_OPCODE_BINARY, WS_OPCODE_CLOSE, WS_OPCODE_PING, WS_OPCODE_PONG]) :
    frameOpcode scb = some (resolve scb.wcb.opcode (scb.data 0 &&& 0x0f)) := by
  simp only [List.mem_cons, List.not_mem_nil, or_false] at h
  rw [frameOpcode, resolve]
  rcases h with h | h | h | h | h | h <;> rw [h] <;> rfl

theorem readMask_kept (scb : CoSocketCb) :
    (readMask scb).2.wcb.opcode = scb.wcb.opcode ∧
      (readMask scb).2.wcb.skipFrame = scb.wcb.skipFrame := by
  rw [readMask]
  split
  next => split <;> exact ⟨rfl, rfl⟩
  next => exact ⟨rfl, rfl⟩

theorem readExtendLength_kept {scb' : CoSocketCb} (h : readExtendLength scb = .ok scb') :
    scb'.wcb.opcode = scb.wcb.opcode ∧ scb'.wcb.skipFrame = scb.wcb.skipFrame := by
  rw [readExtendLength] at h
  repeat' split at h
  all_goals cases h
  all_goals exact ⟨rfl, rfl⟩

theorem readRest_kept {scb' : CoSocketCb} (h : readRest scb = (.ok, scb')) :
    scb'.wcb.opcode = scb.wcb.opcode ∧ scb'.wcb.skipFrame = scb.wcb.skipFrame := by
  rw [readRest] at h
  cases hl : readExtendLength scb with
  | error r =>
      rw [hl] at h
      rcases readExtendLength_error hl with hfail | ⟨rfl, -, -⟩
      · exact absurd (hfail.symm.trans (congrArg Prod.fst h)) (by simp)
      · cases h
        exact ⟨rfl, rfl⟩
  | ok scb₁ =>
      rw [hl] at h
      have hmask := readMask_kept scb₁
      have hlen := readExtendLength_kept hl
      rw [show readMask scb₁ = (.ok, scb') from h] at hmask
      exact ⟨hmask.1.trans hlen.1, hmask.2.trans hlen.2⟩

variable {d : Dispatch} {s : Session}

theorem headerLeft_of_rest {scb₀ : CoSocketCb} (hskip : scb₀.wcb.skipFrame = d.skip)
    (hop : scb₀.wcb.opcode = (headerOf bs).opcode)
    (hrest : ∃ scb₁, readRest scb₀ = (.ok, scb₁) ∧ HeaderResult bs scb scb₁)
    (hproc : coWebsocketProcessHeader scb =
      readRest (relabel (resolve d.opcode (headerOf bs).opcode) scb₀)) :
    ∃ scb', coWebsocketProcessHeader scb = (.ok, scb') ∧ HeaderLeft d bs scb scb' := by
  obtain ⟨scb₁, heq, hr⟩ := hrest
  have hkept := readRest_kept heq
  have hstatus := readRest_status heq
  rw [readRest_relabel, heq] at hproc
  refine ⟨_, hproc, ?_, ?_, hkept.2.trans hskip⟩
  · have hself : relabel (headerOf bs).opcode scb₁ = scb₁ := relabel_self (hkept.1.trans hop)
    exact hself.symm ▸ hr
  · exact (if_neg hstatus).symm

theorem AtHeader.process (ha : AtHeader d s) (hp : Hopeful (pending s.scb)) :
    ∃ scb', coWebsocketProcessHeader s.scb = (.ok, scb') ∧
      HeaderLeft d (pending s.scb) s.scb scb' := by
  by_cases h2 : 2 ≤ (pending s.scb).length
  · by_cases hs : s.scb.status = .websocketHeader
    · have h0 : s.scb.data 0 = (pending s.scb).getD 0 0 := data_pending (by omega)
      have hown : s.scb.data 0 &&& 0x0f = (headerOf (pending s.scb)).opcode := by rw [h0]; rfl
      have hop := frameOpcode_known (hown ▸ hp.opcode h2)
      have hread := readHeader_stores hs ha.fits h2 (hp.rsv h2) hop
      obtain ⟨hsame, hafter⟩ := storeHeader_after hs h2
      have hopcode := ha.opcode
      rw [if_pos hs] at hopcode
      refine @headerLeft_of_rest _ _ d (storeHeader s.scb (s.scb.data 0 &&& 0x0f)) ha.skip hown ?_ ?_
      · rw [← hsame.pending_eq] at hafter
        obtain ⟨scb₁, heq, hr⟩ := readRest_afterHeader (hsame.fits ha.fits)
          (hsame.pending_eq ▸ hp.length h2) hafter
        rw [hsame.pending_eq] at hr
        exact ⟨scb₁, heq, hsame.trans hr.same, hr.done, hr.wait⟩
      · rw [coWebsocketProcessHeader_ok hread, hopcode, hown]
        rfl
    · have hopcode := ha.opcode
      rw [if_neg hs] at hopcode
      refine @headerLeft_of_rest _ _ d (relabel (headerOf (pending s.scb)).opcode s.scb) ha.skip rfl
        ?_ ?_
      · obtain ⟨scb₁, heq, hr⟩ := @readRest_progress
          (relabel (headerOf (pending s.scb)).opcode s.scb) ha.fits (hp.length h2) hs ha.progress
        have hsame : SameBuffer s.scb scb₁ := ⟨hr.same.addr, hr.same.buf, hr.same.remainingLen⟩
        exact ⟨scb₁, heq, hsame, hr.done, hr.wait⟩
      · rw [coWebsocketProcessHeader_ok (readHeader_skip hs), ← hopcode]
        rfl
  · have hs : s.scb.status = .websocketHeader := ha.progress.status_of_short h2
    have hrem := pending_length ha.fits
    have heq : coWebsocketProcessHeader s.scb = (.ok, s.scb) := by
      rw [coWebsocketProcessHeader, readHeader_short hs (by omega)]
      rfl
    refine ⟨s.scb, heq, ?_, ha.opcode, ha.skip⟩
    exact ha.progress.result (fun hc => h2 hc.1) ⟨rfl, rfl, rfl⟩

/-- The session is about to process the next part of the frame `f`. -/
structure Loaded (f : CutFrame) (d : Dispatch) (s : Session) : Prop extends AtPayload s.scb where
  complete : Complete f.head
  opcode : s.scb.wcb.opcode = d.opcode
  skip : s.scb.wcb.skipFrame = d.skip
  mask : s.scb.wcb.mask = f.header.key.isSome
  payloadLen : s.scb.wcb.payloadLen + f.earlier.flatten.length = f.header.length
  key : d.opcode ≠ WS_OPCODE_PING → ∀ k, f.header.key = some k → ∀ i,
    byteOf s.scb.wcb.maskVal (i % 4) = k.getD ((f.earlier.flatten.length + i) % 4) 0
  front : f.earlier = [] → pending s.scb = f.head ++ unread s.scb
  cb : s.cb = ⟨none, 0⟩

/-- The position of a session between two calls in the frames it has received. -/
inductive Sim : Current → Dispatch → Session → Prop
  | head {seen : List UInt8} {d : Dispatch} {s : Session} (sim : AtHeader d s)
      (pending : pending s.scb = seen) (incomplete : ¬ Complete seen) : Sim (.head seen) d s
  | body {f : CutFrame} {d : Dispatch} {s : Session} (sim : Loaded f.cut d s)
      (remainingLen : s.scb.remainingLen = 0) (readLen : s.scb.readLen = 0) : Sim (.body f) d s

theorem take_headerSize_complete (hc : Complete bs) : Complete (bs.take (headerSize bs)) ∧
    headerOf (bs.take (headerSize bs)) = headerOf bs := by
  have hlen : (bs.take (headerSize bs)).length = headerSize bs := List.length_take_of_le hc.2
  have htwo := two_le_headerSize bs
  have hsplit := List.take_append_drop (headerSize bs) bs
  have hsize := headerSize_append (s := bs.take (headerSize bs)) (bs.drop (headerSize bs))
    (by omega)
  rw [hsplit] at hsize
  have htake : Complete (bs.take (headerSize bs)) := ⟨by omega, by omega⟩
  have hhead := headerOf_append htake (bs.drop (headerSize bs))
  rw [hsplit] at hhead
  exact ⟨htake, hhead.symm⟩

theorem HeaderLeft.room {scb' : CoSocketCb} (hl : HeaderLeft d bs scb scb') (hr : Room scb) :
    Room scb' := by
  have hroom := room_of_result hl.result hr
  exact ⟨hroom.size, hroom.fits⟩

theorem HeaderLeft.pending_eq {scb' : CoSocketCb} (hl : HeaderLeft d bs scb scb') :
    pending scb' = pending scb := hl.result.same.pending_eq

theorem AtHeader.round_done (ha : AtHeader d s) (hp : Hopeful (pending s.scb))
    (hc : Complete (pending s.scb)) :
    ∃ s', processHeaderRound s = (.ok, s') ∧
      Loaded ⟨(pending s.scb).take (headerSize (pending s.scb)), [], []⟩
        (d.under (headerOf (pending s.scb))) s' ∧
      unread s'.scb = (pending s.scb).drop (headerSize (pending s.scb)) ∧
      s'.log = s.log ++ [headerEvent d (headerOf (pending s.scb))] := by
  obtain ⟨scb', heq, hl⟩ := ha.process hp
  have hd := hl.result.done hc
  have hstatus : scb'.status = .websocketPayload := hd.status
  have hread : scb'.readLen = headerSize (pending s.scb) := hd.readLen
  have hlen : scb'.wcb.payloadLen = (headerOf (pending s.scb)).length := hd.payloadLen
  have hop := hl.opcode
  rw [hstatus, if_neg (by simp)] at hop
  have hmask : scb'.wcb.mask = (headerOf (pending s.scb)).key.isSome := by
    have hm : scb'.wcb.mask = maskBit ((pending s.scb).getD 1 0) := hd.mask
    rw [hm]
    exact (isSome_headerKey _).symm
  have hround : processHeaderRound s = (.ok, ({ s with scb := scb' } : Session).emit
      (.header scb'.wcb.fin scb'.wcb.opcode scb'.wcb.mask scb'.wcb.payloadLen)) := by
    have hs : s.scb.status ≠ .websocketPayload := ha.progress.not_payload
    rw [processHeaderRound, if_pos hs, heq]
    exact if_pos ⟨rfl, hstatus⟩
  have hunread : unread scb' = (pending s.scb).drop (headerSize (pending s.scb)) := by
    rw [unread, hl.pending_eq, hread]
  obtain ⟨hcomplete, hhead⟩ := take_headerSize_complete hc
  have hroom := hl.room ha.toRoom
  refine ⟨_, hround, ⟨⟨hroom, hstatus, ?_, .inl ?_⟩, hcomplete, hop, hl.skip, ?_, ?_, ?_, ?_, ha.cb⟩, hunread, ?_⟩
  · have hsize := hc.2
    rw [pending_length ha.fits, ← hl.result.same.remainingLen, ← hread] at hsize
    exact hsize
  · have htwo := two_le_headerSize (pending s.scb)
    rw [← hread] at htwo
    exact Nat.lt_of_lt_of_le Nat.zero_lt_two htwo
  · rw [CutFrame.header, hhead]
    exact hmask
  · rw [CutFrame.header, hhead]
    exact hlen
  · intro _ k hk i
    rw [CutFrame.header, hhead] at hk
    rw [List.flatten_nil, List.length_nil, Nat.zero_add]
    exact hd.key k hk (i % 4) (Nat.mod_lt _ (by omega))
  · intro _
    change pending scb' = _ ++ unread scb'
    rw [hl.pending_eq, hunread, List.take_append_drop]
  · have hfin : scb'.wcb.fin = (headerOf (pending s.scb)).fin := hd.fin
    simp only [Session.emit, headerEvent, hfin, hop, hmask, hlen]

theorem AtHeader.round_wait (ha : AtHeader d s) (hp : Hopeful (pending s.scb))
    (hc : ¬ Complete (pending s.scb)) :
    ∃ s', processHeaderRound s = (.ok, s') ∧ s'.scb.status ≠ .websocketPayload ∧
      Sim (.head (pending s.scb)) d s' ∧ s'.log = s.log := by
  obtain ⟨scb', heq, hl⟩ := ha.process hp
  have hw := hl.result.wait hc
  have hstatus : scb'.status ≠ .websocketPayload := hw.not_payload
  have hround : processHeaderRound s = (.ok, { s with scb := scb' }) := by
    have hs : s.scb.status ≠ .websocketPayload := ha.progress.not_payload
    rw [processHeaderRound, if_pos hs, heq]
    exact if_neg fun h => hstatus h.2
  refine ⟨_, hround, hstatus, .head ⟨hl.room ha.toRoom, ?_, ?_, hl.skip, ha.cb⟩ hl.pending_eq hc, rfl⟩
  · rw [hl.pending_eq]
    exact hw
  · rw [hl.pending_eq]
    exact hl.opcode

/-- What the handlers leave of a part. -/
structure Answered (d : Dispatch) (g : CutFrame) (pong : List UInt8) (ret : CoErr)
    (s s' : Session) : Prop where
  log : s'.log = s.log ++ (partAnswer d g pong).1
  ends : (partAnswer d g pong).2 = none → ret = .fail
  goes : ∀ d', (partAnswer d g pong).2 = some d' →
    ret = .ok ∧ Handled s.scb s'.scb ∧ s'.scb.wcb.skipFrame = d'.skip ∧ s'.cb = s.cb

/-- The handler is about to answer the part `g` with the bytes `data`. -/
structure Handing (d : Dispatch) (g : CutFrame) (data : List UInt8) (s : Session) : Prop where
  opcode : s.scb.wcb.opcode = d.opcode
  skip : s.scb.wcb.skipFrame = d.skip
  cb : s.cb = ⟨none, 0⟩
  payloadLen : s.scb.wcb.payloadLen = left g
  length : data.length ≤ left g
  data : data = handedOn d g
  buf : s.scb.buf ≠ []

variable {g : CutFrame} {data : List UInt8}

theorem Answered.on {pong : List UInt8} {es : List Event} {d' : Dispatch} {s' : Session}
    (hpart : partAnswer d g pong = (es, some d')) (hlog : s'.log = s.log ++ es)
    (hh : Handled s.scb s'.scb) (hskip : s'.scb.wcb.skipFrame = d'.skip) (hcb : s'.cb = s.cb) :
    Answered d g pong .ok s s' := by
  refine ⟨?_, ?_, ?_⟩
  · rw [hpart]; exact hlog
  · rw [hpart]; simp
  · intro d₁ hd
    rw [hpart] at hd
    cases hd
    exact ⟨rfl, hh, hskip, hcb⟩

theorem Answered.off {pong : List UInt8} {es : List Event} {s' : Session}
    (hpart : partAnswer d g pong = (es, none)) (hlog : s'.log = s.log ++ es) :
    Answered d g pong .fail s s' := by
  refine ⟨?_, fun _ => rfl, ?_⟩
  · rw [hpart]; exact hlog
  · rw [hpart]; simp

theorem Handing.text (h : Handing d g data s) (hop : d.opcode = WS_OPCODE_TEXT)
    (pong : List UInt8) :
    Answered d g pong (processTextPayload s data).1 s (processTextPayload s data).2 := by
  have hdata : g.data = data := by
    rw [h.data, handedOn, if_neg (by rw [hop]; decide)]
  have hpart : partAnswer d g pong = textPart d data s.scb.wcb.payloadLen := by
    rw [partAnswer, if_pos hop, hdata, h.payloadLen]
  have hlen := h.length
  rw [← h.payloadLen] at hlen
  have hoff : s.cb.recvDataOffset = 0 := by rw [h.cb]
  have hrecv : s.cb.recvData = none := by rw [h.cb]
  have hskip := h.skip
  rw [processTextPayload]
  simp only [hoff, hrecv, Nat.sub_zero, and_true]
  rw [textPart] at hpart
  by_cases hs : d.skip = true
  · rw [hs] at hskip
    rw [if_pos hs] at hpart
    rw [if_pos hskip]
    split
    next heq =>
      exact .on hpart (List.append_nil _).symm ⟨s.scb.buf, false, rfl, rfl, rfl⟩ (by simp [heq]) rfl
    next hne => exact .on hpart (List.append_nil _).symm (Handled.refl _) (by simp [hskip, hne]) rfl
  · rw [Bool.not_eq_true] at hs
    rw [hs] at hskip
    rw [if_neg (by rw [hs]; decide)] at hpart
    rw [if_neg (by rw [hskip]; decide)]
    by_cases heq : data.length = s.scb.wcb.payloadLen
    · rw [if_pos heq] at hpart ⊢
      exact .on hpart rfl (Handled.refl _) h.skip rfl
    · rw [if_neg heq] at hpart ⊢
      by_cases hbig : data.length > CONFIG_CO_WS_TEXT_BUFFER_SIZE
      · rw [if_pos hbig] at hpart ⊢
        refine .on hpart rfl ⟨s.scb.buf, _, rfl, rfl, rfl⟩ (if_pos (by omega)) ?_
        simp only [Session.emit, h.cb]
      · rw [if_neg hbig] at hpart ⊢
        by_cases hpos : 0 < data.length
        · rw [if_pos hpos] at hpart
          rw [if_pos hpos]
          exact .off hpart rfl
        · rw [if_neg hpos] at hpart
          rw [if_neg hpos, if_neg heq]
          exact .on hpart (List.append_nil _).symm (Handled.refl _) h.skip rfl

def sentPong (scb : CoSocketCb) : List UInt8 :=
  (overwrite scb.buf 0 [WS_FIN ||| WS_OPCODE_PONG]).take
    (2 + scb.wcb.payloadLen + (if scb.wcb.mask then 4 else 0))

theorem Handing.opcodes (h : Handing d g data s) :
    Answered d g (sentPong s.scb) (processOpcode s data).1 s (processOpcode s data).2 := by
  have hquiet : s.log = s.log ++ [] := (List.append_nil _).symm
  rw [processOpcode, h.opcode]
  by_cases ht : d.opcode = WS_OPCODE_TEXT
  · rw [if_pos ht]
    exact h.text ht _
  · have hpart : partAnswer d g (sentPong s.scb) = partAnswer d g (sentPong s.scb) := rfl
    conv at hpart => rhs; rw [partAnswer, if_neg ht]
    rw [if_neg ht]
    by_cases hb : d.opcode = WS_OPCODE_BINARY
    · have hdata : data = g.data := by
        rw [h.data, handedOn, if_neg (by rw [hb]; decide)]
      rw [if_pos hb] at hpart ⊢
      refine .on hpart ?_ (Handled.refl _) h.skip rfl
      rw [hdata]
      rfl
    · rw [if_neg hb] at hpart ⊢
      by_cases hp : d.opcode = WS_OPCODE_PING
      · rw [if_pos hp] at hpart ⊢
        exact .on hpart rfl (processPing_handled h.buf) h.skip rfl
      · rw [if_neg hp] at hpart ⊢
        by_cases hq : d.opcode = WS_OPCODE_PONG
        · rw [if_pos hq] at hpart ⊢
          exact .on hpart hquiet (Handled.refl _) h.skip rfl
        · rw [if_neg hq] at hpart ⊢
          by_cases hc : d.opcode = WS_OPCODE_CLOSE
          · rw [if_pos hc] at hpart ⊢
            exact .off hpart rfl
          · rw [if_neg hc] at hpart ⊢
            exact .on hpart hquiet (Handled.refl _) h.skip rfl

theorem Loaded.reading {f : CutFrame} (hl : Loaded f d s) : Reading s.scb := ⟨hl.toRoom, hl.readLen⟩

theorem Loaded.masking {f : CutFrame} (hl : Loaded f d s) (hop : d.opcode ≠ WS_OPCODE_PING) :
    Masking f.header.key f.earlier.flatten.length s.scb := by
  refine ⟨hl.mask, ?_, hl.key hop⟩
  rw [hl.opcode]
  exact hop

theorem Loaded.left_eq {f : CutFrame} (hl : Loaded f d s) :
    left (f.withLast s.scb.chunk) = s.scb.wcb.payloadLen := by
  have hlen := hl.payloadLen
  rw [left, withLast_header, withLast_earlier]
  omega

theorem Loaded.data_eq {f : CutFrame} (hl : Loaded f d s) :
    ((unmaskChunk s.scb).buf.drop (unmaskChunk s.scb).readLen).take (chunkLen s.scb) =
      handedOn d (f.withLast s.scb.chunk) := by
  rw [unmaskChunk_readLen, handedOn]
  by_cases hop : d.opcode = WS_OPCODE_PING
  · rw [unmaskChunk_ping (hl.opcode.trans hop), if_pos hop, withLast_last]
    rfl
  · rw [(hl.masking hop).unmaskChunk_data hl.reading, if_neg hop, CutFrame.data, withLast_header,
      withLast_earlier, withLast_last]

theorem handedOn_length (d : Dispatch) (g : CutFrame) : (handedOn d g).length = g.last.length := by
  rw [handedOn, CutFrame.data]
  split
  · rfl
  · rw [unmask_length]

def handOn (s : Session) (data : List UInt8) : Session :=
  ({ s with scb := unmaskChunk s.scb } : Session).emit (.payload data)

theorem Loaded.handing {f : CutFrame} (hl : Loaded f d s) :
    Handing d (f.withLast s.scb.chunk) (handedOn d (f.withLast s.scb.chunk))
      (handOn s (handedOn d (f.withLast s.scb.chunk))) := by
  refine ⟨?_, ?_, hl.cb, ?_, ?_, rfl, ?_⟩
  · exact (unmaskChunk_opcode s.scb).trans hl.opcode
  · obtain ⟨_, _, hform⟩ := unmaskChunk_form s.scb
    have hskip : (unmaskChunk s.scb).wcb.skipFrame = s.scb.wcb.skipFrame := by rw [hform]; rfl
    exact hskip.trans hl.skip
  · exact (unmaskChunk_payloadLen s.scb).trans hl.left_eq.symm
  · have hlen := hl.reading.chunkLen_eq
    rw [handedOn_length, withLast_last, hl.reading.chunk_length, hl.left_eq]
    omega
  · intro hnil
    have hsize := hl.toAtPayload.unmasked.size
    rw [show (unmaskChunk s.scb).buf = [] from hnil] at hsize
    exact absurd hsize (by decide)

theorem overwrite_zero {buf : List UInt8} (x : UInt8) {n : Nat} (h : n ≤ buf.length) :
    (overwrite buf 0 [x]).take n = (x :: (buf.take n).tail).take n := by
  cases n with
  | zero => rfl
  | succ n =>
      cases buf with
      | nil => simp at h
      | cons b bs => simp [overwrite, List.take_take]

theorem Loaded.pong_eq {f : CutFrame} (hl : Loaded f d s) (hop : d.opcode = WS_OPCODE_PING)
    (hwhole : Whole (f.withLast s.scb.chunk)) :
    sentPong (unmaskChunk s.scb) = pongOf (f.withLast s.scb.chunk) := by
  obtain ⟨hearlier, hlast⟩ := hwhole
  rw [withLast_earlier] at hearlier
  rw [withLast_header, withLast_last] at hlast
  have hpay := hl.payloadLen
  rw [hearlier, List.flatten_nil, List.length_nil, Nat.add_zero] at hpay
  have hkey : f.header.key.isSome = maskBit (f.head.getD 1 0) := isSome_headerKey _
  have hhead : 2 + (if f.header.key.isSome then 4 else 0) ≤ f.head.length := by
    have hsize := hl.complete.2
    rw [headerSize, keySize, ← hkey] at hsize
    omega
  -- the buffer starts with the header and the chunk
  have hpre : f.head ++ s.scb.chunk <+: s.scb.buf := by
    have hchunk : s.scb.chunk <+: unread s.scb := by
      rw [hl.reading.chunk_eq]
      exact List.take_prefix _ _
    have hpend : f.head ++ s.scb.chunk <+: pending s.scb := by
      rw [hl.front hearlier]
      exact (List.prefix_append_right_inj _).mpr hchunk
    exact hpend.trans (List.take_prefix _ _)
  have hfit : 2 + f.header.length + (if f.header.key.isSome then 4 else 0) ≤
      (f.head ++ s.scb.chunk).length := by
    rw [List.length_append]
    omega
  rw [unmaskChunk_ping (hl.opcode.trans hop), sentPong, hpay, hl.mask, pongOf, withLast_header,
    withLast_head, withLast_last]
  generalize 2 + f.header.length + (if f.header.key.isSome then 4 else 0) = n at hfit ⊢
  obtain ⟨rest, hrest⟩ := hpre
  rw [overwrite_zero _ (by rw [← hrest, List.length_append]; omega), ← hrest,
    List.take_append_of_le_length hfit]
  generalize f.head ++ s.scb.chunk = ys at hfit ⊢
  cases n with
  | zero => rfl
  | succ n =>
      cases ys with
      | nil => simp at hfit
      | cons y ys => simp [List.take_take]

structure Emptied (scb scb' : CoSocketCb) : Prop where
  buf : scb'.buf = scb.buf
  readLen : scb'.readLen = 0
  remainingLen : scb'.remainingLen = 0
  opcode : scb'.wcb.opcode = scb.wcb.opcode
  mask : scb'.wcb.mask = scb.wcb.mask
  maskVal : scb'.wcb.maskVal = scb.wcb.maskVal
  skip : scb'.wcb.skipFrame = scb.wcb.skipFrame

theorem finishChunk_emptied_part {scb : CoSocketCb} {len : Nat} (hr : Room scb)
    (hread : scb.readLen ≤ scb.remainingLen) (hend : scb.remainingLen ≤ scb.readLen + len)
    (hpart : len < scb.wcb.payloadLen) :
    ∃ scb', finishChunk scb len = (.ok, scb') ∧ Emptied scb scb' ∧ scb'.status = scb.status ∧
      scb'.wcb.payloadLen = scb.wcb.payloadLen - len :=
  ⟨_, finishChunk_part hr hread hend hpart, ⟨rfl, rfl, rfl, rfl, rfl, rfl, rfl⟩, rfl, rfl⟩

theorem finishChunk_emptied_full {scb : CoSocketCb} {len : Nat} (hr : Room scb)
    (hread : scb.readLen ≤ scb.remainingLen) (hend : scb.remainingLen ≤ scb.readLen + len)
    (hfull : scb.wcb.payloadLen ≤ len) :
    ∃ scb', finishChunk scb len = (.ok, scb') ∧ Emptied scb scb' ∧
      scb'.status = .websocketHeader :=
  ⟨_, finishChunk_full hr hread hend hfull, ⟨rfl, rfl, rfl, rfl, rfl, rfl, rfl⟩, rfl⟩

theorem Emptied.room {scb scb' : CoSocketCb} (he : Emptied scb scb') (hr : Room scb) :
    Room scb' := by
  refine ⟨?_, ?_⟩
  · rw [he.buf]
    exact hr.size
  · rw [he.remainingLen]
    exact Nat.zero_le _

theorem finishChunk_kept (scb : CoSocketCb) (len : Nat) :
    (finishChunk scb len).2.wcb.opcode = scb.wcb.opcode ∧
      (finishChunk scb len).2.wcb.skipFrame = scb.wcb.skipFrame := by
  rw [finishChunk]
  split
  next => exact ⟨rfl, rfl⟩
  next => split <;> exact ⟨rfl, rfl⟩

theorem finishChunk_fresh {scb scb' : CoSocketCb} {len : Nat}
    (h : finishChunk scb len = (.ioPending, scb')) :
    scb'.status = .websocketHeader ∧ scb'.readLen = 0 := by
  rw [finishChunk] at h
  split at h
  next =>
    cases h
    exact ⟨rfl, rfl⟩
  next => split at h <;> cases h

theorem handled_pending_drop {scb scb' : CoSocketCb} (h : Handled scb scb') {n : Nat}
    (hn : 0 < n) : (pending scb').drop n = (pending scb).drop n := by
  obtain ⟨buf, skip, rfl, -, hdrop⟩ := h
  obtain ⟨m, rfl⟩ := Nat.exists_eq_add_of_lt hn
  have hbuf : buf.drop (0 + m + 1) = scb.buf.drop (0 + m + 1) := by
    rw [Nat.zero_add, Nat.add_comm m 1, ← List.drop_drop, hdrop, List.drop_drop]
  rw [pending, pending, List.drop_take, List.drop_take, hbuf]

theorem Loaded.rest_eq {f : CutFrame} (hl : Loaded f d s) :
    (pending (unmaskChunk s.scb)).drop (s.scb.readLen + chunkLen s.scb) = chunkRest s.scb := by
  by_cases hop : d.opcode = WS_OPCODE_PING
  · rw [unmaskChunk_ping (hl.opcode.trans hop), chunkRest, unread, List.drop_drop]
  · have hrest := (hl.masking hop).rest_eq hl.reading
    rw [unmaskChunk_readLen] at hrest
    exact hrest

/-- What is left of the part `g` when the session goes on with `rest` in the buffer. -/
structure PartLeft (g : CutFrame) (rest : List UInt8) (d : Dispatch) (ret : CoErr)
    (s : Session) : Prop where
  more : rest ≠ [] → ret = .ioPending ∧ AtHeader d s ∧ pending s.scb = rest ∧
    g.header.length = g.body.length
  last : rest = [] → ret = .ok ∧ ∀ done, Sim (close done g).current d s

theorem withLast_body_length (f : CutFrame) (xs : List UInt8) :
    (f.withLast xs).body.length = f.earlier.flatten.length + xs.length := by
  rw [CutFrame.body, withLast_earlier, withLast_last, List.length_append]

/-- The block behind the handlers, before the chunk is taken out of the buffer. -/
structure Behind (f : CutFrame) (d' : Dispatch) (s : Session) (scb : CoSocketCb) : Prop
    extends AtPayload scb where
  remainingLen : scb.remainingLen = s.scb.remainingLen
  readLen_eq : scb.readLen = s.scb.readLen
  payloadLen : scb.wcb.payloadLen = s.scb.wcb.payloadLen
  opcode : scb.wcb.opcode = d'.opcode
  skip : scb.wcb.skipFrame = d'.skip
  mask : scb.wcb.mask = f.header.key.isSome
  maskVal : scb.wcb.maskVal = (unmaskChunk s.scb).wcb.maskVal
  rest : 0 < s.scb.readLen + chunkLen s.scb →
    (pending scb).drop (s.scb.readLen + chunkLen s.scb) = chunkRest s.scb

theorem Loaded.behind {f : CutFrame} (hl : Loaded f d s) {d' : Dispatch} {scb : CoSocketCb}
    (hop : d'.opcode = d.opcode) (hh : Handled (unmaskChunk s.scb) scb)
    (hskip : scb.wcb.skipFrame = d'.skip) : Behind f d' s scb := by
  have hat := hl.toAtPayload.unmasked.handled hh
  have hrest : 0 < s.scb.readLen + chunkLen s.scb →
      (pending scb).drop (s.scb.readLen + chunkLen s.scb) = chunkRest s.scb := by
    intro hn
    rw [handled_pending_drop hh hn, hl.rest_eq]
  obtain ⟨_, _, rfl, -, -⟩ := hh
  exact ⟨hat, unmaskChunk_remainingLen s.scb, unmaskChunk_readLen s.scb,
    unmaskChunk_payloadLen s.scb, (unmaskChunk_opcode s.scb).trans (hl.opcode.trans hop.symm), hskip,
    (unmaskChunk_mask s.scb).trans hl.mask, rfl, hrest⟩

variable {f : CutFrame} {d' : Dispatch} (log : List Event)

theorem Loaded.lengths (hl : Loaded f d s) :
    chunkLen s.scb = min (s.scb.remainingLen - s.scb.readLen) s.scb.wcb.payloadLen ∧
      (chunkRest s.scb).length = s.scb.remainingLen - s.scb.readLen - chunkLen s.scb ∧
      (f.withLast s.scb.chunk).body.length = f.earlier.flatten.length + chunkLen s.scb := by
  have hlen := hl.reading.chunkLen_eq
  rw [unread_length hl.toRoom] at hlen
  exact ⟨hlen, chunkRest_length hl.toRoom, by rw [withLast_body_length, hl.reading.chunk_length]⟩

theorem Behind.more (hb : Behind f d' s scb) (hl : Loaded f d s) (hne : chunkRest s.scb ≠ []) :
    ∃ scb', finishChunk scb (chunkLen s.scb) = (.ioPending, scb') ∧
      AtHeader d' { s with scb := scb', log := log } ∧ pending scb' = chunkRest s.scb ∧
      f.header.length = (f.withLast s.scb.chunk).body.length := by
  obtain ⟨hlen, hrest, hbody⟩ := hl.lengths
  have hpos := List.length_pos_iff.mpr hne
  have hrem := hb.remainingLen
  have hread := hb.readLen_eq
  have hpay := hl.payloadLen
  have hmoves := hl.moves
  obtain ⟨scb', hf, hroom, hprog, hdrop⟩ := @finishChunk_more _ (chunkLen s.scb) hb.toRoom
    hb.readLen (by omega)
  obtain ⟨hstatus, hzero⟩ := finishChunk_fresh hf
  have hkept := finishChunk_kept scb (chunkLen s.scb)
  rw [hf] at hkept
  rw [hread, hb.rest (by omega)] at hdrop
  refine ⟨scb', hf, ⟨hroom, .start hstatus hzero, ?_, hkept.2.trans hb.skip, hl.cb⟩, hdrop, ?_⟩
  · rw [if_pos hstatus]
    exact hkept.1.trans hb.opcode
  · omega

theorem sim_body {g : CutFrame} (hrem : scb.remainingLen = 0) (hread : scb.readLen = 0)
    (hat : AtPayload scb) (hcomplete : Complete g.head) (hop : scb.wcb.opcode = d'.opcode)
    (hskip : scb.wcb.skipFrame = d'.skip) (hmask : scb.wcb.mask = g.header.key.isSome)
    (hlen : scb.wcb.payloadLen + g.cut.earlier.flatten.length = g.header.length)
    (hkey : d'.opcode ≠ WS_OPCODE_PING → ∀ k, g.header.key = some k → ∀ i,
      byteOf scb.wcb.maskVal (i % 4) = k.getD ((g.cut.earlier.flatten.length + i) % 4) 0)
    (hcb : s.cb = ⟨none, 0⟩) : Sim (.body g) d' { s with scb := scb, log := log } := by
  refine .body ⟨hat, hcomplete, hop, hskip, hmask, hlen, hkey, fun hnone => ?_, hcb⟩ hrem hread
  rw [cut_earlier] at hnone
  exact absurd hnone (by simp)

theorem Behind.part (hb : Behind f d' s scb) (hl : Loaded f d s) (hop : d'.opcode = d.opcode)
    (hnil : chunkRest s.scb = []) (hpart : chunkLen s.scb < s.scb.wcb.payloadLen) :
    ∃ scb', finishChunk scb (chunkLen s.scb) = (.ok, scb') ∧
      Sim (.body (f.withLast s.scb.chunk)) d' { s with scb := scb', log := log } := by
  obtain ⟨-, hrest, -⟩ := hl.lengths
  rw [hnil, List.length_nil] at hrest
  have hrem := hb.remainingLen
  have hread := hb.readLen_eq
  have hpl := hb.payloadLen
  have hpay := hl.payloadLen
  have hcut : (f.withLast s.scb.chunk).cut.earlier.flatten.length =
      f.earlier.flatten.length + chunkLen s.scb := by
    rw [cut_earlier, withLast_earlier, withLast_last, List.flatten_append, List.length_append,
      List.flatten_singleton, hl.reading.chunk_length]
  obtain ⟨scb', hf, he, hstatus, hleft⟩ := @finishChunk_emptied_part _ (chunkLen s.scb)
    hb.toRoom hb.readLen (by omega) (by omega)
  refine ⟨scb', hf, sim_body log he.remainingLen he.readLen ⟨he.room hb.toRoom,
    hstatus.trans hb.status, Nat.le_of_eq (he.readLen.trans he.remainingLen.symm), ?_⟩ ?_
    (he.opcode.trans hb.opcode) (he.skip.trans hb.skip) ?_ ?_ ?_ hl.cb⟩
  · exact .inr (by rw [hleft]; omega)
  · rw [withLast_head]
    exact hl.complete
  · rw [withLast_header]
    exact he.mask.trans hb.mask
  · rw [hcut, withLast_header, hleft]
    omega
  · intro hping k hk i
    rw [withLast_header] at hk
    rw [hcut, he.maskVal, hb.maskVal]
    exact (hl.masking (hop ▸ hping)).unmaskChunk_key hk i

theorem Behind.full (hb : Behind f d' s scb) (hl : Loaded f d s) (hnil : chunkRest s.scb = [])
    (hfull : ¬ chunkLen s.scb < s.scb.wcb.payloadLen) :
    ∃ scb', finishChunk scb (chunkLen s.scb) = (.ok, scb') ∧
      Sim (.head []) d' { s with scb := scb', log := log } := by
  obtain ⟨-, hrest, -⟩ := hl.lengths
  rw [hnil, List.length_nil] at hrest
  have hrem := hb.remainingLen
  have hread := hb.readLen_eq
  have hpl := hb.payloadLen
  obtain ⟨scb', hf, he, hstatus⟩ := @finishChunk_emptied_full _ (chunkLen s.scb)
    hb.toRoom hb.readLen (by omega) (by omega)
  refine ⟨scb', hf, .head ⟨he.room hb.toRoom, .start hstatus he.readLen, ?_,
    he.skip.trans hb.skip, hl.cb⟩ ?_ not_complete_nil⟩
  · rw [if_pos hstatus]
    exact he.opcode.trans hb.opcode
  · rw [pending, he.remainingLen]
    exact List.take_zero

theorem Loaded.finish (hl : Loaded f d s) (hop : d'.opcode = d.opcode)
    (hb : Behind f d' s scb) :
    PartLeft (f.withLast s.scb.chunk) (chunkRest s.scb) d' (finishChunk scb (chunkLen s.scb)).1
      { s with scb := (finishChunk scb (chunkLen s.scb)).2, log := log } := by
  obtain ⟨hlen, -, hbody⟩ := hl.lengths
  have hpay := hl.payloadLen
  have hheader := withLast_header f s.scb.chunk
  have hmore := fun hne => hb.more log hl hne
  have hpart := hb.part log hl hop
  have hfull := hb.full log hl
  generalize f.withLast s.scb.chunk = g at *
  refine ⟨fun hne => ?_, fun hnil => ?_⟩
  · obtain ⟨scb', hf, hat, hpend, hlength⟩ := hmore hne
    rw [hf]
    exact ⟨rfl, hat, hpend, (congrArg Header.length hheader).trans hlength⟩
  · by_cases hless : chunkLen s.scb < s.scb.wcb.payloadLen
    · obtain ⟨scb', hf, hsim⟩ := hpart hnil hless
      rw [hf]
      refine ⟨rfl, fun done => ?_⟩
      rw [close_part (by rw [hheader]; omega)]
      exact hsim
    · obtain ⟨scb', hf, hsim⟩ := hfull hnil hless
      rw [hf]
      refine ⟨rfl, fun done => ?_⟩
      rw [close_full (by rw [hheader]; omega)]
      exact hsim

def afterOpcode (len : Nat) : CoErr × Session → CoErr × Session
  | (.fail, s) => (.fail, s)
  | (_, s) => ((finishChunk s.scb len).1, { s with scb := (finishChunk s.scb len).2 })

theorem Loaded.process (hl : Loaded f d s) :
    ∃ es r ret s', Step d (.part (f.withLast s.scb.chunk)) es r ∧
      coWebsocketProcessPayload s = (ret, s') ∧ s'.log = s.log ++ es ∧
      (r = none → ret = .fail) ∧
      ∀ d', r = some d' → PartLeft (f.withLast s.scb.chunk) (chunkRest s.scb) d' ret s' := by
  generalize hg : f.withLast s.scb.chunk = g
  have hhand := hl.handing.opcodes
  have hwhole : d.opcode = WS_OPCODE_PING → Whole g → sentPong (unmaskChunk s.scb) = pongOf g := by
    intro hop hw
    rw [← hg] at hw ⊢
    exact hl.pong_eq hop hw
  have hdata := hl.data_eq
  rw [hg] at hhand hdata
  have hstep := Step.part d g (sentPong (unmaskChunk s.scb)) hwhole
  have heq : coWebsocketProcessPayload s =
      afterOpcode (chunkLen s.scb) (processOpcode (handOn s (handedOn d g)) (handedOn d g)) := by
    rw [← hdata]
    rfl
  cases hp : processOpcode (handOn s (handedOn d g)) (handedOn d g) with
  | mk ret s₁ =>
      rw [hp] at hhand heq
      have hlog : s₁.log = s.log ++ (.payload (handedOn d g) ::
          (partAnswer d g (sentPong (unmaskChunk s.scb))).1) := by
        refine hhand.log.trans ?_
        rw [handOn, Session.emit, List.append_assoc]
        rfl
      cases hr : (partAnswer d g (sentPong (unmaskChunk s.scb))).2 with
      | none =>
          have hfail : ret = .fail := hhand.ends hr
          rw [hfail] at heq
          exact ⟨_, _, _, _, hstep, heq, hlog, fun _ => rfl, fun d' hd' => by rw [hr] at hd'; cases hd'⟩
      | some d' =>
          obtain ⟨hok, hh, hskip, hcb⟩ := hhand.goes d' hr
          rw [show ret = .ok from hok] at heq
          refine ⟨_, _, _, _, hstep, heq, hlog, fun hnone => ?_, fun d₁ hd₁ => ?_⟩
          · rw [hr] at hnone
            cases hnone
          · rw [hr] at hd₁
            cases hd₁
            have hop := partAnswer_opcode hr
            have hfin := hl.finish s₁.log hop (hl.behind hop hh hskip)
            rw [hg] at hfin
            have hsame : s₁ = { s with scb := s₁.scb, log := s₁.log } := by
              have hcb' : s₁.cb = s.cb := hcb
              cases s₁
              cases hcb'
              rfl
            rw [hsame]
            exact hfin

end WirelessEsp.WebsocketStages
