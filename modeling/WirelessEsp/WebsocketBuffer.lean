import Mathlib.Logic.Relation
import WirelessEsp.WebsocketSync

namespace WirelessEsp.WebsocketBuffer

open Rfc6455 WebsocketServer WebsocketHeader WebsocketPayload WebsocketSync

def headerReads (scb : CoSocketCb) : List Nat :=
  if scb.status = .websocketHeader ∧ 2 ≤ scb.remainingLen then [0, 1] else []

def lengthReads (scb : CoSocketCb) : List Nat :=
  if scb.status = .websocketExtendLength then
    if scb.wcb.payloadLen = 126 then
      if scb.remainingLen < scb.readLen + 2 then [] else [2, 3]
    else if scb.wcb.payloadLen = 127 then
      if scb.remainingLen < scb.readLen + 8 then [] else [2, 3, 4, 5, 6, 7, 8, 9]
    else []
  else []

def maskReads (scb : CoSocketCb) : List Nat :=
  if scb.status = .websocketMask ∧ scb.readLen + 4 ≤ scb.remainingLen then
    [scb.readLen, scb.readLen + 1, scb.readLen + 2, scb.readLen + 3]
  else []

def inspects (scb : CoSocketCb) : List Nat :=
  headerReads scb ++
    match readHeader scb with
    | .error _ => []
    | .ok scb =>
        lengthReads scb ++
          match readExtendLength scb with
          | .error _ => []
          | .ok scb => maskReads scb

def withBuf (buf : List UInt8) (scb : CoSocketCb) : CoSocketCb := { scb with buf := buf }

def stageWithBuf (buf : List UInt8) :
    Except (CoErr × CoSocketCb) CoSocketCb → Except (CoErr × CoSocketCb) CoSocketCb
  | .error r => .error (r.1, withBuf buf r.2)
  | .ok scb => .ok (withBuf buf scb)

def AgreeAt (buf buf' : List UInt8) (is : List Nat) : Prop :=
  ∀ i ∈ is, buf.getD i 0 = buf'.getD i 0

variable {scb scb' : CoSocketCb} {buf : List UInt8}

theorem readHeader_congr (h : AgreeAt buf scb.buf (headerReads scb)) :
    readHeader (withBuf buf scb) = stageWithBuf buf (readHeader scb) := by
  by_cases hs : scb.status = .websocketHeader
  · by_cases hlen : scb.remainingLen < 2
    · rw [readHeader_short hs hlen, @readHeader_short (withBuf buf scb) hs hlen]
      rfl
    · rw [headerReads, if_pos ⟨hs, by omega⟩] at h
      have h0 : (withBuf buf scb).data 0 = scb.data 0 := h 0 (by simp)
      have h1 : (withBuf buf scb).data 1 = scb.data 1 := h 1 (by simp)
      have hop : frameOpcode (withBuf buf scb) = frameOpcode scb := by
        rw [frameOpcode, frameOpcode, h0]
        rfl
      have hstore (op : UInt8) : storeHeader (withBuf buf scb) op =
          withBuf buf (storeHeader scb op) := by
        rw [storeHeader, storeHeader, h0, h1]
        rfl
      have hs' : (withBuf buf scb).status = .websocketHeader := hs
      have hlen' : ¬ (withBuf buf scb).remainingLen < 2 := hlen
      rw [readHeader, readHeader, if_pos hs, if_pos hs', if_neg hlen, if_neg hlen', h0, hop]
      split
      next => rfl
      next =>
        cases frameOpcode scb with
        | none => rfl
        | some op => exact congrArg Except.ok (hstore op)
  · rw [readHeader_skip hs, @readHeader_skip (withBuf buf scb) hs]
    rfl

theorem readHeader_ok (h : readHeader scb = .ok scb') :
    (scb.status ≠ .websocketHeader ∧ scb' = scb) ∨
    (scb.status = .websocketHeader ∧ 2 ≤ scb.remainingLen ∧ ∃ op, scb' = storeHeader scb op) := by
  by_cases hs : scb.status = .websocketHeader
  · rw [readHeader, if_pos hs] at h
    split at h
    next => cases h
    next hlen =>
      split at h
      next => cases h
      next =>
        split at h
        next => cases h
        next op _ => exact .inr ⟨hs, by omega, op, (Except.ok.inj h).symm⟩
  · rw [readHeader_skip hs] at h
    exact .inl ⟨hs, (Except.ok.inj h).symm⟩

theorem readHeader_error {r : CoErr × CoSocketCb} (h : readHeader scb = .error r) :
    r.1 = .fail ∨ (r = (.ok, scb) ∧ scb.status = .websocketHeader ∧ scb.remainingLen < 2) := by
  by_cases hs : scb.status = .websocketHeader
  · rw [readHeader, if_pos hs] at h
    split at h
    next hlen => exact .inr ⟨(Except.error.inj h).symm, hs, hlen⟩
    next =>
      split at h
      next => cases h; exact .inl rfl
      next =>
        split at h
        next => cases h; exact .inl rfl
        next => cases h
  · rw [readHeader_skip hs] at h
    cases h

def Extends (scb : CoSocketCb) (n : Nat) : Prop :=
  scb.wcb.payloadLen = 126 ∧ n = 2 ∨ scb.wcb.payloadLen = 127 ∧ n = 8

theorem readExtendLength_ok (h : readExtendLength scb = .ok scb')
    (hext : scb.status = .websocketExtendLength → ∃ n, Extends scb n) :
    (scb.status ≠ .websocketExtendLength ∧ scb' = scb) ∨
    (scb.status = .websocketExtendLength ∧ ∃ n len, Extends scb n ∧
      scb.readLen + n ≤ scb.remainingLen ∧ scb' = storeLength scb (scb.readLen + n) len) := by
  by_cases hs : scb.status = .websocketExtendLength
  · refine .inr ⟨hs, ?_⟩
    rw [readExtendLength, if_pos hs] at h
    obtain ⟨n, ⟨h126, rfl⟩ | ⟨h127, rfl⟩⟩ := hext hs
    · rw [if_pos h126] at h
      split at h
      next => cases h
      next hlen =>
        exact ⟨2, _, .inl ⟨h126, rfl⟩, by omega, (Except.ok.inj h).symm⟩
    · rw [if_neg (by omega), if_pos h127] at h
      split at h
      next => cases h
      next hlen =>
        split at h
        next => cases h
        next => exact ⟨8, _, .inr ⟨h127, rfl⟩, by omega, (Except.ok.inj h).symm⟩
  · rw [readExtendLength_skip hs] at h
    exact .inl ⟨hs, (Except.ok.inj h).symm⟩

theorem readExtendLength_error {r : CoErr × CoSocketCb} (h : readExtendLength scb = .error r) :
    r.1 = .fail ∨ (r = (.ok, scb) ∧ scb.status = .websocketExtendLength ∧
      ∃ n, Extends scb n ∧ scb.remainingLen < scb.readLen + n) := by
  by_cases hs : scb.status = .websocketExtendLength
  · rw [readExtendLength, if_pos hs] at h
    split at h
    next h126 =>
      split at h
      next hlen => exact .inr ⟨(Except.error.inj h).symm, hs, 2, .inl ⟨h126, rfl⟩, hlen⟩
      next => cases h
    next =>
      split at h
      next h127 =>
        split at h
        next hlen => exact .inr ⟨(Except.error.inj h).symm, hs, 8, .inr ⟨h127, rfl⟩, hlen⟩
        next =>
          split at h
          next => cases h; exact .inl rfl
          next => cases h
      next => cases h
  · rw [readExtendLength_skip hs] at h
    cases h

theorem readHeader_same (h : readHeader scb = .ok scb') : SameBuffer scb scb' := by
  rcases readHeader_ok h with ⟨_, rfl⟩ | ⟨_, _, op, rfl⟩
  · exact .refl _
  · exact ⟨rfl, rfl, rfl⟩

theorem readExtendLength_same (h : readExtendLength scb = .ok scb') : SameBuffer scb scb' := by
  rw [readExtendLength] at h
  repeat' split at h
  all_goals cases h
  all_goals exact ⟨rfl, rfl, rfl⟩

inductive Form (scb : CoSocketCb) : Prop
  | header (status : scb.status = .websocketHeader) (readLen : scb.readLen = 0)
  | extendLength (status : scb.status = .websocketExtendLength) (readLen : scb.readLen = 2)
      (extends_ : ∃ n, Extends scb n)
  | mask (status : scb.status = .websocketMask) (readLen : 2 ≤ scb.readLen ∧ scb.readLen ≤ 10)
  | payload (status : scb.status = .websocketPayload) (readLen : scb.readLen = 0)
      (payloadLen : 0 < scb.wcb.payloadLen)

inductive Started (scb : CoSocketCb) : Prop
  | extendLength (status : scb.status = .websocketExtendLength) (readLen : scb.readLen = 2)
      (extends_ : ∃ n, Extends scb n)
  | measured (status : scb.status ≠ .websocketExtendLength) (least : 2 ≤ scb.readLen)
      (masked : scb.status = .websocketMask → scb.readLen ≤ 10)
      (unmasked : scb.status ≠ .websocketMask → scb.readLen ≤ scb.remainingLen)

structure Sized (scb : CoSocketCb) : Prop where
  least : 2 ≤ scb.readLen
  masked : scb.status = .websocketMask → scb.readLen ≤ 10
  unmasked : scb.status ≠ .websocketMask → scb.readLen ≤ scb.remainingLen

inductive HeaderEnd (scb : CoSocketCb) : Prop
  | done (status : scb.status = .websocketPayload) (least : 2 ≤ scb.readLen)
      (readLen : scb.readLen ≤ scb.remainingLen)
  | wait (status : scb.status ≠ .websocketPayload) (form : Form scb)
      (remainingLen : scb.remainingLen ≤ 13)

theorem Form.started (hf : Form scb) (hp : scb.status ≠ .websocketPayload)
    (h : readHeader scb = .ok scb') : Started scb' := by
  rcases readHeader_ok h with ⟨hs, rfl⟩ | ⟨hs, hlen, op, rfl⟩
  · cases hf with
    | header hs' _ => exact absurd hs' hs
    | extendLength hs' hread hext => exact .extendLength hs' hread hext
    | mask hs' hread =>
        exact .measured (by rw [hs']; simp) hread.1 (fun _ => hread.2) (fun hm => absurd hs' hm)
    | payload hs' _ _ => exact absurd hs' hp
  · by_cases hext : (scb.data 1 &&& 0x7f).toNat = 126 ∨ (scb.data 1 &&& 0x7f).toNat = 127
    · have hstatus : (storeHeader scb op).status = .websocketExtendLength := if_pos hext
      refine .extendLength hstatus rfl ?_
      rcases hext with h126 | h127
      · exact ⟨2, .inl ⟨h126, rfl⟩⟩
      · exact ⟨8, .inr ⟨h127, rfl⟩⟩
    · have hstatus : (storeHeader scb op).status ≠ .websocketExtendLength := by
        simp only [storeHeader, if_neg hext, hs]
        split <;> simp
      exact .measured hstatus (Nat.le_refl 2) (fun _ => by simp [storeHeader]) (fun _ => hlen)

theorem Extends.le {n : Nat} (h : Extends scb n) : n ≤ 8 := by
  rcases h with ⟨_, rfl⟩ | ⟨_, rfl⟩ <;> omega

theorem Started.sized (hst : Started scb) (h : readExtendLength scb = .ok scb') : Sized scb' := by
  cases hst with
  | extendLength hs hread hext =>
      rcases readExtendLength_ok h (fun _ => hext) with ⟨hs', _⟩ | ⟨_, n, len, hn, hlen, rfl⟩
      · exact absurd hs hs'
      · have hle := hn.le
        exact ⟨by simp only [storeLength]; omega, fun _ => by simp only [storeLength]; omega,
          fun _ => hlen⟩
  | measured hs hleast hmask hunmasked =>
      rcases readExtendLength_ok h (fun hs' => absurd hs' hs) with ⟨_, rfl⟩ | ⟨hs', _⟩
      · exact ⟨hleast, hmask, hunmasked⟩
      · exact absurd hs' hs

theorem Sized.headerEnd (hz : Sized scb) : HeaderEnd (readMask scb).2 := by
  have hleast := hz.least
  by_cases hs : scb.status = .websocketMask
  · have hread := hz.masked hs
    by_cases hlen : scb.remainingLen < scb.readLen + 4
    · rw [readMask, if_pos hs, if_pos hlen]
      exact .wait (by rw [hs]; simp) (.mask hs ⟨hleast, hread⟩) (by show scb.remainingLen ≤ 13; omega)
    · rw [readMask, if_pos hs, if_neg hlen]
      refine .done rfl ?_ ?_
      · show 2 ≤ scb.readLen + 4
        omega
      · show scb.readLen + 4 ≤ scb.remainingLen
        omega
  · rw [readMask, if_neg hs]
    exact .done rfl hleast (hz.unmasked hs)

theorem Form.headerEnd (hf : Form scb) (hp : scb.status ≠ .websocketPayload)
    (hret : (coWebsocketProcessHeader scb).1 = .ok) :
    HeaderEnd (coWebsocketProcessHeader scb).2 := by
  cases hr : readHeader scb with
  | error r =>
      have heq : coWebsocketProcessHeader scb = r := by rw [coWebsocketProcessHeader, hr]; rfl
      rw [heq] at hret ⊢
      rcases readHeader_error hr with hfail | ⟨rfl, hs, hlen⟩
      · rw [hfail] at hret
        cases hret
      · exact .wait hp hf (by show scb.remainingLen ≤ 13; omega)
  | ok scb₁ =>
      have hst := hf.started hp hr
      rw [coWebsocketProcessHeader_ok hr, readRest] at hret ⊢
      cases hl : readExtendLength scb₁ with
      | error r =>
          rw [hl] at hret
          change HeaderEnd r.2
          rcases readExtendLength_error hl with hfail | ⟨rfl, hs, n, hn, hlen⟩
          · exact absurd (hfail.symm.trans hret) (by simp)
          · have hle := hn.le
            cases hst with
            | extendLength _ hread hext =>
                refine .wait (by rw [hs]; simp) (.extendLength hs hread hext) ?_
                show scb₁.remainingLen ≤ 13
                omega
            | measured hs' _ _ _ => exact absurd hs hs'
      | ok scb₂ => exact (hst.sized hl).headerEnd

theorem Form.inspects_lt (hf : Form scb) (hp : scb.status ≠ .websocketPayload) :
    ∀ i ∈ inspects scb, i < scb.remainingLen := by
  intro i hi
  rw [inspects, List.mem_append] at hi
  rcases hi with hi | hi
  · rw [headerReads] at hi
    split at hi
    next h => simp only [List.mem_cons, List.not_mem_nil, or_false] at hi; omega
    next => cases hi
  · cases hr : readHeader scb with
    | error r => rw [hr] at hi; cases hi
    | ok scb₁ =>
        rw [hr, List.mem_append] at hi
        have hst := hf.started hp hr
        have hrem := (readHeader_same hr).remainingLen
        rcases hi with hi | hi
        · cases hst with
          | extendLength hs hread _ =>
              rw [lengthReads, if_pos hs] at hi
              repeat' split at hi
              all_goals simp only [List.mem_cons, List.not_mem_nil, or_false] at hi
              all_goals omega
          | measured hs _ _ _ => rw [lengthReads, if_neg hs] at hi; cases hi
        · cases hl : readExtendLength scb₁ with
          | error r => rw [hl] at hi; cases hi
          | ok scb₂ =>
              rw [hl] at hi
              have hrem' := (readExtendLength_same hl).remainingLen
              change i ∈ maskReads scb₂ at hi
              rw [maskReads] at hi
              split at hi
              next h => simp only [List.mem_cons, List.not_mem_nil, or_false] at hi; omega
              next => cases hi

/-- What the handlers of a chunk may change: the first byte of the buffer, which a ping
rewrites, and the mark of a text that is skipped. -/
def Handled (scb scb' : CoSocketCb) : Prop :=
  ∃ buf skip, scb' = { scb with buf := buf, wcb := { scb.wcb with skipFrame := skip } } ∧
    buf.length = scb.buf.length ∧ buf.drop 1 = scb.buf.drop 1

theorem Handled.refl (scb : CoSocketCb) : Handled scb scb :=
  ⟨scb.buf, scb.wcb.skipFrame, rfl, rfl, rfl⟩

theorem processTextPayload_handled {s s' : Session} {data : List UInt8} {ret : CoErr}
    (h : processTextPayload s data = (ret, s')) :
    ret = .fail ∨ ret = .ok ∧ Handled s.scb s'.scb := by
  rw [processTextPayload] at h
  repeat' split at h
  all_goals cases h
  all_goals first
    | exact .inl rfl
    | exact .inr ⟨rfl, Handled.refl _⟩

theorem processPing_handled {s : Session} (hne : s.scb.buf ≠ []) :
    Handled s.scb (coWebsocketProcessPing s).scb := by
  refine ⟨_, s.scb.wcb.skipFrame, rfl, ?_, ?_⟩
  · exact overwrite_length (by simpa using Nat.succ_le_of_lt (List.length_pos_iff.mpr hne))
  · rfl

theorem processOpcode_handled {s s' : Session} {data : List UInt8} {ret : CoErr}
    (hne : s.scb.buf ≠ []) (h : processOpcode s data = (ret, s')) :
    ret = .fail ∨ ret = .ok ∧ Handled s.scb s'.scb := by
  rw [processOpcode] at h
  split at h
  next => exact processTextPayload_handled h
  next =>
    repeat' split at h
    all_goals cases h
    all_goals first
      | exact .inl rfl
      | exact .inr ⟨rfl, processPing_handled hne⟩
      | exact .inr ⟨rfl, Handled.refl _⟩

theorem unmaskChunk_length {scb : CoSocketCb}
    (hfits : scb.readLen + chunkLen scb ≤ scb.buf.length) :
    (unmaskChunk scb).buf.length = scb.buf.length := by
  rw [unmaskChunk]
  split
  next =>
    have hlen : scb.chunk.length = chunkLen scb := by
      rw [CoSocketCb.chunk, List.length_take, List.length_drop]
      omega
    rw [withMasked_buf, overwrite_length]
    rw [WebsocketMask.coWebsocketFastMask_eq, LeWords.xorFrom_length, hlen]
    exact hfits
  next => rfl

structure AtPayload (scb : CoSocketCb) : Prop extends Room scb where
  status : scb.status = .websocketPayload
  readLen : scb.readLen ≤ scb.remainingLen
  moves : 0 < scb.readLen ∨ 0 < scb.wcb.payloadLen

structure Rest (scb : CoSocketCb) : Prop extends Room scb where
  form : Form scb
  remainingLen : scb.remainingLen ≤ 13

theorem AtPayload.chunkLen_eq (h : AtPayload scb) :
    chunkLen scb = min (scb.remainingLen - scb.readLen) scb.wcb.payloadLen := by
  rw [chunkLen, sizeSub_eq h.readLen h.lt]

theorem AtPayload.chunk_fits (h : AtPayload scb) :
    scb.readLen + chunkLen scb ≤ CONFIG_CO_SOCKET_BUFFER_SIZE := by
  have hlen := h.chunkLen_eq
  have hread := h.readLen
  have hfits := h.fits
  have hsize := h.size
  omega

theorem AtPayload.unmasked (h : AtPayload scb) : AtPayload (unmaskChunk scb) := by
  have hlen : (unmaskChunk scb).buf.length = scb.buf.length :=
    unmaskChunk_length (by rw [h.size]; exact h.chunk_fits)
  refine ⟨⟨?_, ?_⟩, ?_, ?_, ?_⟩
  · rw [hlen]; exact h.size
  · rw [hlen, unmaskChunk_remainingLen]; exact h.fits
  · rw [unmaskChunk_status]; exact h.status
  · rw [unmaskChunk_readLen, unmaskChunk_remainingLen]; exact h.readLen
  · rw [unmaskChunk_readLen, unmaskChunk_payloadLen]; exact h.moves

theorem AtPayload.handled (h : AtPayload scb) (hh : Handled scb scb') : AtPayload scb' := by
  obtain ⟨buf, skip, rfl, hlen, _⟩ := hh
  refine ⟨⟨?_, ?_⟩, h.status, h.readLen, h.moves⟩
  · exact hlen.trans h.size
  · exact Nat.le_trans h.fits (Nat.le_of_eq hlen.symm)

theorem form_of_progress {bs : List UInt8} (h : HeaderProgress bs scb) : Form scb := by
  have hcases := extendedSize_cases (bs.getD 1 0)
  cases h with
  | start hs hread => exact .header hs hread
  | extendLength hs _ hread hpl hext =>
      refine .extendLength hs hread ?_
      rcases hcases with ⟨h, _⟩ | ⟨h, _⟩ | ⟨_, _, h⟩
      · exact ⟨2, .inl ⟨hpl.trans h, rfl⟩⟩
      · exact ⟨8, .inr ⟨hpl.trans h, rfl⟩⟩
      · exact absurd h hext
  | mask hs hm _ =>
      have hread := hm.readLen
      exact .mask hs (by omega)

theorem AtPayload.finish {len : Nat} {ret : CoErr} (h : AtPayload scb)
    (hlen : len = min (scb.remainingLen - scb.readLen) scb.wcb.payloadLen)
    (hf : finishChunk scb len = (ret, scb')) :
    (ret = .ioPending ∧ Room scb' ∧ Form scb' ∧ scb'.remainingLen < scb.remainingLen) ∨
    (ret = .ok ∧ Rest scb') := by
  have hread := h.readLen
  have hmoves := h.moves
  by_cases hmore : scb.readLen + len < scb.remainingLen
  · obtain ⟨scb₁, hfin, hroom, hprog, hpend⟩ := finishChunk_more h.toRoom hread hmore
    rw [hfin] at hf
    cases hf
    have hrem := congrArg List.length hpend
    rw [List.length_drop, pending_length hroom.fits, pending_length h.fits] at hrem
    exact .inl ⟨rfl, hroom, form_of_progress hprog, by omega⟩
  · by_cases hpart : len < scb.wcb.payloadLen
    · rw [finishChunk_part h.toRoom hread (by omega) hpart] at hf
      cases hf
      refine .inr ⟨rfl, ⟨h.size, Nat.zero_le _⟩, .payload h.status rfl ?_, Nat.zero_le _⟩
      exact Nat.sub_pos_of_lt hpart
    · rw [finishChunk_full h.toRoom hread (by omega) (by omega)] at hf
      cases hf
      exact .inr ⟨rfl, ⟨h.size, Nat.zero_le _⟩, .header rfl rfl, Nat.zero_le _⟩

def Round (s s' : Session) : Prop :=
  ∃ s₁, processHeaderRound s = (.ok, s₁) ∧ s₁.scb.status = .websocketPayload ∧
    coWebsocketProcessPayload s₁ = (.ioPending, s')

/-- What a round does to the buffer is safe: the header parser looks at received bytes only, the
payload stage begins inside the buffer and hands on a chunk inside the buffer, and a round that
leaves more frames has taken something out of the buffer. -/
structure RoundSafe (s : Session) : Prop where
  header : s.scb.status ≠ .websocketPayload → ∀ i ∈ inspects s.scb, i < s.scb.remainingLen
  payload : ∀ s₁, processHeaderRound s = (.ok, s₁) → s₁.scb.status = .websocketPayload →
    s₁.scb.readLen ≤ s₁.scb.remainingLen ∧
      s₁.scb.remainingLen ≤ CONFIG_CO_SOCKET_BUFFER_SIZE ∧
      s₁.scb.readLen + chunkLen s₁.scb ≤ CONFIG_CO_SOCKET_BUFFER_SIZE
  pending : ∀ s', Round s s' → s'.scb.remainingLen < s.scb.remainingLen

structure Arrives (s : Session) (bytes : List UInt8) : Prop where
  some : bytes ≠ []
  fits : bytes.length ≤ CONFIG_CO_SOCKET_BUFFER_SIZE - s.scb.remainingLen

def afterRecv (s : Session) (bytes : List UInt8) : Session :=
  { s with scb := s.scb.recv bytes }

/-- A call of the parser is safe, whatever it receives. -/
structure CallSafe (s : Session) : Prop where
  pending : s.scb.remainingLen ≤ 13
  size : s.scb.buf.length = CONFIG_CO_SOCKET_BUFFER_SIZE
  asks : 0 < CONFIG_CO_SOCKET_BUFFER_SIZE - s.scb.remainingLen
  rounds : ∀ bytes, Arrives s bytes → ∀ s',
    Relation.ReflTransGen Round (afterRecv s bytes) s' → RoundSafe s'
  returns : ∀ bytes, Arrives s bytes → coWebsocketProcess s bytes ≠ none

structure Ready (scb : CoSocketCb) : Prop extends Room scb where
  form : Form scb

variable {s s' : Session}

theorem readMask_same (scb : CoSocketCb) : SameBuffer scb (readMask scb).2 := by
  rw [readMask]
  split
  next => split <;> exact ⟨rfl, rfl, rfl⟩
  next => exact ⟨rfl, rfl, rfl⟩

theorem coWebsocketProcessHeader_same (h : (coWebsocketProcessHeader scb).1 = .ok) :
    SameBuffer scb (coWebsocketProcessHeader scb).2 := by
  cases hr : readHeader scb with
  | error r =>
      have heq : coWebsocketProcessHeader scb = r := by rw [coWebsocketProcessHeader, hr]; rfl
      rw [heq] at h ⊢
      rcases readHeader_error hr with hfail | ⟨rfl, -, -⟩
      · exact absurd (hfail.symm.trans h) (by simp)
      · exact .refl scb
  | ok scb₁ =>
      rw [coWebsocketProcessHeader_ok hr, readRest] at h ⊢
      refine (readHeader_same hr).trans ?_
      cases hl : readExtendLength scb₁ with
      | error r =>
          rw [hl] at h
          rcases readExtendLength_error hl with hfail | ⟨rfl, -, -⟩
          · exact absurd (hfail.symm.trans h) (by simp)
          · exact .refl scb₁
      | ok scb₂ => exact (readExtendLength_same hl).trans (readMask_same scb₂)

theorem processHeaderRound_scb (hs : s.scb.status ≠ .websocketPayload)
    (h : processHeaderRound s = (.ok, s')) :
    coWebsocketProcessHeader s.scb = (.ok, s'.scb) := by
  rw [processHeaderRound, if_pos hs] at h
  cases hc : coWebsocketProcessHeader s.scb with
  | mk ret scb =>
      simp only [hc] at h
      split at h <;> cases h <;> rfl

theorem Ready.header (hr : Ready s.scb) (h : processHeaderRound s = (.ok, s')) :
    AtPayload s'.scb ∧ s'.scb.remainingLen = s.scb.remainingLen ∨
      s'.scb.status ≠ .websocketPayload ∧ Rest s'.scb := by
  by_cases hs : s.scb.status = .websocketPayload
  · rw [processHeaderRound, if_neg (not_not.mpr hs)] at h
    cases h
    refine .inl ⟨⟨hr.toRoom, hs, ?_, ?_⟩, rfl⟩
    all_goals
      cases hr.form with
      | header hs' _ => rw [hs] at hs'; cases hs'
      | extendLength hs' _ _ => rw [hs] at hs'; cases hs'
      | mask hs' _ => rw [hs] at hs'; cases hs'
      | payload _ hread hpl => omega
  · have heq := processHeaderRound_scb hs h
    have hsame := coWebsocketProcessHeader_same (by rw [heq])
    have hend := hr.form.headerEnd hs (by rw [heq])
    rw [heq] at hsame hend
    replace hend : HeaderEnd s'.scb := hend
    have hroom : Room s'.scb := by
      refine ⟨?_, hsame.fits hr.fits⟩
      rw [hsame.buf]
      exact hr.size
    cases hend with
    | done hs' hleast hread =>
        exact .inl ⟨⟨hroom, hs', hread, .inl (by omega)⟩, hsame.remainingLen⟩
    | wait hs' hform hrem => exact .inr ⟨hs', hroom, hform, hrem⟩

theorem dispatchChunk_cases {len : Nat} {ret : CoErr} (hne : s.scb.buf ≠ [])
    (h : dispatchChunk s len = (ret, s')) :
    ret = .fail ∨ ∃ scb, Handled s.scb scb ∧ finishChunk scb len = (ret, s'.scb) := by
  rw [dispatchChunk] at h
  cases hp : processOpcode (s.emit (.payload ((s.scb.buf.drop s.scb.readLen).take len)))
      ((s.scb.buf.drop s.scb.readLen).take len) with
  | mk e s₁ =>
      rcases processOpcode_handled (by exact hne) hp with rfl | ⟨rfl, hh⟩
      · simp only [hp] at h
        exact .inl (Prod.mk.inj h).1.symm
      · simp only [hp] at h
        cases hf : finishChunk s₁.scb len with
        | mk r scb =>
            rw [hf] at h
            obtain ⟨rfl, rfl⟩ := Prod.mk.inj h
            exact .inr ⟨s₁.scb, hh, hf⟩

theorem AtPayload.process {ret : CoErr} (h : AtPayload s.scb)
    (hp : coWebsocketProcessPayload s = (ret, s')) :
    ret = .fail ∨
    (ret = .ioPending ∧ Ready s'.scb ∧ s'.scb.remainingLen < s.scb.remainingLen) ∨
    (ret = .ok ∧ Rest s'.scb) := by
  have hu := h.unmasked
  have hne : (unmaskChunk s.scb).buf ≠ [] := by
    intro hnil
    have hsize := hu.size
    rw [hnil] at hsize
    exact absurd hsize (by decide)
  rcases dispatchChunk_cases (by exact hne) hp with hfail | ⟨scb, hh, hf⟩
  · exact .inl hfail
  · have hpay := hu.handled hh
    obtain ⟨buf, skip, rfl, -, -⟩ := hh
    have hlen := h.chunkLen_eq
    rw [← unmaskChunk_remainingLen, ← unmaskChunk_readLen, ← unmaskChunk_payloadLen] at hlen
    have hrem := unmaskChunk_remainingLen s.scb
    rcases hpay.finish hlen hf with ⟨h1, hroom, hform, hlt⟩ | ⟨h1, hrest⟩
    · exact .inr (.inl ⟨h1, ⟨hroom, hform⟩, Nat.lt_of_lt_of_eq hlt hrem⟩)
    · exact .inr (.inr ⟨h1, hrest⟩)

theorem Ready.round (hr : Ready s.scb) (h : Round s s') :
    Ready s'.scb ∧ s'.scb.remainingLen < s.scb.remainingLen := by
  obtain ⟨s₁, hhead, hs, hpay⟩ := h
  rcases hr.header hhead with ⟨hat, hrem⟩ | ⟨hs', -⟩
  · rcases hat.process hpay with hret | ⟨-, hready, hlt⟩ | ⟨hret, -⟩
    · cases hret
    · exact ⟨hready, by omega⟩
    · cases hret
  · exact absurd hs hs'

theorem Ready.roundSafe (hr : Ready s.scb) : RoundSafe s where
  header hs := hr.form.inspects_lt hs
  payload s₁ h hs := by
    rcases hr.header h with ⟨hat, -⟩ | ⟨hs', -⟩
    · exact ⟨hat.readLen, Nat.le_trans hat.fits (Nat.le_of_eq hat.size), hat.chunk_fits⟩
    · exact absurd hs hs'
  pending _ h := (hr.round h).2

theorem Ready.rounds (hr : Ready s.scb) (h : Relation.ReflTransGen Round s s') :
    Ready s'.scb := by
  induction h with
  | refl => exact hr
  | tail _ hstep ih => exact (ih.round hstep).1

theorem Ready.processRounds {fuel : Nat} (hr : Ready s.scb) (hfuel : s.scb.remainingLen < fuel) :
    ∃ b s', processRounds fuel s = some (b, s') ∧ (b = true → Rest s'.scb) := by
  induction fuel generalizing s with
  | zero => omega
  | succ fuel ih =>
      rw [WebsocketServer.processRounds]
      split
      next s₁ heq =>
        split
        next hs =>
          rcases hr.header heq with ⟨hat, hrem⟩ | ⟨hs', -⟩
          · split
            next s₂ _ => exact ⟨false, s₂, rfl, by simp⟩
            next s₂ hp =>
              rcases hat.process hp with h | ⟨-, hready, hlt⟩ | ⟨h, -⟩
              · cases h
              · exact ih hready (by omega)
              · cases h
            next s₂ hp =>
              rcases hat.process hp with h | ⟨h, -⟩ | ⟨-, hrest⟩
              · cases h
              · cases h
              · exact ⟨true, s₂, rfl, fun _ => hrest⟩
          · exact absurd hs hs'
        next hs =>
          rcases hr.header heq with ⟨hat, -⟩ | ⟨-, hrest⟩
          · exact absurd hat.status hs
          · exact ⟨true, s₁, rfl, fun _ => hrest⟩
      next s₁ _ _ => exact ⟨false, s₁, rfl, by simp⟩

theorem Rest.recv {bytes : List UInt8} (hr : Rest s.scb) (ha : Arrives s bytes) :
    Ready (afterRecv s bytes).scb := by
  have hfits := ha.fits
  have hrem := hr.remainingLen
  refine ⟨room_recv hr.toRoom ?_, ?_⟩
  · have hpos := List.length_pos_iff.mpr ha.some
    omega
  · cases hr.form with
    | header hs hread => exact .header hs hread
    | extendLength hs hread hext => exact .extendLength hs hread hext
    | mask hs hread => exact .mask hs hread
    | payload hs hread hpl => exact .payload hs hread hpl

theorem Rest.call {bytes : List UInt8} (hr : Rest s.scb) (ha : Arrives s bytes) :
    ∃ b s', coWebsocketProcess s bytes = some (b, s') ∧ (b = true → Rest s'.scb) := by
  have hready := hr.recv ha
  have hfits := hready.fits
  have hsize := hready.size
  rw [coWebsocketProcess, if_neg ha.some]
  exact hready.processRounds (by omega)

theorem Rest.callSafe (hr : Rest s.scb) : CallSafe s where
  pending := hr.remainingLen
  size := hr.size
  asks := by
    have hrem := hr.remainingLen
    rw [CONFIG_CO_SOCKET_BUFFER_SIZE]
    omega
  rounds _ ha _ hreach := ((hr.recv ha).rounds hreach).roundSafe
  returns bytes ha hnone := by
    obtain ⟨b, s', heq, -⟩ := hr.call ha
    rw [heq] at hnone
    cases hnone

theorem rest_start (addr : UInt32) : Rest (Session.start addr).scb :=
  ⟨⟨List.length_replicate, Nat.zero_le _⟩, .header rfl rfl, Nat.zero_le _⟩

theorem Rest.run {chunks : List (List UInt8)} (hr : Rest s.scb) (hfits : Fits s chunks)
    (hrun : websocketWorker s chunks = some (true, s')) : Rest s'.scb := by
  induction chunks generalizing s with
  | nil =>
      cases hrun
      exact hr
  | cons bytes rest ih =>
      obtain ⟨hne, hlen, hnext⟩ := hfits
      have harr : Arrives s bytes := ⟨hne, by omega⟩
      obtain ⟨b, s₁, heq, hrest⟩ := hr.call harr
      rw [websocketWorker, heq] at hrun
      cases b with
      | false => cases hrun
      | true => exact ih (hrest rfl) (hnext s₁ heq) hrun

/-- Every call of a session is safe, whatever the bytes are and however they come. -/
theorem callSafe_of_fits (addr : UInt32) {chunks : List (List UInt8)}
    (hfits : Fits (Session.start addr) chunks)
    (hrun : websocketWorker (Session.start addr) chunks = some (true, s)) : CallSafe s :=
  ((rest_start addr).run hfits hrun).callSafe

/-- A session that waits in the middle of a mask. -/
theorem callSafe_in_mask : ∃ s, websocketWorker (Session.start 0)
    [[0x82, 0x80, 1, 2, 3, 4, 0x8a, 0x81, 5], [6, 7]] = some (true, s) ∧ CallSafe s := by
  have hfin : Finishes (Decoder.init.bytes
      (List.flatten [[0x82, 0x80, 1, 2, 3, 4, 0x8a, 0x81, 5], [6, 7]])) := by
    refine ⟨[8, 9], [⟨⟨true, 0, 2, some [1, 2, 3, 4], 0⟩, []⟩,
      ⟨⟨true, 0, 10, some [5, 6, 7, 8], 1⟩, [12]⟩], by decide, ?_⟩
    intro f hf
    rcases List.mem_pair.mp hf with rfl | rfl
    · exact ⟨rfl, .inl rfl, by decide⟩
    · exact ⟨rfl, .inr rfl, by decide⟩
  have hfits := fits_of_short (sim_start 0) hfin (by decide)
  obtain ⟨s, -, hrun, -, -, -⟩ := websocketWorker_sim (sim_start 0) hfits hfin
  exact ⟨s, hrun, callSafe_of_fits 0 hfits hrun⟩

end WirelessEsp.WebsocketBuffer
