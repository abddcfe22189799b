import Mathlib.Data.List.GetD
import WirelessEsp.UsbipServer

namespace WirelessEsp.UsbipReceive

open LeWords UsbipHeader UsbipServer

/-- The bytes that arrive before the connection ends. -/
def stream : Segments → List UInt8
  | [] => []
  | [] :: _ => []
  | (x :: xs) :: segs => (x :: xs) ++ stream segs

theorem stream_cons {xs : List UInt8} (segs : Segments) (h : xs ≠ []) :
    stream (xs :: segs) = xs ++ stream segs := by
  cases xs with
  | nil => exact absurd rfl h
  | cons x xs => rfl

theorem recv_none {sz : Nat} {segs : Segments} (h : recv sz segs = none) : stream segs = [] := by
  match segs with
  | [] => rfl
  | [] :: _ => rfl
  | (x :: xs) :: segs =>
      rw [recv] at h
      split at h
      · cases h
      · cases h

theorem recv_some {sz : Nat} {segs segs' : Segments} {xs : List UInt8}
    (h : recv sz segs = some (xs, segs')) : stream segs = xs ++ stream segs' := by
  obtain ⟨chunk, rest, rfl, hchunk, ⟨-, rfl, rfl⟩ | ⟨hlt, rfl, rfl⟩⟩ := recv_cases h
  · exact stream_cons segs' hchunk
  · have hrest : chunk.drop sz ≠ [] := by
      intro hnil
      exact Nat.not_lt_of_le (List.drop_eq_nil_iff.mp hnil) hlt
    rw [stream_cons rest hchunk, stream_cons rest hrest, ← List.append_assoc,
      List.take_append_drop]

theorem store_store (mem : Memory) (off : Nat) (xs ys : List UInt8) :
    store (store mem off xs) (off + xs.length) ys = store mem off (xs ++ ys) := by
  funext i
  simp only [store, List.length_append]
  by_cases hlow : i < off
  · rw [if_neg (by omega), if_neg (by omega), if_neg (by omega)]
  · by_cases hx : i < off + xs.length
    · rw [if_neg (by omega), if_pos (by omega), if_pos (by omega), List.getD_append _ _ _ _ (by omega)]
    · by_cases hy : i < off + xs.length + ys.length
      · rw [if_pos (by omega), if_pos (by omega), List.getD_append_right _ _ _ _ (by omega)]
        congr 1
        omega
      · rw [if_neg (by omega), if_neg (by omega), if_neg (by omega)]

theorem store_nil (mem : Memory) (off : Nat) : store mem off [] = mem := by
  funext i
  exact if_neg (by simp)

theorem recvLoop_ok {off sz : Nat} (mem : Memory) {segs : Segments} (hlen : sz ≤ (stream segs).length)
    (hfit : off + sz ≤ bufferLength) : ∃ segs',
      recvLoop off sz mem segs = .ok (store mem off ((stream segs).take sz), segs') ∧
      stream segs' = (stream segs).drop sz := by
  induction sz using Nat.strongRecOn generalizing off mem segs with
  | ind sz ih =>
      rw [recvLoop]
      by_cases hsz : sz = 0
      · refine ⟨segs, ?_, ?_⟩
        · rw [dif_pos hsz, hsz, List.take_zero, store_nil]
        · rw [hsz, List.drop_zero]
      · rw [dif_neg hsz]
        split
        next h =>
          rw [recv_none h] at hlen
          exact absurd (Nat.le_zero.mp hlen) hsz
        next xs segs' h =>
          obtain ⟨hpos, hle⟩ := recv_length hsz h
          have hstream := recv_some h
          rw [hstream, List.length_append] at hlen
          rw [if_neg (by omega)]
          obtain ⟨segs'', hloop, hrest⟩ := @ih (sz - xs.length) (by omega) (off + xs.length)
            (store mem off xs) segs' (by omega) (by omega)
          refine ⟨segs'', ?_, ?_⟩
          · rw [hloop, store_store, hstream, List.take_append, List.take_of_length_le hle]
          · rw [hrest, hstream, List.drop_append, List.drop_of_length_le hle, List.nil_append]

theorem recvLoop_closed {off sz : Nat} (mem : Memory) {segs : Segments}
    (hlen : (stream segs).length < sz) (hfit : off + (stream segs).length ≤ bufferLength) :
    recvLoop off sz mem segs = .error .closed := by
  induction sz using Nat.strongRecOn generalizing off mem segs with
  | ind sz ih =>
      rw [recvLoop, dif_neg (by omega)]
      split
      next => rfl
      next xs segs' h =>
        obtain ⟨hpos, hle⟩ := recv_length (by omega) h
        rw [recv_some h, List.length_append] at hlen hfit
        rw [if_neg (by omega)]
        exact ih (sz - xs.length) (by omega) _ (by omega) (by omega)

theorem recvLoop_overflow {off sz : Nat} (mem : Memory) {segs : Segments} (hoff : off ≤ bufferLength)
    (h : bufferLength < off + min sz (stream segs).length) :
    recvLoop off sz mem segs = .error .overflow := by
  induction sz using Nat.strongRecOn generalizing off mem segs with
  | ind sz ih =>
      rw [recvLoop, dif_neg (by omega)]
      split
      next hr =>
        rw [recv_none hr, List.length_nil] at h
        omega
      next xs segs' hr =>
        obtain ⟨hpos, hle⟩ := recv_length (by omega) hr
        rw [recv_some hr, List.length_append] at h
        split
        next => rfl
        next hin => exact ih (sz - xs.length) (by omega) _ (by omega) (by omega)

/-- Nothing was stored past the buffer, and no negative size was asked for. -/
structure InBounds {α : Type} (x : Except Halt α) : Prop where
  stores : x ≠ .error .overflow
  sizes : x ≠ .error .negativeSize

theorem InBounds.ok {α : Type} (a : α) : InBounds (.ok a) := by
  constructor
  · intro h
    cases h
  · intro h
    cases h

theorem InBounds.closed {α : Type} : InBounds (.error .closed : Except Halt α) := by
  constructor
  · intro h
    cases h
  · intro h
    cases h

theorem InBounds.bind {α β : Type} {x : Except Halt α} {f : α → Except Halt β} (hx : InBounds x)
    (hf : ∀ a, InBounds (f a)) : InBounds (x >>= f) := by
  cases x with
  | error e =>
      constructor
      · intro h
        cases h
        exact hx.stores rfl
      · intro h
        cases h
        exact hx.sizes rfl
  | ok a => exact hf a

theorem recvLoop_inBounds {off sz : Nat} (mem : Memory) (segs : Segments)
    (hfit : off + sz ≤ bufferLength) : InBounds (recvLoop off sz mem segs) := by
  by_cases hlen : sz ≤ (stream segs).length
  · obtain ⟨segs', hloop, -⟩ := recvLoop_ok mem hlen hfit
    rw [hloop]
    exact .ok _
  · rw [recvLoop_closed mem (by omega) (by omega)]
    exact .closed

def headerOf (bs : List UInt8) : Stage2Header := readHeader fun i => bs.getD i 0

theorem readHeader_congr {m m' : Memory} (h : ∀ i < 48, m i = m' i) :
    readHeader m = readHeader m' := by
  have hword : ∀ off, off ≤ 36 → word m off = word m' off := by
    intro off hoff
    rw [word, word, h off (by omega), h (off + 1) (by omega), h (off + 2) (by omega),
      h (off + 3) (by omega)]
  have hsetup : (fun i : Fin 8 => m (40 + i)) = fun i : Fin 8 => m' (40 + i) := by
    funext i
    exact h _ (by omega)
  simp only [readHeader, hsetup, hword 0 (by omega), hword 4 (by omega), hword 8 (by omega),
    hword 12 (by omega), hword 16 (by omega), hword 20 (by omega), hword 24 (by omega),
    hword 28 (by omega), hword 32 (by omega), hword 36 (by omega)]

theorem readHeader_store (mem : Memory) {bs : List UInt8} (h : 48 ≤ bs.length) :
    readHeader (store mem 0 (bs.take 48)) = headerOf bs := by
  apply readHeader_congr
  intro i hi
  have hlen : (bs.take 48).length = 48 := by
    rw [List.length_take]
    omega
  rw [store, hlen, if_pos (by omega), Nat.sub_zero, List.getD_eq_getElem?_getD,
    List.getElem?_take_of_lt hi, List.getD_eq_getElem?_getD]

def announced (req : Stage2Header) : Nat :=
  if ntohl req.command == USBIP_STAGE2_REQ_SUBMIT && ntohl req.direction == USBIP_DIR_OUT then
    (ntohl req.dataLength).toNat
  else 0

theorem payloadSize_eq (req : Stage2Header) : payloadSize req =
    if announced req < 2 ^ 31 then (announced req : Int) else (announced req : Int) - 2 ^ 32 := by
  have hint : ∀ x : UInt32, x.toInt32.toInt =
      if x.toNat < 2 ^ 31 then (x.toNat : Int) else (x.toNat : Int) - 2 ^ 32 := by
    intro x
    have h := BitVec.toInt_eq_toNat_cond x.toBitVec
    rw [UInt32.toNat]
    show x.toBitVec.toInt = _
    rw [h]
    by_cases hx : x.toBitVec.toNat < 2 ^ 31
    · rw [if_pos (by omega), if_pos hx]
    · rw [if_neg (by omega), if_neg hx]
      rfl
  rw [payloadSize, announced]
  split
  · exact hint _
  · rfl

theorem announced_lt (req : Stage2Header) : announced req < 2 ^ 32 := by
  rw [announced]
  split
  · exact (ntohl req.dataLength).toNat_lt
  · decide

theorem recvPayload_negative {req : Stage2Header} (h : 2 ^ 31 ≤ announced req) (mem : Memory)
    (segs : Segments) : recvPayload req mem segs = .error .negativeSize := by
  have hlt := announced_lt req
  rw [recvPayload, payloadSize_eq, if_neg (Nat.not_lt.mpr h)]
  exact if_pos (by omega)

theorem recvPayload_loop {req : Stage2Header} (h : announced req < 2 ^ 31) (mem : Memory)
    (segs : Segments) : recvPayload req mem segs = recvLoop 48 (announced req) mem segs := by
  rw [recvPayload, payloadSize_eq, if_pos h]
  show (if (announced req : Int) < 0 then _ else _) = _
  rw [if_neg (by omega), Int.toNat_natCast]

theorem readCommand_header {p : UrbPoint} (h : 48 ≤ (stream p.segs).length) : ∃ mem segs,
    stream segs = (stream p.segs).drop 48 ∧
    readCommand p = (recvPayload (headerOf (stream p.segs)) mem segs).map fun x =>
      ⟨headerOf (stream p.segs), p.state, x.1, x.2⟩ := by
  obtain ⟨segs, hloop, hrest⟩ := @recvLoop_ok 0 48 p.mem p.segs h (by decide)
  have hreq := readHeader_store p.mem h
  generalize store p.mem 0 ((stream p.segs).take 48) = mem at hloop hreq
  refine ⟨mem, segs, hrest, ?_⟩
  rw [readCommand, hloop, ← hreq]
  simp only [bind, Except.bind]
  cases recvPayload (readHeader mem) mem segs <;> rfl

theorem readCommand_plain {p : UrbPoint} (h : 48 ≤ (stream p.segs).length)
    (hannounced : announced (headerOf (stream p.segs)) = 0) : ∃ r,
      readCommand p = .ok r ∧ r.req = headerOf (stream p.segs) ∧ r.state = p.state := by
  obtain ⟨mem, segs, -, hread⟩ := readCommand_header h
  rw [recvPayload_loop (hannounced ▸ by decide), hannounced, recvLoop, dif_pos rfl] at hread
  exact ⟨_, hread, rfl, rfl⟩

theorem readCommand_short {p : UrbPoint} (h : (stream p.segs).length < 48) :
    readCommand p = .error .closed := by
  have hshort : (stream p.segs).length ≤ bufferLength := Nat.le_trans (Nat.le_of_lt h) (by decide)
  rw [readCommand, recvLoop_closed p.mem h (by omega)]
  rfl

/-- A command is received in bounds, and has been read once its header and the announced payload
have arrived. -/
structure Receives (p : UrbPoint) : Prop extends InBounds (readCommand p) where
  ends : ∀ n, n = 48 + announced (headerOf (stream p.segs)) → n ≤ (stream p.segs).length →
    ∃ r, readCommand p = .ok r ∧ stream r.segs = (stream p.segs).drop n

/-- The payload of the next command is announced with less than `2 ^ 31` bytes, and no more of it
arrives than fits behind the header. -/
def Fits (p : UrbPoint) : Prop :=
  48 ≤ (stream p.segs).length →
    announced (headerOf (stream p.segs)) < 2 ^ 31 ∧
    min (announced (headerOf (stream p.segs))) ((stream p.segs).length - 48) ≤ bufferLength - 48

theorem Receives.of_fits {p : UrbPoint} (h : Fits p) : Receives p := by
  by_cases hlen : 48 ≤ (stream p.segs).length
  · obtain ⟨hsize, hfit⟩ := h hlen
    obtain ⟨mem, segs, hrest, hread⟩ := readCommand_header hlen
    have hrestlen : (stream segs).length = (stream p.segs).length - 48 := by
      rw [hrest, List.length_drop]
    have hbuffer : bufferLength = 1500 := rfl
    rw [recvPayload_loop hsize] at hread
    by_cases hall : announced (headerOf (stream p.segs)) ≤ (stream segs).length
    · obtain ⟨segs', hloop, hrest'⟩ := @recvLoop_ok 48 _ mem segs hall (by omega)
      rw [hloop] at hread
      refine ⟨?_, ?_⟩
      · rw [hread]
        exact .ok _
      · intro n hn _
        refine ⟨_, hread, ?_⟩
        show stream segs' = _
        rw [hrest', hrest, List.drop_drop, hn]
    · rw [recvLoop_closed mem (by omega) (by omega)] at hread
      refine ⟨?_, ?_⟩
      · rw [hread]
        exact .closed
      · intro n hn hle
        omega
  · have hclosed := readCommand_short (Nat.lt_of_not_le hlen)
    refine ⟨?_, ?_⟩
    · rw [hclosed]
      exact .closed
    · intro n hn hle
      omega

theorem Receives.fits {p : UrbPoint} (h : Receives p) : Fits p := by
  intro hlen
  obtain ⟨mem, segs, hrest, hread⟩ := readCommand_header hlen
  have hrestlen : (stream segs).length = (stream p.segs).length - 48 := by
    rw [hrest, List.length_drop]
  have hsize : announced (headerOf (stream p.segs)) < 2 ^ 31 := by
    apply Nat.lt_of_not_le
    intro hge
    rw [recvPayload_negative hge] at hread
    exact h.sizes hread
  refine ⟨hsize, ?_⟩
  apply Nat.le_of_not_lt
  intro hover
  have hbuffer : bufferLength = 1500 := rfl
  rw [recvPayload_loop hsize, recvLoop_overflow mem (by omega) (by omega)] at hread
  exact h.stores hread

end WirelessEsp.UsbipReceive
