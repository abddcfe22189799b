import WirelessEsp.KcpFlush
import Mathlib.Tactic.IntervalCases

namespace WirelessEsp.Kcp

open LeWords

theorem ofBytes_byteOf (w : UInt32) :
    ofBytes (byteOf w 0) (byteOf w 1) (byteOf w 2) (byteOf w 3) = w := by
  apply UInt32.toBitVec_inj.mp
  apply BitVec.eq_of_getLsbD_eq
  intro i hi
  interval_cases i <;> simp [ofBytes, byteOf]

theorem ofBytes_low (w : UInt32) : ofBytes (byteOf w 0) (byteOf w 1) 0 0 = w &&& 0xFFFF := by
  apply UInt32.toBitVec_inj.mp
  apply BitVec.eq_of_getLsbD_eq
  intro i hi
  interval_cases i <;> simp [ofBytes, byteOf]

theorem byteOf_toUInt32 {w : UInt32} (h : w.toNat < 256) : (byteOf w 0).toUInt32 = w := by
  apply UInt32.toNat_inj.mp
  rw [UInt8.toNat_toUInt32]
  simp [byteOf]
  omega

/-- A segment as it is on the wire: its header and its data. -/
def Segment.wire (seg : Segment) : List UInt8 := ikcpEncodeSeg seg ++ seg.data

def wire (segs : List Segment) : List UInt8 := segs.flatMap Segment.wire

/-- What the other side reads of a segment: the window in 16 bits, and no timers. -/
def Segment.transmitted (seg : Segment) : Segment where
  conv := seg.conv
  cmd := seg.cmd
  frg := seg.frg
  wnd := seg.wnd &&& 0xFFFF
  ts := seg.ts
  sn := seg.sn
  una := seg.una
  data := seg.data

/-- A segment that its wire form can hold: `cmd` and `frg` in a byte each, the length in an `int`. -/
structure Segment.Fits (seg : Segment) : Prop where
  cmd : seg.cmd.toNat < 256
  frg : seg.frg.toNat < 256
  len : seg.data.length < 2 ^ 31

theorem encodeSeg_length (seg : Segment) : (ikcpEncodeSeg seg).length = IKCP_OVERHEAD := rfl

theorem wire_length (seg : Segment) :
    seg.wire.length = IKCP_OVERHEAD + seg.data.length := by
  rw [Segment.wire, List.length_append, encodeSeg_length]

theorem Segment.Fits.len_toNat {seg : Segment} (h : seg.Fits) : seg.len.toNat = seg.data.length := by
  have := h.len
  rw [Segment.len, UInt32.toNat_ofNat']
  omega

theorem decode32u_encode (w : UInt32) (rest : List UInt8) :
    ikcpDecode32u (ikcpEncode32u w ++ rest) = w := by
  exact ofBytes_byteOf w

theorem decodeSeg_encode {seg : Segment} (h : seg.Fits) (rest : List UInt8) :
    decodeSeg (ikcpEncodeSeg seg ++ rest) =
      { seg.transmitted with data := rest.take seg.data.length } := by
  have hlen : ikcpDecode32u ((ikcpEncodeSeg seg ++ rest).drop 20) = seg.len := by
    exact decode32u_encode seg.len rest
  have hconv : ikcpDecode32u (ikcpEncodeSeg seg ++ rest) = seg.conv := by
    exact ofBytes_byteOf seg.conv
  have hcmd : ikcpDecode8u ((ikcpEncodeSeg seg ++ rest).drop 4) = seg.cmd := by
    exact byteOf_toUInt32 h.cmd
  have hfrg : ikcpDecode8u ((ikcpEncodeSeg seg ++ rest).drop 5) = seg.frg := by
    exact byteOf_toUInt32 h.frg
  have hwnd : ikcpDecode16u ((ikcpEncodeSeg seg ++ rest).drop 6) = seg.wnd &&& 0xFFFF := by
    exact ofBytes_low seg.wnd
  have hts : ikcpDecode32u ((ikcpEncodeSeg seg ++ rest).drop 8) = seg.ts := by
    exact ofBytes_byteOf seg.ts
  have hsn : ikcpDecode32u ((ikcpEncodeSeg seg ++ rest).drop 12) = seg.sn := by
    exact ofBytes_byteOf seg.sn
  have huna : ikcpDecode32u ((ikcpEncodeSeg seg ++ rest).drop 16) = seg.una := by
    exact ofBytes_byteOf seg.una
  have hdata : (ikcpEncodeSeg seg ++ rest).drop IKCP_OVERHEAD = rest := rfl
  simp only [decodeSeg, hlen, hconv, hcmd, hfrg, hwnd, hts, hsn, huna, hdata, h.len_toNat,
    Segment.transmitted]

theorem decodeSeg_wire {seg : Segment} (h : seg.Fits) (rest : List UInt8) :
    decodeSeg (seg.wire ++ rest) = seg.transmitted ∧
      ikcpDecode32u ((seg.wire ++ rest).drop 20) = seg.len := by
  rw [Segment.wire, List.append_assoc]
  refine ⟨?_, decode32u_encode seg.len _⟩
  rw [decodeSeg_encode h, List.take_left]
  rfl

/-- A command that `ikcp_input` knows. -/
def Known (cmd : UInt32) : Prop :=
  cmd = IKCP_CMD_PUSH ∨ cmd = IKCP_CMD_ACK ∨ cmd = IKCP_CMD_WASK ∨ cmd = IKCP_CMD_WINS

theorem inputLoop_cons {conv : UInt32} {seg : Segment} (h : seg.Fits) (hconv : seg.conv = conv)
    (hcmd : Known seg.cmd) (n : Nat) (rest : List UInt8) (st : Input) :
    inputLoop conv (n + 1) (seg.wire ++ rest) st =
      inputLoop conv n rest (inputSegment seg.transmitted st) := by
  obtain ⟨hseg, hlen⟩ := decodeSeg_wire h rest
  have hlength : (seg.wire ++ rest).length = IKCP_OVERHEAD + seg.data.length + rest.length := by
    rw [List.length_append, wire_length]
  have hdrop : (seg.wire ++ rest).drop (IKCP_OVERHEAD + seg.data.length) = rest := by
    rw [← wire_length, List.drop_left]
  have hsign : ¬ seg.len.toInt32 < 0 := by
    rw [Int32.lt_iff_toInt_lt]
    have hnat := h.len_toNat
    have hbound := h.len
    have hint : seg.len.toInt32.toInt = SerialNumber.ahead (seg.len) 0 := by
      simp [SerialNumber.ahead]
    have hz : seg.len - 0 = seg.len := by
      simp
    rw [hint, SerialNumber.ahead_eq, hz, hnat]
    simp only [Int32.toInt_zero]
    omega
  have hknown : ¬ (seg.transmitted.cmd ≠ IKCP_CMD_PUSH ∧ seg.transmitted.cmd ≠ IKCP_CMD_ACK ∧
      seg.transmitted.cmd ≠ IKCP_CMD_WASK ∧ seg.transmitted.cmd ≠ IKCP_CMD_WINS) := by
    rintro ⟨h₁, h₂, h₃, h₄⟩
    rcases hcmd with h | h | h | h
    · exact h₁ h
    · exact h₂ h
    · exact h₃ h
    · exact h₄ h
  have hroom : ¬ (IKCP_OVERHEAD + seg.data.length + rest.length - IKCP_OVERHEAD < seg.data.length ∨
      seg.len.toInt32 < 0) := by
    rintro (h | h)
    · omega
    · exact hsign h
  have hc : ¬ seg.transmitted.conv ≠ conv := by
    exact not_not_intro hconv
  rw [inputLoop, if_neg (by omega)]
  simp only [hseg, hlen, h.len_toNat, hlength, hdrop]
  rw [if_neg hc, if_neg hroom, if_neg hknown]

theorem inputLoop_wire {conv : UInt32} {segs : List Segment}
    (h : ∀ seg ∈ segs, seg.Fits ∧ seg.conv = conv ∧ Known seg.cmd) {n : Nat}
    (hn : (wire segs).length ≤ n) (st : Input) :
    inputLoop conv n (wire segs) st =
      (0, segs.foldl (fun st seg => inputSegment seg.transmitted st) st) := by
  induction segs generalizing n st with
  | nil =>
      cases n with
      | zero => rfl
      | succ n => rfl
  | cons seg segs ih =>
      obtain ⟨⟨hfits, hconv, hcmd⟩, hrest⟩ := List.forall_mem_cons.mp h
      have hwire : wire (seg :: segs) = seg.wire ++ wire segs := rfl
      rw [hwire, List.length_append, wire_length, IKCP_OVERHEAD] at hn
      cases n with
      | zero => omega
      | succ n =>
          rw [hwire, inputLoop_cons hfits hconv hcmd, ih hrest (by omega)]
          rfl

theorem ikcpInput_wire {kcp : Ikcpcb} {segs : List Segment} (hsegs : segs ≠ [])
    (h : ∀ seg ∈ segs, seg.Fits ∧ seg.conv = kcp.conv ∧ Known seg.cmd) :
    ikcpInput (wire segs) kcp = (0, openWindow kcp.sndUna
      (segs.foldl (fun st seg => inputSegment seg.transmitted st) { kcp := kcp }).counted) := by
  have hlength : ¬ (wire segs).length < IKCP_OVERHEAD := by
    cases segs with
    | nil => exact absurd rfl hsegs
    | cons seg segs =>
        have hwire : wire (seg :: segs) = seg.wire ++ wire segs := rfl
        rw [hwire, List.length_append, wire_length]
        omega
  simp only [ikcpInput, if_neg hlength, inputLoop_wire h le_rfl, ne_eq, not_true_eq_false,
    if_false]

end WirelessEsp.Kcp
