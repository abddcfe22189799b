import WirelessEsp.SwdTransfer

namespace WirelessEsp.SwjSequence

open LeWords BitStreams DapTypes SpiOp SwDp SwdTransfer

variable {w : Wires} {p : Port}

/-- The first `n` bits of a sequence of bytes, as they are driven. -/
def sequenceBits (data : Nat → UInt8) (n : Nat) : List (Option Bool) :=
  (List.range n).map fun i => some (byteBit data i)

@[simp] theorem sequenceBits_length (data : Nat → UInt8) (n : Nat) :
    (sequenceBits data n).length = n := by
  rw [sequenceBits, List.length_map, List.length_range]

theorem swjSequenceLoop_trace {data : Nat → UInt8} {val : UInt32} {n i : Nat} (count : Nat)
    (hn : n ≤ 8 * i) (hval : ∀ j < n, bit val j = byteBit data (8 * i - n + j)) :
    (swjSequenceLoop data count val n i p).trace =
      p.trace ++ (List.range count).map fun j => some (byteBit data (8 * i - n + j)) := by
  induction count generalizing val n i p with
  | zero => simp [swjSequenceLoop]
  | succ count ih =>
      obtain ⟨val', n', i', hnext, hle, hpos, hstart, hbits⟩ : ∃ val' n' i',
          (if n = 0 then ((data i).toUInt32, 8, i + 1) else (val, n, i)) = (val', n', i') ∧
          n' ≤ 8 * i' ∧ 0 < n' ∧ 8 * i' - n' = 8 * i - n ∧
          ∀ j < n', bit val' j = byteBit data (8 * i' - n' + j) := by
        by_cases h : n = 0
        · refine ⟨(data i).toUInt32, 8, i + 1, if_pos h, by omega, by omega, by omega, ?_⟩
          intro j hj
          rw [byteBit, show (8 * (i + 1) - 8 + j) / 8 = i by omega,
            show (8 * (i + 1) - 8 + j) % 8 = j by omega]
        · exact ⟨val, n, i, if_neg h, hn, by omega, rfl, hval⟩
      have hbit : (swClockCycle (if val' &&& 1 != 0 then setLevel true p else setLevel false p)).trace =
          p.trace ++ [some (byteBit data (8 * i - n))] := by
        have h0 := hbits 0 hpos
        rw [Nat.add_zero, hstart] at h0
        rw [and_one_bne, h0]
        cases byteBit data (8 * i - n) <;> simp [swClockCycle]
      rw [swjSequenceLoop, hnext]
      show (swjSequenceLoop data count (val' >>> 1) (n' - 1) i' _).trace = _
      rw [ih (by omega), hbit, List.range_succ_eq_map, List.map_cons, List.map_map,
        List.append_assoc, List.singleton_append, Nat.add_zero]
      · congr 2
        apply List.map_congr_left
        intro j _
        show some _ = some _
        congr 2
        omega
      · intro j hj
        rw [bit_shiftRight_one, hbits (j + 1) (by omega)]
        congr 1
        omega

theorem swjSequenceGpio_trace (count : UInt32) (data : Nat → UInt8) :
    (swjSequenceGpio count data p).trace = p.trace ++ sequenceBits data count.toNat := by
  have h := @swjSequenceLoop_trace p data 0 0 0 count.toNat (Nat.le_refl 0)
    (fun j hj => absurd hj (Nat.not_lt_zero j))
  simpa [swjSequenceGpio, sequenceBits] using h

theorem bitLenField_succ {count : UInt8} (h : count ≠ 0) :
    (bitLenField count).toNat + 1 = count.toNat := by
  have hpos : count.toNat ≠ 0 := fun h' => h (UInt8.toNat_inj.mp h')
  have hlt : count.toNat < 256 := count.toNat_lt
  have hmask : (0xFFFFFF : UInt32).toNat = 2 ^ 24 - 1 := rfl
  have hone : (1 : UInt32).toNat = 1 := rfl
  rw [bitLenField, UInt32.toNat_and, hmask, Nat.and_two_pow_sub_one_eq_mod, UInt32.toNat_sub,
    UInt8.toNat_toUInt32, hone]
  omega

theorem copyWords_some (data : Vector UInt32 16) {n i : Nat} (h : i + n ≤ 16)
    (buf : Vector UInt32 16) : ∃ out, copyWords data n i buf = some out ∧
      ∀ k, (hk : k < 16) → out[k] = if i ≤ k ∧ k < i + n then data[k] else buf[k] := by
  induction n generalizing i buf with
  | zero =>
      refine ⟨buf, rfl, ?_⟩
      intro k hk
      rw [if_neg (by omega)]
  | succ n ih =>
      have hi : i < 16 := by omega
      obtain ⟨out, hout, hword⟩ := ih (show i + 1 + n ≤ 16 by omega) (buf.set i data[i])
      refine ⟨out, ?_, ?_⟩
      · rw [copyWords, dif_pos hi, hout]
      · intro k hk
        rw [hword k hk, Vector.getElem_set]
        by_cases hik : i = k
        · subst hik
          rw [if_neg (by omega), if_pos rfl, if_pos (by omega)]
        · by_cases hin : i + 1 ≤ k ∧ k < i + 1 + n
          · rw [if_pos hin, if_pos (by omega)]
          · rw [if_neg hin, if_neg hik, if_neg (by omega)]

theorem copyWords_none (data : Vector UInt32 16) {n i : Nat} (hi : i ≤ 16) (h : 16 < i + n)
    (buf : Vector UInt32 16) : copyWords data n i buf = none := by
  induction n generalizing i buf with
  | zero => omega
  | succ n ih =>
      rw [copyWords]
      by_cases hlt : i < 16
      · rw [dif_pos hlt, ih (by omega) (by omega)]
      · rw [dif_neg hlt]

theorem copyBytes_bit (garbage : Vector UInt32 16) (buf : Nat → UInt8) {nbytes k i : Nat}
    (hk : k < 16) (hi : i < 32) (hn : 32 * k + i < 8 * nbytes) :
    bit (copyBytes garbage buf nbytes)[k] i = byteBit buf (32 * k + i) := by
  have hbyte : 4 * k + i / 8 < nbytes := by omega
  have hword := bit_ofBytes (fun j => if 4 * k + j < nbytes then buf (4 * k + j)
    else byteOf garbage[(⟨k, hk⟩ : Fin 16)] j) hi
  rw [copyBytes, Vector.getElem_ofFn, byteBit, show (32 * k + i) / 8 = 4 * k + i / 8 by omega,
    show (32 * k + i) % 8 = i % 8 by omega]
  rw [byteBit, if_pos hbyte] at hword
  exact hword

theorem dapSpiWriteBits_trace (garbage : Vector UInt32 16) {count : UInt8} (hpos : count ≠ 0)
    (hle : count.toNat ≤ 128) (buf : Nat → UInt8) :
    ∃ q, dapSpiWriteBits w garbage count buf p = some q ∧
      q.trace = p.trace ++ sequenceBits buf count.toNat := by
  have hbytes : divRoundUp count.toNat 8 ≤ 16 := by
    rw [divRoundUp]
    omega
  obtain ⟨out, hout, hword⟩ := copyWords_some (copyBytes garbage buf (divRoundUp count.toNat 8))
    (show 0 + divRoundUp count.toNat 8 ≤ 16 by omega) p.spi.dataBuf
  obtain ⟨⟨spi, hbuf, htrace⟩, -⟩ := @dapSpiTransmit_spec w p (bitLenField count) out
  refine ⟨_, by rw [dapSpiWriteBits, hout]; rfl, ?_⟩
  rw [htrace, bitLenField_succ hpos, sequenceBits]
  congr 1
  apply List.map_congr_left
  intro i hi
  have hlt : i < count.toNat := List.mem_range.mp hi
  have hk : i / 32 < 16 := by omega
  have hn : i < 8 * divRoundUp count.toNat 8 := by
    rw [divRoundUp]
    omega
  rw [Spi.bufBit, hbuf, Vector.getElem?_eq_getElem hk, Option.getD_some, hword _ hk,
    if_pos (by omega), copyBytes_bit _ _ hk (by omega) (by omega), Nat.div_add_mod]

theorem dapSpiWriteBits_none (garbage : Vector UInt32 16) {count : UInt8} (h : 128 < count.toNat)
    (buf : Nat → UInt8) : dapSpiWriteBits w garbage count buf p = none := by
  have hbytes : 16 < 0 + divRoundUp count.toNat 8 := by
    rw [divRoundUp]
    omega
  rw [dapSpiWriteBits, copyWords_none _ (by omega) hbytes]
  rfl

theorem dapSpiWriteBits_zero (garbage : Vector UInt32 16) (buf : Nat → UInt8) :
    ∃ q, dapSpiWriteBits w garbage 0 buf p = some q ∧ q.cycle = p.cycle + 2 ^ 24 := by
  obtain ⟨⟨spi, -, htrace⟩, -⟩ := @dapSpiTransmit_spec w p (bitLenField 0) p.spi.dataBuf
  refine ⟨dapSpiTransmit w (bitLenField 0) p.spi.dataBuf p, rfl, ?_⟩
  have hlen : (bitLenField 0).toNat + 1 = 2 ^ 24 := by decide
  rw [Port.cycle, htrace, hlen, List.length_append, List.length_map, List.length_range]
  rfl

/-- `SWJ_Sequence_SPI` stays inside the arrays of `DAP_SPI_WriteBits` and drives the bits that
`SWJ_Sequence_GPIO` drives. -/
def SameSwj (w : Wires) (garbage : Vector UInt32 16) (p : Port) (count : UInt32)
    (data : Nat → UInt8) : Prop :=
  ∃ q, swjSequenceSpi w garbage count data p = some q ∧
    q.trace = (swjSequenceGpio count data p).trace

/-- The two paths of `SWJ_Sequence` agree exactly up to 128 bits. -/
theorem sameSwj_iff (w : Wires) (garbage : Vector UInt32 16) (p : Port) (count : UInt32)
    (hpos : 1 ≤ count) (hmax : count ≤ 256) (data : Nat → UInt8) :
    SameSwj w garbage p count data ↔ count ≤ 128 := by
  have hpos' : 1 ≤ count.toNat := UInt32.le_iff_toNat_le.mp hpos
  have hmax' : count.toNat ≤ 256 := UInt32.le_iff_toNat_le.mp hmax
  have hbyte : count.toUInt8.toNat = count.toNat % 256 := UInt32.toNat_toUInt8 count
  have h128 : count ≤ 128 ↔ count.toNat ≤ 128 := UInt32.le_iff_toNat_le
  rw [h128, SameSwj, swjSequenceGpio_trace]
  constructor
  · rintro ⟨q, hq, htrace⟩
    apply Nat.le_of_not_lt
    intro hlt
    rw [swjSequenceSpi] at hq
    by_cases hlast : count.toNat = 256
    · have hzero : count.toUInt8 = 0 := by
        apply UInt8.toNat_inj.mp
        rw [hbyte, hlast]
        rfl
      obtain ⟨q', hq', hcycle⟩ := @dapSpiWriteBits_zero w p garbage data
      rw [hzero, hq'] at hq
      cases hq
      rw [Port.cycle, htrace, List.length_append, sequenceBits_length, hlast, Port.cycle] at hcycle
      omega
    · rw [dapSpiWriteBits_none garbage (by omega)] at hq
      cases hq
  · intro hle
    have hcount : count.toUInt8.toNat = count.toNat := by omega
    have hne : count.toUInt8 ≠ 0 := by
      intro h
      rw [h] at hcount
      have hz : (0 : UInt8).toNat = 0 := rfl
      omega
    obtain ⟨q, hq, htrace⟩ := @dapSpiWriteBits_trace w p garbage _ hne (by omega) data
    rw [hcount] at htrace
    exact ⟨q, hq, htrace⟩

/-- The 51 bits of the switch from JTAG to SWD that starts with a line reset. -/
theorem sameSwj_lineReset : ∃ q, swjSequenceSpi ⟨fun _ => true, fun _ => true, fun _ => 0⟩
    (.replicate 16 0) 51 (fun _ => 0xFF)
    ⟨dapSetup .esp32, [], true, ⟨false, false, false, 0, 0, .replicate 16 0⟩⟩ = some q ∧
    q.trace = List.replicate 51 (some true) := by
  have h := (sameSwj_iff ⟨fun _ => true, fun _ => true, fun _ => 0⟩ (.replicate 16 0)
    ⟨dapSetup .esp32, [], true, ⟨false, false, false, 0, 0, .replicate 16 0⟩⟩ 51
    (by decide) (by decide) fun _ => 0xFF).mpr (by decide)
  obtain ⟨q, hq, htrace⟩ := h
  refine ⟨q, hq, htrace.trans ?_⟩
  rw [swjSequenceGpio_trace]
  decide

/-- A sequence of 129 bits makes the copy loop run past the 16 words. -/
theorem not_sameSwj_long : ¬ ∀ (w : Wires) (garbage : Vector UInt32 16) (p : Port)
    (count : UInt32), 1 ≤ count → count ≤ 256 → ∀ data : Nat → UInt8,
    SameSwj w garbage p count data := by
  intro h
  obtain ⟨q, hq, -⟩ := h ⟨fun _ => true, fun _ => true, fun _ => 0⟩ (.replicate 16 0)
    ⟨dapSetup .esp32, [], true, ⟨false, false, false, 0, 0, .replicate 16 0⟩⟩ 129
    (by decide) (by decide) fun _ => 0xFF
  rw [swjSequenceSpi, dapSpiWriteBits_none _ (by decide)] at hq
  cases hq

end WirelessEsp.SwjSequence
