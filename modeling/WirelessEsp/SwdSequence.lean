import WirelessEsp.SwjSequence

namespace WirelessEsp.SwdSequence

open LeWords BitStreams DapTypes SpiOp SwDp SwdTransfer SwjSequence

variable {w : Wires} {p : Port}

def packedByte (f : Nat → Bool) (n j : Nat) : UInt8 :=
  (ofBits fun i => decide (8 * j + i < n) && f (8 * j + i)).toUInt8

theorem packedByte_bit (f : Nat → Bool) (n j : Nat) {i : Nat} (hi : i < 8) :
    bit (packedByte f n j).toUInt32 i = (decide (8 * j + i < n) && f (8 * j + i)) := by
  rw [packedByte, bit_toUInt8 _ hi, bit_ofBits _ (by omega)]

theorem packBytes_zero (f : Nat → Bool) : packBytes f 0 = [] := rfl

theorem packBytes_pos (f : Nat → Bool) {n : Nat} (hn : n ≠ 0) :
    packBytes f n = packedByte f n 0 :: packBytes (fun i => f (8 + i)) (n - min 8 n) := by
  have hlen : (n + 7) / 8 = (n - min 8 n + 7) / 8 + 1 := by omega
  rw [packBytes, hlen, List.range_succ_eq_map, List.map_cons, List.map_map, packBytes]
  congr 1
  apply List.map_congr_left
  intro j _
  show packedByte f n (j + 1) = packedByte (fun i => f (8 + i)) (n - min 8 n) j
  apply byte_eq_of_bit
  intro i hi
  rw [packedByte_bit _ _ _ hi, packedByte_bit _ _ _ hi, show 8 * (j + 1) + i = 8 + (8 * j + i) by omega]
  congr 1
  rw [decide_eq_decide]
  omega

theorem packBytes_succ (f : Nat → Bool) {n m : Nat} (h : divRoundUp n 8 = m + 1) :
    packBytes f n = (List.range m).map (packedByte f n) ++ [packedByte f n m] := by
  have hlen : (n + 7) / 8 = m + 1 := h
  rw [packBytes, hlen, List.range_succ, List.map_append]
  rfl

theorem captureBits_spec (m : Nat) {val : UInt32} (hval : ∀ i, 8 ≤ i → bit val i = false) :
    (captureBits w m val p).2 = p.drive (List.replicate m (some p.level)) ∧
    (∀ i, 8 ≤ i → bit (captureBits w m val p).1 i = false) ∧
    ∀ i < 8, bit (captureBits w m val p).1 i =
      if i + m < 8 then bit val (i + m) else fromCycle w p (i + m - 8) := by
  induction m generalizing val p with
  | zero =>
      refine ⟨?_, hval, ?_⟩
      · simp [captureBits, Port.drive]
      · intro i hi
        rw [Nat.add_zero, if_pos hi]
        rfl
  | succ m ih =>
      have hin : bit (pinSwdioIn w p) 0 = fromCycle w p 0 := bit_toUInt32 _
      have hhigh : ∀ i, 0 < i → bit (pinSwdioIn w p) i = false := by
        intro i hi
        rw [pinSwdioIn]
        cases w.swdio p.cycle with
        | false => exact BitVec.getLsbD_zero
        | true => simp [bit, Bool.toUInt32, BitVec.getLsbD_one]; omega
      have hcycle : fromCycle w (swClockCycle p) = fun i => fromCycle w p (1 + i) :=
        fromCycle_add (drive_cycle _)
      have hnext : ∀ i, bit ((val >>> 1) ||| pinSwdioIn w p <<< 7) i =
          if i = 7 then fromCycle w p 0 else bit val (i + 1) := by
        intro i
        rw [bit_or, bit_shiftRight_one]
        by_cases hi : i < 32
        · have hshift := bit_shiftLeft (pinSwdioIn w p) (show 7 < 32 by omega) hi
          have hnum : UInt32.ofNat 7 = 7 := rfl
          rw [hnum] at hshift
          rw [hshift]
          by_cases h7 : i = 7
          · rw [if_pos h7, hval (i + 1) (by omega), h7, hin]
            rfl
          · rw [if_neg h7]
            by_cases hle : 7 ≤ i
            · rw [hhigh (i - 7) (by omega), Bool.and_false, Bool.or_false]
            · simp [hle]
        · rw [if_neg (by omega), bit_of_le (pinSwdioIn w p <<< 7) (by omega), Bool.or_false]
      obtain ⟨hport, hzero, hbit⟩ := @ih (swClockCycle p) ((val >>> 1) ||| pinSwdioIn w p <<< 7) (by
        intro i hi
        rw [hnext, if_neg (by omega), hval (i + 1) (by omega)])
      have hstep : captureBits w (m + 1) val p =
          captureBits w m ((val >>> 1) ||| pinSwdioIn w p <<< 7) (swClockCycle p) := rfl
      rw [hstep]
      refine ⟨?_, hzero, ?_⟩
      · rw [hport, swClockCycle, drive_drive, drive_level, List.replicate_succ]
        rfl
      · intro i hi
        rw [hbit i hi, hnext, hcycle]
        by_cases h7 : i + m = 7
        · rw [if_pos (by omega), if_pos h7, if_neg (by omega), show i + (m + 1) - 8 = 0 by omega]
        · by_cases hlt : i + m < 8
          · rw [if_pos hlt, if_neg h7, if_pos (by omega), Nat.add_assoc]
          · rw [if_neg hlt, if_neg (by omega)]
            show fromCycle w p (1 + (i + m - 8)) = _
            congr 1
            omega

theorem captureBits_byte (n : Nat) :
    ((captureBits w (innerRounds n) 0 p).1 >>> UInt32.ofNat (8 - innerRounds n)).toUInt8 =
      packedByte (fromCycle w p) n 0 := by
  obtain ⟨-, hhigh, hbit⟩ := @captureBits_spec w p (innerRounds n) 0 (fun i _ => BitVec.getLsbD_zero)
  have hrounds : innerRounds n = min 8 n := rfl
  apply byte_eq_of_bit
  intro i hi
  rw [bit_toUInt8 _ hi, bit_shiftRight _ (by omega), packedByte_bit _ _ _ hi, Nat.mul_zero,
    Nat.zero_add]
  by_cases hlt : i < innerRounds n
  · rw [hbit _ (by omega), if_neg (by omega), decide_eq_true (by omega), Bool.true_and]
    congr 1
    omega
  · rw [hhigh _ (by omega), decide_eq_false (by omega), Bool.false_and]

theorem captureBytes_eq (n : Nat) : (captureBytes w n p).1 = packBytes (fromCycle w p) n := by
  induction n using Nat.strongRecOn generalizing p with
  | ind n ih =>
      rw [captureBytes]
      by_cases hn : n = 0
      · rw [dif_pos hn, hn, packBytes_zero]
      · obtain ⟨hport, -⟩ := @captureBits_spec w p (innerRounds n) 0 (fun i _ => BitVec.getLsbD_zero)
        have hrounds : innerRounds n = min 8 n := rfl
        rw [dif_neg hn]
        show _ :: (captureBytes w (n - innerRounds n) (captureBits w (innerRounds n) 0 p).2).1 = _
        rw [ih _ (by omega), captureBits_byte, packBytes_pos _ hn, hport]
        congr 1
        by_cases hle : n ≤ 8
        · rw [show n - innerRounds n = 0 by omega, show n - min 8 n = 0 by omega]
          rfl
        · have hfrom : fromCycle w (p.drive (List.replicate (innerRounds n) (some p.level))) =
              fun i => fromCycle w p (8 + i) := by
            apply fromCycle_add
            rw [drive_cycle, List.length_replicate, hrounds, Nat.min_eq_left (by omega)]
          rw [hfrom, hrounds]

theorem driveBits_trace (m : Nat) (val : UInt32) :
    (driveBits m val p).trace = p.trace ++ (bitsOf m val).map some := by
  induction m generalizing val p with
  | zero => simp [driveBits, bitsOf]
  | succ m ih =>
      rw [driveBits, ih, swWriteBit_eq, bitsOf_succ]
      simp

theorem driveBytes_trace (swdo : Nat → UInt8) (n i : Nat) :
    (driveBytes swdo n i p).trace =
      p.trace ++ (List.range n).map fun j => some (byteBit swdo (8 * i + j)) := by
  induction n using Nat.strongRecOn generalizing i p with
  | ind n ih =>
      rw [driveBytes]
      by_cases hn : n = 0
      · rw [dif_pos hn, hn]
        exact (List.append_nil _).symm
      · have hrounds : innerRounds n = min 8 n := rfl
        have hsplit : List.range n = List.range (innerRounds n) ++
            (List.range (n - innerRounds n)).map (innerRounds n + ·) := by
          rw [← List.range_add]
          congr 1
          omega
        rw [dif_neg hn, ih _ (by omega), driveBits_trace, hsplit, List.map_append, List.map_map,
          List.append_assoc, bitsOf, List.map_map]
        congr 2
        · apply List.map_congr_left
          intro j hj
          have hlt : j < innerRounds n := List.mem_range.mp hj
          show some (bit _ j) = some (byteBit swdo (8 * i + j))
          rw [byteBit, show (8 * i + j) / 8 = i by omega, show (8 * i + j) % 8 = j by omega]
        · apply List.map_congr_left
          intro j hj
          have hlt : j < n - innerRounds n := List.mem_range.mp hj
          show some (byteBit swdo (8 * (i + 1) + j)) = some (byteBit swdo (8 * i + (innerRounds n + j)))
          congr 2
          omega

theorem lastByteMask_bit : ∀ c : UInt8, ∀ i < 8, bit (lastByteMask c).toUInt32 i =
    if c.toNat % 8 = 0 then i == 0 else if c.toNat % 8 = 1 then false else true := by
  have h : ∀ r : Fin 8, ∀ i < 8, bit ((2 >>> UInt8.ofNat r.val) - 1 : UInt8).toUInt32 i =
      if r.val = 0 then i == 0 else if r.val = 1 then false else true := by decide
  intro c i hi
  have hmod : c % 8 = UInt8.ofNat (c.toNat % 8) := by
    apply UInt8.toNat_inj.mp
    rw [UInt8.toNat_mod, UInt8.toNat_ofNat']
    show c.toNat % 8 = c.toNat % 8 % 256
    omega
  rw [lastByteMask, hmod]
  exact h ⟨c.toNat % 8, by omega⟩ i hi

theorem received_word_bit {spi : Spi} {n : Nat} {input : Nat → Bool} (k : Fin 16) {i : Nat}
    (hi : i < 32) : bit (spi.received n input)[k] i =
      if 32 * k + i < n then input (32 * k + i) else spi.bufBit (32 * k + i) := by
  have hword : (spi.received n input)[k] = ofBits fun i =>
      if 32 * k + i < n then input (32 * k + i) else bit spi.dataBuf[k] i := by
    rw [Spi.received]
    exact Vector.getElem_ofFn k.isLt
  rw [hword, bit_ofBits _ hi, Spi.bufBit, show (32 * k + i) / 32 = k by omega,
    show (32 * k + i) % 32 = i by omega, Vector.getElem?_eq_getElem k.isLt, Option.getD_some]
  rfl

theorem dapSpiReadBits_bytes {count : UInt8} (hpos : count ≠ 0) :
    ∃ pData : Nat → UInt8, (dapSpiReadBits w count p).1 =
      ((List.range (divRoundUp count.toNat 8)).map pData).modify (divRoundUp count.toNat 8 - 1)
        (· &&& lastByteMask count) ∧
      ∀ j < 8, ∀ i < 8, bit (pData j).toUInt32 i =
        if 8 * j + i < count.toNat then fromCycle w p (8 * j + i) else p.spi.bufBit (8 * j + i) := by
  have hbuf : (p.spi.capture count).bufBit = p.spi.bufBit := rfl
  have hword := fun k i hi => @received_word_bit (p.spi.capture count) count.toNat (fromCycle w p) k i hi
  have hports := @reception_eq w p (p.spi.capture count) count.toNat rfl rfl rfl (bitLenField_succ hpos)
  rw [hbuf] at hword
  generalize (p.spi.capture count).received count.toNat (fromCycle w p) = words at hword hports
  refine ⟨fun j => byteOf (if j < 4 then words[(0 : Fin 16)] else words[(1 : Fin 16)]) (j % 4), ?_, ?_⟩
  · rw [dapSpiReadBits, hports]
    simp only [List.length_map, List.length_range]
    rfl
  · intro j hj i hi
    rw [bit_byteOf _ _ hi]
    by_cases hlow : j < 4
    · rw [if_pos hlow, hword 0 _ (by omega)]
      simp only [Fin.val_zero, Nat.mul_zero, Nat.zero_add, Nat.mod_eq_of_lt hlow]
    · rw [if_neg hlow, hword 1 _ (by omega)]
      simp only [Fin.val_one, show 32 * 1 + (8 * (j % 4) + i) = 8 * j + i by omega]

theorem modify_append_length {α : Type} (xs : List α) (x : α) (g : α → α) :
    (xs ++ [x]).modify xs.length g = xs ++ [g x] := by
  induction xs with
  | nil => rfl
  | cons y ys ih =>
      rw [List.cons_append, List.length_cons, List.modify_succ_cons, ih]
      rfl

theorem modify_last {α : Type} (f : Nat → α) (g : α → α) (m : Nat) :
    ((List.range (m + 1)).map f).modify m g = (List.range m).map f ++ [g (f m)] := by
  have h := modify_append_length ((List.range m).map f) (f m) g
  rw [List.length_map, List.length_range] at h
  rw [List.range_succ, List.map_append]
  exact h

/-- When `DAP_SPI_ReadBits` stores the first `n` bits of the stream `s`: its mask for the last
byte keeps only bit 0 of a full byte, nothing of a single bit, and all of a longer rest, with
what the buffer held behind the rest. -/
def CaptureExact (n : Nat) (s : Nat → Bool) (spi : Spi) : Prop :=
  if n % 8 = 0 then ∀ i, n - 7 ≤ i → i < n → s i = false
  else if n % 8 = 1 then s (n - 1) = false
  else ∀ i, n ≤ i → i < 8 * divRoundUp n 8 → spi.bufBit i = false

theorem captureExact_iff {n m : Nat} (hm : divRoundUp n 8 = m + 1) {s : Nat → Bool} {spi : Spi} :
    CaptureExact n s spi ↔ ∀ i < 8,
      ((if 8 * m + i < n then s (8 * m + i) else spi.bufBit (8 * m + i)) &&
        if n % 8 = 0 then i == 0 else if n % 8 = 1 then false else true) =
      (decide (8 * m + i < n) && s (8 * m + i)) := by
  rw [divRoundUp] at hm
  rw [CaptureExact, divRoundUp]
  by_cases h0 : n % 8 = 0
  · simp only [if_pos h0]
    constructor
    · intro h i hi
      rw [if_pos (by omega), decide_eq_true (by omega), Bool.true_and]
      by_cases hzero : i = 0
      · rw [hzero]
        exact Bool.and_true _
      · rw [h (8 * m + i) (by omega) (by omega), Bool.false_and]
    · intro h i hi hi'
      have hbit := h (i - 8 * m) (by omega)
      rw [if_pos (by omega), decide_eq_true (by omega), Bool.true_and,
        show 8 * m + (i - 8 * m) = i by omega, beq_eq_false_iff_ne.mpr (by omega),
        Bool.and_false] at hbit
      exact hbit.symm
  · simp only [if_neg h0]
    by_cases h1 : n % 8 = 1
    · simp only [if_pos h1, Bool.and_false]
      constructor
      · intro h i hi
        by_cases hzero : i = 0
        · rw [hzero, show 8 * m + 0 = n - 1 by omega, h, Bool.and_false]
        · rw [decide_eq_false (by omega), Bool.false_and]
      · intro h
        have hbit := h 0 (by omega)
        rw [decide_eq_true (by omega), Bool.true_and, show 8 * m + 0 = n - 1 by omega] at hbit
        exact hbit.symm
    · simp only [if_neg h1, Bool.and_true]
      constructor
      · intro h i hi
        by_cases hlt : 8 * m + i < n
        · rw [if_pos hlt, decide_eq_true hlt, Bool.true_and]
        · rw [if_neg hlt, decide_eq_false hlt, Bool.false_and, h _ (by omega) (by omega)]
      · intro h i hi hi'
        have hbit := h (i - 8 * m) (by omega)
        rw [if_neg (by omega), decide_eq_false (by omega), Bool.false_and,
          show 8 * m + (i - 8 * m) = i by omega] at hbit
        exact hbit

theorem dapSpiReadBits_iff {count : UInt8} (hpos : count ≠ 0) (hle : count.toNat ≤ 64) :
    (dapSpiReadBits w count p).1 = packBytes (fromCycle w p) count.toNat ↔
      CaptureExact count.toNat (fromCycle w p) p.spi := by
  have hne : count.toNat ≠ 0 := fun h => hpos (UInt8.toNat_inj.mp h)
  obtain ⟨m, hm⟩ : ∃ m, divRoundUp count.toNat 8 = m + 1 := by
    refine ⟨divRoundUp count.toNat 8 - 1, ?_⟩
    rw [divRoundUp]
    omega
  have hm' := hm
  rw [divRoundUp] at hm'
  obtain ⟨pData, hbytes, hbit⟩ := @dapSpiReadBits_bytes w p count hpos
  have hfull : (List.range m).map pData =
      (List.range m).map (packedByte (fromCycle w p) count.toNat) := by
    apply List.map_congr_left
    intro j hj
    have hlt : j < m := List.mem_range.mp hj
    apply byte_eq_of_bit
    intro i hi
    rw [hbit j (by omega) i hi, packedByte_bit _ _ _ hi, if_pos (by omega),
      decide_eq_true (by omega), Bool.true_and]
  rw [hbytes, hm, Nat.add_sub_cancel, modify_last, packBytes_succ _ hm, hfull,
    List.append_right_inj, captureExact_iff hm]
  have hmask : ∀ i < 8, bit (pData m &&& lastByteMask count).toUInt32 i =
      ((if 8 * m + i < count.toNat then fromCycle w p (8 * m + i) else p.spi.bufBit (8 * m + i)) &&
        if count.toNat % 8 = 0 then i == 0 else if count.toNat % 8 = 1 then false else true) := by
    intro i hi
    rw [← lastByteMask_bit count i hi, ← hbit m (by omega) i hi]
    simp [bit]
  constructor
  · intro h i hi
    rw [← hmask i hi, ← packedByte_bit _ _ _ hi, List.singleton_inj.mp h]
  · intro h
    rw [List.singleton_inj]
    apply byte_eq_of_bit
    intro i hi
    rw [hmask i hi, packedByte_bit _ _ _ hi, h i hi]

theorem sequenceClocks_range (info : UInt32) :
    1 ≤ (sequenceClocks info).toNat ∧ (sequenceClocks info).toNat ≤ 64 := by
  have hmask : (SWD_SEQUENCE_CLK).toNat = 2 ^ 6 - 1 := rfl
  have hlow : (info &&& SWD_SEQUENCE_CLK).toNat = info.toNat % 64 := by
    rw [UInt32.toNat_and, hmask, Nat.and_two_pow_sub_one_eq_mod]
  rw [sequenceClocks]
  by_cases hzero : info &&& SWD_SEQUENCE_CLK = 0
  · rw [hzero]
    decide
  · have hne : (info &&& SWD_SEQUENCE_CLK).toNat ≠ 0 := fun h => hzero (UInt32.toNat_inj.mp h)
    rw [if_neg (by simpa using hzero)]
    omega

theorem sequenceClocks_byte (info : UInt32) :
    (sequenceClocks info).toUInt8.toNat = (sequenceClocks info).toNat ∧
      (sequenceClocks info).toUInt8 ≠ 0 := by
  obtain ⟨hpos, hle⟩ := sequenceClocks_range info
  have hbyte : (sequenceClocks info).toUInt8.toNat = (sequenceClocks info).toNat := by
    rw [UInt32.toNat_toUInt8]
    omega
  refine ⟨hbyte, ?_⟩
  intro h
  have hz : (0 : UInt8).toNat = 0 := rfl
  rw [h] at hbyte
  omega

def captures (info : UInt32) : Bool := info &&& SWD_SEQUENCE_DIN != 0

/-- Both paths drive the first bits of `swdo`, or both store the bits on SWDIO in bytes. -/
def SameSwd (w : Wires) (garbage : Vector UInt32 16) (p : Port) (info : UInt32)
    (swdo : Nat → UInt8) : Prop :=
  let n := (sequenceClocks info).toNat
  let g := swdSequenceGpio w info swdo p
  ∃ s, swdSequenceSpi w garbage info swdo p = some s ∧
    if captures info then s.1 = g.1 ∧ g.1 = packBytes (fromCycle w p) n
    else s.2.trace = g.2.trace ∧ g.2.trace = p.trace ++ sequenceBits swdo n

theorem sameSwd_output (garbage : Vector UInt32 16) {info : UInt32} (h : captures info = false)
    (swdo : Nat → UInt8) : SameSwd w garbage p info swdo := by
  obtain ⟨-, hle⟩ := sequenceClocks_range info
  obtain ⟨hbyte, hne⟩ := sequenceClocks_byte info
  obtain ⟨q, hq, htrace⟩ := @dapSpiWriteBits_trace w p garbage _ hne (by omega) swdo
  have hgpio := @driveBytes_trace p swdo (sequenceClocks info).toNat 0
  simp only [Nat.mul_zero, Nat.zero_add] at hgpio
  rw [hbyte] at htrace
  rw [captures] at h
  simp only [SameSwd, swdSequenceSpi, swdSequenceGpio, captures, h, Bool.false_eq_true, if_false, hq]
  exact ⟨([], q), rfl, htrace.trans hgpio.symm, hgpio⟩

theorem sameSwd_input (garbage : Vector UInt32 16) {info : UInt32} (h : captures info = true)
    (swdo : Nat → UInt8) : SameSwd w garbage p info swdo ↔
      CaptureExact (sequenceClocks info).toNat (fromCycle w p) p.spi := by
  obtain ⟨-, hle⟩ := sequenceClocks_range info
  obtain ⟨hbyte, hne⟩ := sequenceClocks_byte info
  have hspi := @dapSpiReadBits_iff w p _ hne (by omega)
  have hgpio := @captureBytes_eq w p (sequenceClocks info).toNat
  rw [hbyte] at hspi
  rw [captures] at h
  simp only [SameSwd, swdSequenceSpi, swdSequenceGpio, captures, h, if_true, hgpio]
  rw [← hspi]
  constructor
  · rintro ⟨s, hs, heq, -⟩
    cases hs
    exact heq
  · intro heq
    exact ⟨_, rfl, heq, trivial⟩

/-- The two paths of `SWD_Sequence` agree on every output, and on the input exactly when the
mask of `DAP_SPI_ReadBits` does no harm. -/
theorem sameSwd_iff (w : Wires) (garbage : Vector UInt32 16) (p : Port) (info : UInt32)
    (swdo : Nat → UInt8) : SameSwd w garbage p info swdo ↔
      (captures info = true →
        CaptureExact (sequenceClocks info).toNat (fromCycle w p) p.spi) := by
  cases h : captures info with
  | true =>
      rw [sameSwd_input garbage h swdo]
      exact ⟨fun hc _ => hc, fun hc => hc rfl⟩
  | false =>
      refine ⟨fun _ hc => absurd hc Bool.false_ne_true, ?_⟩
      exact fun _ => sameSwd_output garbage h swdo

/-- Eight bits, all high, are stored as 01. -/
theorem not_sameSwd_byte : ¬ ∀ (w : Wires) (garbage : Vector UInt32 16) (p : Port) (info : UInt32)
    (swdo : Nat → UInt8), SameSwd w garbage p info swdo := by
  intro h
  have hbyte := h ⟨fun _ => true, fun _ => true, fun _ => 0⟩ (.replicate 16 0)
    ⟨dapSetup .esp32, [], true, ⟨false, false, false, 0, 0, .replicate 16 0⟩⟩ 0x88 fun _ => 0
  have hcapture := (sameSwd_input _ rfl _).mp hbyte
  have hclocks : (sequenceClocks 0x88).toNat = 8 := by decide
  rw [hclocks, CaptureExact, if_pos (by decide)] at hcapture
  exact absurd (hcapture 7 (by decide) (by decide)) (by decide)

end WirelessEsp.SwdSequence
