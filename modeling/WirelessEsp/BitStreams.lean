import WirelessEsp.LeWords

namespace WirelessEsp.BitStreams

open LeWords

/-- Bit `i` of a word; bit 0 is the least significant one and the first on the wire. -/
def bit (x : UInt32) (i : Nat) : Bool := x.toBitVec.getLsbD i

def ofBits (f : Nat → Bool) : UInt32 :=
  ⟨(BitVec.iunfoldr (fun (i : Fin 32) (s : Unit) => (s, f i)) ()).2⟩

/-- The first `n` bits of a word in the order in which it is shifted out. -/
def bitsOf (n : Nat) (x : UInt32) : List Bool := (List.range n).map (bit x)

def parityOf (f : Nat → Bool) : Nat → Bool
  | 0 => false
  | n + 1 => parityOf f n ^^ f n

theorem eq_of_bit {x y : UInt32} (h : ∀ i < 32, bit x i = bit y i) : x = y := by
  apply UInt32.toBitVec_inj.mp
  apply BitVec.eq_of_getLsbD_eq
  exact h

@[simp] theorem bit_ofBits (f : Nat → Bool) {i : Nat} (hi : i < 32) : bit (ofBits f) i = f i :=
  BitVec.iunfoldr_getLsbD (fun _ => ()) ⟨i, hi⟩ (fun _ => rfl)

@[simp] theorem bit_xor (x y : UInt32) (i : Nat) : bit (x ^^^ y) i = (bit x i ^^ bit y i) := by
  simp [bit]

@[simp] theorem bit_or (x y : UInt32) (i : Nat) : bit (x ||| y) i = (bit x i || bit y i) := by
  simp [bit]

theorem bit_shiftRight (x : UInt32) {n : Nat} (hn : n < 32) (i : Nat) :
    bit (x >>> UInt32.ofNat n) i = bit x (n + i) := by
  have hmod : n % 4294967296 % 32 = n := by omega
  simp [bit, hmod]

theorem bit_shiftRight_one (x : UInt32) (i : Nat) : bit (x >>> 1) i = bit x (i + 1) := by
  rw [Nat.add_comm]
  exact bit_shiftRight x (show 1 < 32 by omega) i

theorem bit_of_le (x : UInt32) {i : Nat} (hi : 32 ≤ i) : bit x i = false :=
  BitVec.getLsbD_of_ge _ _ hi

theorem bit_shiftLeft (x : UInt32) {n : Nat} (hn : n < 32) {i : Nat} (hi : i < 32) :
    bit (x <<< UInt32.ofNat n) i = (decide (n ≤ i) && bit x (i - n)) := by
  have hmod : n % 4294967296 % 32 = n := by omega
  by_cases h : n ≤ i
  · have hlt : i - n < 32 := by omega
    simp [bit, hmod, hi, h, hlt, Nat.not_lt.mpr h]
  · simp [bit, hmod, hi, h, Nat.lt_of_not_le h]

theorem bit_add_zero (x y : UInt32) : bit (x + y) 0 = (bit x 0 ^^ bit y 0) := by
  simp only [bit, UInt32.toBitVec_add, BitVec.getLsbD_add (show 0 < 32 by omega)]
  simp [BitVec.carry, Nat.mod_one]

@[simp] theorem bitsOf_length (n : Nat) (x : UInt32) : (bitsOf n x).length = n := by
  simp [bitsOf]

theorem bitsOf_succ (n : Nat) (x : UInt32) : bitsOf (n + 1) x = bit x 0 :: bitsOf n (x >>> 1) := by
  simp [bitsOf, List.range_succ_eq_map, Function.comp_def, bit_shiftRight_one]

theorem parityOf_congr {f g : Nat → Bool} {n : Nat} (h : ∀ i < n, f i = g i) :
    parityOf f n = parityOf g n := by
  induction n with
  | zero => rfl
  | succ n ih =>
      rw [parityOf, parityOf, ih fun i hi => h i (Nat.lt_succ_of_lt hi), h n (Nat.lt_succ_self n)]

theorem parityOf_ofBits (f : Nat → Bool) : parityOf (bit (ofBits f)) 32 = parityOf f 32 :=
  parityOf_congr fun _ hi => bit_ofBits f hi

theorem parityOf_add (f : Nat → Bool) (m n : Nat) :
    parityOf f (m + n) = (parityOf f m ^^ parityOf (fun i => f (m + i)) n) := by
  induction n with
  | zero => simp [parityOf]
  | succ n ih => rw [← Nat.add_assoc, parityOf, ih, parityOf, Bool.xor_assoc]

theorem parityOf_xor (f g : Nat → Bool) (n : Nat) :
    parityOf (fun i => f i ^^ g i) n = (parityOf f n ^^ parityOf g n) := by
  induction n with
  | zero => rfl
  | succ n ih =>
      simp only [parityOf, ih, Bool.xor_assoc]
      rw [Bool.xor_left_comm (parityOf g n)]

theorem parityOf_fold (x : UInt32) {n : Nat} (hn : n < 32) :
    parityOf (bit (x ^^^ x >>> UInt32.ofNat n)) n = parityOf (bit x) (n + n) := by
  have hbits : bit (x ^^^ x >>> UInt32.ofNat n) = fun i => bit x i ^^ bit x (n + i) := by
    funext i
    rw [bit_xor, bit_shiftRight x hn]
  rw [hbits, parityOf_xor, parityOf_add]

def nibble (a b c d : Bool) : UInt32 :=
  (if a then 1 else 0) + (if b then 2 else 0) + (if c then 4 else 0) + (if d then 8 else 0)

theorem bit_nibble (a b c d : Bool) (i : Nat) :
    bit (nibble a b c d) i = [a, b, c, d].getD i false := by
  by_cases hi : i < 32
  · interval_cases i <;> revert a b c d <;> decide
  · have hlen : [a, b, c, d].length ≤ i := by simp only [List.length_cons, List.length_nil]; omega
    rw [bit_of_le _ (by omega), List.getD_eq_getElem?_getD, List.getElem?_eq_none hlen]
    rfl

theorem and_nibble (x : UInt32) : x &&& 0xF = nibble (bit x 0) (bit x 1) (bit x 2) (bit x 3) := by
  apply eq_of_bit
  intro i hi
  rw [bit_nibble]
  interval_cases i <;> simp [bit]

theorem and_seven (x : UInt32) : x &&& 7 = nibble (bit x 0) (bit x 1) (bit x 2) false := by
  apply eq_of_bit
  intro i hi
  rw [bit_nibble]
  interval_cases i <;> simp [bit]

theorem and_one (x : UInt32) : x &&& 1 = (bit x 0).toUInt32 := by
  apply eq_of_bit
  intro i hi
  cases h : bit x 0 <;> interval_cases i <;> simp_all [bit]

theorem and_one_beq (x : UInt32) : (x &&& 1 == 1) = bit x 0 := by
  rw [and_one]
  cases bit x 0 <;> rfl

theorem and_one_bne (x : UInt32) : (x &&& 1 != 0) = bit x 0 := by
  rw [and_one]
  cases bit x 0 <;> rfl

theorem bit_toUInt32 (b : Bool) : bit b.toUInt32 0 = b := by
  cases b <;> decide

theorem toUInt64_low (a b : UInt32) :
    (((a.toUInt64 ||| b.toUInt64 <<< 32) >>> 0) &&& 0xFFFFFFFF).toUInt32 = a := by
  apply eq_of_bit
  intro i hi
  interval_cases i <;> simp [bit]

theorem toUInt64_high (a b : UInt32) :
    (((a.toUInt64 ||| b.toUInt64 <<< 32) >>> (0 + 32)) &&& 1).toUInt8 = (bit b 0).toUInt8 := by
  apply UInt8.toBitVec_inj.mp
  apply BitVec.eq_of_getLsbD_eq
  intro i hi
  cases hb : bit b 0 <;> interval_cases i <;> simp_all [bit]

/-- Bit `i` of a sequence of bytes, the least significant bit of each byte first. -/
def byteBit (f : Nat → UInt8) (i : Nat) : Bool := bit (f (i / 8)).toUInt32 (i % 8)

/-- The first `n` bits of a stream in bytes; the high bits of the last byte are zero. -/
def packBytes (f : Nat → Bool) (n : Nat) : List UInt8 :=
  (List.range ((n + 7) / 8)).map fun j =>
    (ofBits fun i => decide (8 * j + i < n) && f (8 * j + i)).toUInt8

theorem byte_eq_of_bit {a b : UInt8} (h : ∀ i < 8, bit a.toUInt32 i = bit b.toUInt32 i) :
    a = b := by
  apply UInt8.toBitVec_inj.mp
  apply BitVec.eq_of_getLsbD_eq
  intro i hi
  have hbit := h i hi
  simpa [bit, Nat.lt_trans hi (show 8 < 32 by omega)] using hbit

theorem bit_toUInt8 (x : UInt32) {i : Nat} (hi : i < 8) : bit x.toUInt8.toUInt32 i = bit x i := by
  have hlt : i < 32 := by omega
  rw [bit, UInt8.toBitVec_toUInt32, UInt32.toBitVec_toUInt8, BitVec.getLsbD_setWidth,
    BitVec.getLsbD_setWidth, bit]
  simp [hi, hlt]

theorem bit_byteOf (x : UInt32) (j : Nat) {i : Nat} (hi : i < 8) :
    bit (byteOf x j).toUInt32 i = bit x (8 * j + i) := by
  have hlt : i < 32 := by omega
  rw [bit, UInt8.toBitVec_toUInt32, BitVec.getLsbD_setWidth, byteOf, BitVec.getLsbD_extractLsb', bit]
  simp [hi, hlt]

theorem bit_ofBytes (f : Nat → UInt8) {i : Nat} (hi : i < 32) :
    bit (ofBytes (f 0) (f 1) (f 2) (f 3)) i = byteBit f i := by
  have hbyte := byteOf_ofBytes_get f (show i / 8 < 4 by omega)
  rw [byteBit, ← hbyte, bit_byteOf _ _ (Nat.mod_lt i (by omega)), Nat.div_add_mod]

end WirelessEsp.BitStreams
