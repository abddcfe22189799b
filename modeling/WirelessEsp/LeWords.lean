import Mathlib.Data.List.Basic
import Mathlib.Tactic.IntervalCases

namespace WirelessEsp.LeWords

/-- Byte `i` of a 32-bit word in little-endian order. -/
def byteOf (w : UInt32) (i : Nat) : UInt8 := ⟨w.toBitVec.extractLsb' (8 * i) 8⟩

/-- The word stored in four consecutive bytes, the first one the least significant. -/
def ofBytes (a b c d : UInt8) : UInt32 :=
  a.toUInt32 ||| b.toUInt32 <<< 8 ||| c.toUInt32 <<< 16 ||| d.toUInt32 <<< 24

def rotr (n c : UInt32) : UInt32 :=
  (n >>> (c &&& 31)) ||| (n <<< ((0 - (c &&& 31)) &&& 31))

theorem byteOf_ofBytes (a b c d : UInt8) (i : Nat) (hi : i < 4) :
    byteOf (ofBytes a b c d) i = [a, b, c, d][i] := by
  apply UInt8.toBitVec_inj.mp
  apply BitVec.eq_of_getLsbD_eq
  intro k hk
  interval_cases i <;> interval_cases k <;> simp [byteOf, ofBytes]

theorem byteOf_ofBytes_get (f : Nat → UInt8) {i : Nat} (hi : i < 4) :
    byteOf (ofBytes (f 0) (f 1) (f 2) (f 3)) i = f i := by
  rw [byteOf_ofBytes _ _ _ _ i hi]
  interval_cases i <;> rfl

theorem byteOf_xor (v w : UInt32) (i : Nat) : byteOf (v ^^^ w) i = byteOf v i ^^^ byteOf w i := by
  apply UInt8.toBitVec_inj.mp
  apply BitVec.eq_of_getLsbD_eq
  intro k hk
  simp [byteOf, hk]

theorem byteOf_rotr (w : UInt32) (n i : Nat) (hn : n < 4) (hi : i < 4) :
    byteOf (rotr w (UInt32.ofNat (8 * n))) i = byteOf w ((i + n) % 4) := by
  apply UInt8.toBitVec_inj.mp
  apply BitVec.eq_of_getLsbD_eq
  intro k hk
  interval_cases n <;> interval_cases i <;> interval_cases k <;> simp [byteOf, rotr]

/-- Exclusive or of a byte sequence with the bytes of a word, repeated from byte `start` on. -/
def xorFrom (w : UInt32) (start : Nat) (xs : List UInt8) : List UInt8 :=
  xs.mapIdx (fun i x => x ^^^ byteOf w ((start + i) % 4))

@[simp] theorem xorFrom_nil (w : UInt32) (start : Nat) : xorFrom w start [] = [] := rfl

@[simp] theorem xorFrom_length (w : UInt32) (start : Nat) (xs : List UInt8) :
    (xorFrom w start xs).length = xs.length := by
  simp [xorFrom]

theorem xorFrom_cons (w : UInt32) (start : Nat) (x : UInt8) (xs : List UInt8) :
    xorFrom w start (x :: xs) = (x ^^^ byteOf w (start % 4)) :: xorFrom w (start + 1) xs := by
  simp [xorFrom, List.mapIdx_cons, Nat.add_assoc, Nat.add_comm 1]

theorem xorFrom_append (w : UInt32) (start : Nat) (xs ys : List UInt8) :
    xorFrom w start (xs ++ ys) = xorFrom w start xs ++ xorFrom w (start + xs.length) ys := by
  induction xs generalizing start with
  | nil => simp
  | cons x xs ih =>
      rw [List.cons_append, xorFrom_cons, ih, xorFrom_cons, List.length_cons,
        Nat.add_right_comm, Nat.add_assoc start xs.length 1]
      rfl

theorem xorFrom_congr {v w : UInt32} {m n : Nat}
    (h : ∀ i, byteOf v ((m + i) % 4) = byteOf w ((n + i) % 4)) (xs : List UInt8) :
    xorFrom v m xs = xorFrom w n xs := by
  simp only [xorFrom, h]

theorem byteOf_rotr_add (w : UInt32) (n k : Nat) (hn : n < 4) :
    byteOf (rotr w (UInt32.ofNat (8 * n))) (k % 4) = byteOf w ((n + k) % 4) := by
  rw [byteOf_rotr w n (k % 4) hn (Nat.mod_lt _ (by omega))]
  congr 1
  omega

end WirelessEsp.LeWords
