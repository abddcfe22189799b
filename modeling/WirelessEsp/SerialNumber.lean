import Mathlib.Algebra.Order.Ring.Int

namespace WirelessEsp.SerialNumber

/-- How far one 32-bit serial number is ahead of another one, as a signed number. -/
def ahead (later earlier : UInt32) : Int := (later - earlier).toInt32.toInt

variable {a b : UInt32}

theorem ahead_eq (a b : UInt32) : ahead a b =
    if 2 * (a - b).toNat < 2 ^ 32 then ((a - b).toNat : Int) else ((a - b).toNat : Int) - 2 ^ 32 := by
  exact BitVec.toInt_eq_toNat_cond (a - b).toBitVec

theorem ahead_of_close (hab : a.toNat < b.toNat + 2 ^ 31) (hba : b.toNat < a.toNat + 2 ^ 31) :
    ahead a b = (a.toNat : Int) - b.toNat := by
  have ha := a.toNat_lt
  have hb := b.toNat_lt
  rw [ahead_eq, UInt32.toNat_sub]
  split <;> omega

theorem ahead_of_base {base : UInt32} (ha : (a - base).toNat < 2 ^ 31)
    (hb : (b - base).toNat < 2 ^ 31) : ahead a b = ((a - base).toNat : Int) - (b - base).toNat := by
  have hsub : a - b = (a - base) - (b - base) := by
    grind
  rw [ahead, hsub]
  exact ahead_of_close (by omega) (by omega)

theorem ahead_pos_iff (ha : a.toNat < 2 ^ 31) (hb : b.toNat < 2 ^ 31) : 0 < ahead a b ↔ b < a := by
  rw [ahead_of_close (by omega) (by omega), UInt32.lt_iff_toNat_lt]
  omega

theorem ahead_neg_iff (ha : a.toNat < 2 ^ 31) (hb : b.toNat < 2 ^ 31) : ahead a b < 0 ↔ a < b := by
  rw [ahead_of_close (by omega) (by omega), UInt32.lt_iff_toNat_lt]
  omega

theorem ahead_nonneg_iff : 0 ≤ ahead a b ↔ (a - b).toNat < 2 ^ 31 := by
  have hlt := (a - b).toNat_lt
  rw [ahead_eq]
  split <;> omega

theorem ahead_self (a : UInt32) : ahead a a = 0 := by
  rw [ahead, UInt32.sub_self]
  rfl

theorem toNat_of_ahead_nonneg (h : 0 ≤ ahead a b) : ((a - b).toNat : Int) = ahead a b := by
  have hhalf := ahead_nonneg_iff.mp h
  rw [ahead_eq, if_pos (by omega)]

theorem ahead_symm (h : -2 ^ 31 < ahead a b) : ahead b a = -ahead a b := by
  have ha := a.toNat_lt
  have hb := b.toNat_lt
  rw [ahead_eq, UInt32.toNat_sub] at h ⊢
  rw [ahead_eq, UInt32.toNat_sub]
  split at h <;> split <;> omega

theorem sub_succ_toNat (h : 0 < (a - b).toNat) : (a - (b + 1)).toNat + 1 = (a - b).toNat := by
  have hone : (1 : UInt32).toNat = 1 := rfl
  have hsub : a - (b + 1) = a - b - 1 := by
    grind
  have hlt := (a - b).toNat_lt
  rw [hsub, UInt32.toNat_sub, hone]
  omega

theorem succ_toNat (h : a.toNat < 2 ^ 31) : (a + 1).toNat = a.toNat + 1 := by
  have hone : (1 : UInt32).toNat = 1 := rfl
  rw [UInt32.toNat_add, hone]
  omega

theorem ofNat_succ (n : Nat) : UInt32.ofNat (n + 1) = UInt32.ofNat n + 1 := by
  exact UInt32.ofNat_add n 1

end WirelessEsp.SerialNumber
