import WirelessEsp.LeWords

namespace WirelessEsp.WebsocketMask

open LeWords

def coRotr32 (n c : UInt32) : UInt32 :=
  let mask := 32 - 1
  let c := c &&& mask
  (n >>> c) ||| (n <<< ((0 - c) &&& mask))

def maskBytes (pMask : UInt32) (data : List UInt8) : List UInt8 :=
  data.mapIdx (fun i x => x ^^^ byteOf pMask (i % 4))

/-- `n` words of four bytes each; the rest of the data stays. -/
def maskWords (newMask : UInt32) : Nat → List UInt8 → List UInt8
  | n + 1, a :: b :: c :: d :: data =>
      let w := ofBytes a b c d ^^^ newMask
      byteOf w 0 :: byteOf w 1 :: byteOf w 2 :: byteOf w 3 :: maskWords newMask n data
  | _, data => data

def newMask (mask : UInt32) (alignLen : Nat) : UInt32 :=
  match alignLen with
  | 1 => coRotr32 mask 8
  | 2 => coRotr32 mask 16
  | 3 => coRotr32 mask 24
  | _ => mask

/-- `dst` is the address of the first byte of `data`. -/
def coWebsocketFastMask (dst : UInt32) (mask : UInt32) (data : List UInt8) : List UInt8 :=
  let len := data.length
  if len ≥ 8 then
    let alignLen := ((0 - dst) % 4).toNat
    let len := len - alignLen
    let head := maskBytes mask (data.take alignLen)
    let m := newMask mask alignLen
    let words := maskWords m (len / 4) ((data.drop alignLen).take (len / 4 * 4))
    head ++ words ++ maskBytes m ((data.drop alignLen).drop (len / 4 * 4))
  else maskBytes mask data

def coWebsocketGetNewMask (mask : UInt32) (len : Nat) : UInt32 :=
  match len % 4 with
  | 1 => coRotr32 mask 8
  | 2 => coRotr32 mask 16
  | 3 => coRotr32 mask 24
  | _ => mask

theorem getNewMask_eq (mask : UInt32) (len : Nat) :
    coWebsocketGetNewMask mask len = newMask mask (len % 4) := rfl

theorem maskBytes_eq (mask : UInt32) (data : List UInt8) :
    maskBytes mask data = xorFrom mask 0 data := by
  simp only [maskBytes, xorFrom, Nat.zero_add]

theorem maskWords_eq (mask : UInt32) (n : Nat) (data : List UInt8) (hn : data.length = 4 * n) :
    maskWords mask n data = xorFrom mask 0 data := by
  induction n generalizing data with
  | zero =>
      have hnil : data = [] := List.eq_nil_of_length_eq_zero hn
      rw [hnil, maskWords, xorFrom_nil]
      simp
  | succ n ih =>
      match data, hn with
      | a :: b :: c :: d :: data, hn =>
          have hrest : data.length = 4 * n := by simp only [List.length_cons] at hn; omega
          have hshift : xorFrom mask 4 data = xorFrom mask 0 data :=
            xorFrom_congr (fun i => by congr 1; omega) data
          rw [maskWords, ih data hrest]
          simp only [byteOf_xor, xorFrom_cons]
          rw [byteOf_ofBytes a b c d 0 (by omega), byteOf_ofBytes a b c d 1 (by omega),
            byteOf_ofBytes a b c d 2 (by omega), byteOf_ofBytes a b c d 3 (by omega),
            show 0 + 1 + 1 + 1 + 1 = 4 from rfl, hshift]
          rfl

theorem byteOf_getNewMask (mask : UInt32) (len k : Nat) :
    byteOf (coWebsocketGetNewMask mask len) (k % 4) = byteOf mask ((len + k) % 4) := by
  have hcases : len % 4 = 0 ∨ len % 4 = 1 ∨ len % 4 = 2 ∨ len % 4 = 3 := by omega
  have hmod : (len + k) % 4 = (len % 4 + k) % 4 := by omega
  rw [coWebsocketGetNewMask, hmod]
  rcases hcases with h | h | h | h
  · rw [h, Nat.zero_add]; rfl
  · rw [h]; exact byteOf_rotr_add mask 1 k (by omega)
  · rw [h]; exact byteOf_rotr_add mask 2 k (by omega)
  · rw [h]; exact byteOf_rotr_add mask 3 k (by omega)

theorem xorFrom_getNewMask (mask : UInt32) (len n : Nat) (data : List UInt8) :
    xorFrom (coWebsocketGetNewMask mask len) n data = xorFrom mask (len + n) data :=
  xorFrom_congr (fun i => by rw [byteOf_getNewMask, Nat.add_assoc]) data

theorem coWebsocketFastMask_eq (dst mask : UInt32) (data : List UInt8) :
    coWebsocketFastMask dst mask data = xorFrom mask 0 data := by
  rw [coWebsocketFastMask]
  split
  next hlen =>
    have halign : ((0 - dst) % 4).toNat < 4 := by
      rw [UInt32.toNat_mod]; exact Nat.mod_lt _ (by decide)
    generalize ((0 - dst) % 4).toNat = alignLen at halign ⊢
    have hmask : newMask mask alignLen = coWebsocketGetNewMask mask alignLen := by
      rw [getNewMask_eq, Nat.mod_eq_of_lt halign]
    have hhead := List.take_append_drop alignLen data
    have htail := List.take_append_drop ((data.length - alignLen) / 4 * 4) (data.drop alignLen)
    have hwords : ((data.drop alignLen).take ((data.length - alignLen) / 4 * 4)).length =
        4 * ((data.length - alignLen) / 4) := by
      rw [List.length_take, List.length_drop]; omega
    have hshift : ∀ xs : List UInt8,
        xorFrom (coWebsocketGetNewMask mask alignLen) 0 xs =
          xorFrom (coWebsocketGetNewMask mask alignLen)
            (4 * ((data.length - alignLen) / 4)) xs :=
      xorFrom_congr (fun i => by congr 1; omega)
    simp only [hmask, maskBytes_eq, maskWords_eq _ _ _ hwords]
    conv => rhs; rw [← hhead, xorFrom_append, ← htail, xorFrom_append]
    have htake : (data.take alignLen).length = alignLen := List.length_take_of_le (by omega)
    rw [htake, hwords, List.append_assoc, xorFrom_getNewMask, Nat.zero_add, Nat.add_zero,
      hshift, xorFrom_getNewMask]
  next => exact maskBytes_eq mask data

end WirelessEsp.WebsocketMask
