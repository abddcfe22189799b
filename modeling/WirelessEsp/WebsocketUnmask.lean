import Mathlib.Logic.Function.Basic
import WirelessEsp.WebsocketMask

namespace WirelessEsp.WebsocketUnmask

open LeWords
open WebsocketMask (newMask coWebsocketGetNewMask getNewMask_eq byteOf_getNewMask)
open Function (update)

abbrev Memory := UInt32 → UInt8

def maskHead (pMask data : UInt32) : Nat → Nat → Memory → Memory
  | 0, _, m => m
  | n + 1, i, m =>
      let p := data + UInt32.ofNat i
      maskHead pMask data n (i + 1) (update m p (m p ^^^ byteOf pMask i))

def loadWord (m : Memory) (p : UInt32) : UInt32 := ofBytes (m p) (m (p + 1)) (m (p + 2)) (m (p + 3))

def storeWord (m : Memory) (p w : UInt32) : Memory :=
  update (update (update (update m p (byteOf w 0)) (p + 1) (byteOf w 1)) (p + 2) (byteOf w 2))
    (p + 3) (byteOf w 3)

def maskWords (newMask : UInt32) : Nat → UInt32 → Memory → Option Memory
  | 0, _, m => some m
  | n + 1, dst, m =>
      if dst % 4 = 0 then
        maskWords newMask n (dst + 4) (storeWord m dst (loadWord m dst ^^^ newMask))
      else none

def maskTail (pMask : UInt32) : Nat → Nat → UInt32 → Memory → Memory
  | 0, _, _, m => m
  | n + 1, i, dst, m =>
      maskTail pMask n (i + 1) (dst + 1) (update m dst (m dst ^^^ byteOf pMask (i % 4)))

def coWebsocketFastMask (data mask len : UInt32) (m : Memory) : Option Memory :=
  if len ≥ 8 then do
    let alignLen := (0 - data) % 4
    let len := len - alignLen
    let m := maskHead mask data alignLen.toNat 0 m
    let newMask := newMask mask alignLen.toNat
    let dst := data + alignLen
    let m ← maskWords newMask (len / 4).toNat dst m
    pure (maskTail newMask (len % 4).toNat 0 (dst + len / 4 * 4) m)
  else pure (maskTail mask len.toNat 0 data m)

/-- The `n` bytes from `data` on are masked, the first one with byte `phase` of the mask. -/
def masked (mask data : UInt32) (phase n : Nat) (m : Memory) : Memory := fun p =>
  if (p - data).toNat < n then m p ^^^ byteOf mask ((phase + (p - data).toNat) % 4) else m p

theorem masked_zero (mask data : UInt32) (phase : Nat) (m : Memory) :
    masked mask data phase 0 m = m := by
  funext p
  rw [masked, if_neg (Nat.not_lt_zero _)]

theorem sub_add_toNat (p data : UInt32) {k : Nat} (hk : k < 2 ^ 32) :
    (p - (data + UInt32.ofNat k)).toNat =
      if k ≤ (p - data).toNat then (p - data).toNat - k else (p - data).toNat + 2 ^ 32 - k := by
  have hsub : p - (data + UInt32.ofNat k) = p - data - UInt32.ofNat k := by
    simp only [UInt32.sub_eq_add_neg, UInt32.neg_add, UInt32.add_assoc]
  have hlt := (p - data).toNat_lt
  rw [hsub, UInt32.toNat_sub, UInt32.toNat_ofNat', Nat.mod_eq_of_lt hk]
  split
  · omega
  · omega

theorem masked_append (mask data : UInt32) (phase : Nat) {k n : Nat} (hk : k < 2 ^ 32)
    (h : k + n ≤ 2 ^ 32) (m : Memory) : masked mask data phase (k + n) m =
      masked mask (data + UInt32.ofNat k) (phase + k) n (masked mask data phase k m) := by
  funext p
  have hsub := sub_add_toNat p data hk
  rw [masked, masked, masked, hsub]
  by_cases hfirst : (p - data).toNat < k
  · rw [if_neg (Nat.not_le.mpr hfirst), if_pos (Nat.lt_add_right n hfirst), if_neg (by omega),
      if_pos hfirst]
  · have hphase : phase + k + ((p - data).toNat - k) = phase + (p - data).toNat := by omega
    rw [if_pos (Nat.not_lt.mp hfirst), if_neg hfirst, hphase]
    by_cases hsecond : (p - data).toNat < k + n
    · rw [if_pos hsecond, if_pos (by omega)]
    · rw [if_neg hsecond, if_neg (by omega)]

theorem masked_congr {mask mask' : UInt32} {phase phase' : Nat}
    (h : ∀ i, byteOf mask ((phase + i) % 4) = byteOf mask' ((phase' + i) % 4)) (data : UInt32)
    (n : Nat) (m : Memory) : masked mask data phase n m = masked mask' data phase' n m := by
  funext p
  rw [masked, masked, h]

theorem masked_one (mask data : UInt32) (phase : Nat) (m : Memory) :
    masked mask data phase 1 m = update m data (m data ^^^ byteOf mask (phase % 4)) := by
  funext p
  rw [masked, Function.update_apply]
  by_cases hp : p = data
  · rw [if_pos hp, hp, UInt32.sub_self, if_pos (by decide)]
    rfl
  · rw [if_neg hp, if_neg]
    intro hlt
    have hzero : p - data = 0 := UInt32.toNat_inj.mp (Nat.lt_one_iff.mp hlt)
    exact hp (UInt32.sub_eq_iff_eq_add.mp hzero |>.trans (UInt32.zero_add data))

theorem masked_succ (mask data : UInt32) (phase : Nat) {n : Nat} (h : n < 2 ^ 32) (m : Memory) :
    masked mask data phase (n + 1) m = masked mask (data + 1) (phase + 1) n
      (update m data (m data ^^^ byteOf mask (phase % 4))) := by
  rw [Nat.add_comm n 1, masked_append mask data phase (by decide) (by omega), masked_one]
  rfl

theorem masked_word (mask data : UInt32) (m : Memory) :
    masked mask data 0 4 m = storeWord m data (loadWord m data ^^^ mask) := by
  have htwo : data + 1 + 1 = data + 2 := by rw [UInt32.add_assoc]; rfl
  have hthree : data + 2 + 1 = data + 3 := by rw [UInt32.add_assoc]; rfl
  rw [masked_succ mask data 0 (by decide), masked_succ mask (data + 1) _ (by decide), htwo,
    masked_succ mask (data + 2) _ (by decide), hthree, masked_one]
  simp only [storeWord, loadWord, byteOf_xor]
  rw [byteOf_ofBytes _ _ _ _ 0 (by decide), byteOf_ofBytes _ _ _ _ 1 (by decide),
    byteOf_ofBytes _ _ _ _ 2 (by decide), byteOf_ofBytes _ _ _ _ 3 (by decide)]
  simp [Function.update_of_ne]

theorem maskTail_eq (mask dst : UInt32) {n : Nat} (i : Nat) (h : n ≤ 2 ^ 32) (m : Memory) :
    maskTail mask n i dst m = masked mask dst i n m := by
  induction n generalizing i dst m with
  | zero => exact (masked_zero ..).symm
  | succ n ih => rw [maskTail, ih (dst + 1) (i + 1) (by omega), masked_succ mask dst i (by omega)]

theorem maskHead_eq (mask data : UInt32) {n i : Nat} (h : i + n ≤ 4) (m : Memory) :
    maskHead mask data n i m = masked mask (data + UInt32.ofNat i) i n m := by
  induction n generalizing i m with
  | zero => exact (masked_zero ..).symm
  | succ n ih =>
      have hnext : data + UInt32.ofNat i + 1 = data + UInt32.ofNat (i + 1) := by
        rw [UInt32.ofNat_add, UInt32.add_assoc]
        rfl
      rw [maskHead, masked_succ _ _ _ (by omega), hnext, Nat.mod_eq_of_lt (by omega)]
      exact ih (by omega) _

theorem maskWords_eq (mask : UInt32) {n : Nat} {dst : UInt32} (hdst : dst % 4 = 0)
    (h : 4 * n ≤ 2 ^ 32) (m : Memory) :
    maskWords mask n dst m = some (masked mask dst 0 (4 * n) m) := by
  induction n generalizing dst m with
  | zero => rw [maskWords, Nat.mul_zero, masked_zero]
  | succ n ih =>
      have hnext : (dst + 4) % 4 = 0 := by
        have hzero := congrArg UInt32.toNat hdst
        rw [UInt32.toNat_mod] at hzero
        apply UInt32.toNat_inj.mp
        rw [UInt32.toNat_mod, UInt32.toNat_add]
        change (dst.toNat + 4) % 2 ^ 32 % 4 = 0
        change dst.toNat % 4 = 0 at hzero
        omega
      have hphase : ∀ data n m, masked mask data 4 n m = masked mask data 0 n m := by
        intro data n m
        apply masked_congr
        intro i
        congr 1
        omega
      rw [maskWords, if_pos hdst, ih hnext (by omega), ← masked_word, Nat.mul_succ, Nat.add_comm,
        masked_append mask dst 0 (by decide) (by omega)]
      exact congrArg some (hphase ..).symm

theorem align_toNat (data : UInt32) :
    ((0 - data) % 4).toNat < 4 ∧ (data + (0 - data) % 4) % 4 = 0 := by
  have halign : ((0 - data) % 4).toNat = (2 ^ 32 - data.toNat) % 4 := by
    rw [UInt32.toNat_mod, UInt32.toNat_sub]
    change (2 ^ 32 - data.toNat + 0) % 2 ^ 32 % 4 = _
    omega
  refine ⟨by omega, ?_⟩
  apply UInt32.toNat_inj.mp
  rw [UInt32.toNat_mod, UInt32.toNat_add, halign]
  change (data.toNat + _) % 2 ^ 32 % 4 = 0
  have hlt := data.toNat_lt
  omega

theorem masked_getNewMask (mask data : UInt32) (k : Nat) {phase : Nat} (hphase : phase % 4 = 0)
    (n : Nat) (m : Memory) : masked (coWebsocketGetNewMask mask k) data 0 n m =
      masked mask data (k + phase) n m := by
  apply masked_congr
  intro i
  rw [byteOf_getNewMask]
  congr 1
  omega

theorem coWebsocketFastMask_eq (data mask len : UInt32) (m : Memory) :
    coWebsocketFastMask data mask len m = some (masked mask data 0 len.toNat m) := by
  have hlen := len.toNat_lt
  rw [coWebsocketFastMask]
  by_cases height : len ≥ 8
  · obtain ⟨halign, haligned⟩ := align_toNat data
    generalize (0 - data) % 4 = alignLen at halign haligned
    have height' : 8 ≤ len.toNat := UInt32.le_iff_toNat_le.mp height
    have hrest : (len - alignLen).toNat = len.toNat - alignLen.toNat :=
      UInt32.toNat_sub_of_le _ _ (UInt32.le_iff_toNat_le.mpr (by omega))
    have hnew : newMask mask alignLen.toNat = coWebsocketGetNewMask mask alignLen.toNat := by
      rw [getNewMask_eq, Nat.mod_eq_of_lt halign]
    have hwords : ((len - alignLen) / 4).toNat = (len.toNat - alignLen.toNat) / 4 := by
      rw [UInt32.toNat_div, hrest]
      rfl
    have hrem : ((len - alignLen) % 4).toNat = (len.toNat - alignLen.toNat) % 4 := by
      rw [UInt32.toNat_mod, hrest]
      rfl
    generalize hq : (len.toNat - alignLen.toNat) / 4 = q at hwords
    generalize ht : (len.toNat - alignLen.toNat) % 4 = t at hrem
    have hsum : len.toNat = alignLen.toNat + (4 * q + t) := by omega
    have hbytes : (len - alignLen) / 4 * 4 = UInt32.ofNat (4 * q) := by
      apply UInt32.toNat_inj.mp
      rw [UInt32.toNat_mul, hwords, UInt32.toNat_ofNat']
      exact congrArg (· % 2 ^ 32) (Nat.mul_comm q 4)
    have hfour : 4 * q % 4 = 0 := Nat.mul_mod_right 4 q
    have hwhole : masked mask data 0 len.toNat m =
        masked mask (data + alignLen + UInt32.ofNat (4 * q)) (alignLen.toNat + 4 * q) t
          (masked mask (data + alignLen) (alignLen.toNat + 0) (4 * q)
            (masked mask data 0 alignLen.toNat m)) := by
      rw [hsum, masked_append mask data 0 (by omega) (by omega), UInt32.ofNat_toNat, Nat.zero_add,
        masked_append mask (data + alignLen) _ (by omega) (by omega)]
      rfl
    have hstart : data + UInt32.ofNat 0 = data := UInt32.add_zero data
    rw [if_pos height, hwhole, ← masked_getNewMask mask _ _ hfour, ← masked_getNewMask mask _ _ rfl]
    simp only [Option.bind_eq_bind]
    rw [maskHead_eq mask data (by omega), hwords, maskWords_eq _ haligned (by omega)]
    simp only [Option.bind_some]
    rw [hrem, maskTail_eq _ _ 0 (by omega), hbytes, hnew, hstart]
    rfl
  · rw [if_neg height, maskTail_eq mask data 0 (Nat.le_of_lt hlen)]
    rfl

/-- A part of a payload with the address that it is received at. -/
structure Chunk where
  data : UInt32
  bytes : List UInt8
  fits : bytes.length < 2 ^ 32

def Chunk.len (c : Chunk) : UInt32 := UInt32.ofNat c.bytes.length

def Chunk.Covers (c : Chunk) (p : UInt32) : Prop := (p - c.data).toNat < c.bytes.length

theorem Chunk.len_toNat (c : Chunk) : c.len.toNat = c.bytes.length := by
  rw [Chunk.len, UInt32.toNat_ofNat', Nat.mod_eq_of_lt c.fits]

def Chunk.receive (c : Chunk) (m : Memory) : Memory := fun p =>
  c.bytes.getD (p - c.data).toNat (m p)

def slice (m : Memory) (data : UInt32) (n : Nat) : List UInt8 :=
  (List.range n).map fun i => m (data + UInt32.ofNat i)

/-- The chunks are unmasked one after the other; the mask is advanced by each. -/
def unmask : UInt32 → List Chunk → Memory → Option (List UInt8 × Memory)
  | _, [], m => some ([], m)
  | mask, c :: cs, m => do
      let m ← coWebsocketFastMask c.data mask c.len (c.receive m)
      let bytes := slice m c.data c.bytes.length
      let (rest, m) ← unmask (coWebsocketGetNewMask mask c.bytes.length) cs m
      pure (bytes ++ rest, m)

theorem slice_masked (c : Chunk) (mask : UInt32) (m : Memory) :
    slice (masked mask c.data 0 c.bytes.length (c.receive m)) c.data c.bytes.length =
      xorFrom mask 0 c.bytes := by
  apply List.ext_getElem
  · rw [slice, List.length_map, List.length_range, xorFrom_length]
  · intro i hi hi'
    have hlen : i < c.bytes.length := by rwa [xorFrom_length] at hi'
    have hfit := c.fits
    have hsub : (c.data + UInt32.ofNat i - c.data).toNat = i := by
      rw [UInt32.add_comm, UInt32.add_sub_cancel, UInt32.toNat_ofNat', Nat.mod_eq_of_lt (by omega)]
    simp only [slice, List.getElem_map, List.getElem_range, masked, Chunk.receive, hsub, hlen,
      if_true, xorFrom, List.getElem_mapIdx, List.getD_eq_getElem?_getD,
      List.getElem?_eq_getElem, Option.getD_some]

theorem masked_outside {mask data p : UInt32} {phase n : Nat} (h : ¬ (p - data).toNat < n)
    (m : Memory) : masked mask data phase n m p = m p := if_neg h

theorem receive_outside {c : Chunk} {p : UInt32} (h : ¬ c.Covers p) (m : Memory) :
    c.receive m p = m p := by
  rw [Chunk.receive, List.getD_eq_getElem?_getD, List.getElem?_eq_none (Nat.not_lt.mp h),
    Option.getD_none]

theorem unmask_eq (mask : UInt32) (cs : List Chunk) (m : Memory) : ∃ m',
    unmask mask cs m = some (xorFrom mask 0 (cs.flatMap Chunk.bytes), m') ∧
    ∀ p, (∀ c ∈ cs, ¬ c.Covers p) → m' p = m p := by
  induction cs generalizing mask m with
  | nil => exact ⟨m, rfl, fun _ _ => rfl⟩
  | cons c cs ih =>
      obtain ⟨m', hrest, hframe⟩ := ih (coWebsocketGetNewMask mask c.bytes.length)
        (masked mask c.data 0 c.bytes.length (c.receive m))
      refine ⟨m', ?_, ?_⟩
      · rw [unmask, coWebsocketFastMask_eq, Chunk.len_toNat]
        simp only [Option.bind_eq_bind, Option.bind_some, hrest]
        rw [slice_masked, List.flatMap_cons, xorFrom_append, Nat.zero_add,
          WebsocketMask.xorFrom_getNewMask]
        rfl
      · intro p hp
        obtain ⟨hc, hcs⟩ := List.forall_mem_cons.mp hp
        rw [hframe p hcs, masked_outside hc, receive_outside hc]

/-- The word-wise unmasking of a payload is the byte-wise one, however the payload is cut and
wherever its parts lie, and no call touches a byte outside of its chunk. -/
theorem unmask_bytewise (mask : UInt32) (cs : List Chunk) (m : Memory) :
    (∃ m', unmask mask cs m = some ((cs.flatMap Chunk.bytes).mapIdx
        fun i x => x ^^^ byteOf mask (i % 4), m') ∧
      ∀ p, (∀ c ∈ cs, ¬ c.Covers p) → m' p = m p) ∧
    ∀ (data mask len : UInt32) (m : Memory), ∃ m', coWebsocketFastMask data mask len m = some m' ∧
      ∀ p, ¬ (p - data).toNat < len.toNat → m' p = m p := by
  constructor
  · obtain ⟨m', hunmask, hframe⟩ := unmask_eq mask cs m
    refine ⟨m', ?_, hframe⟩
    rw [hunmask]
    simp only [xorFrom, Nat.zero_add]
  · intro data mask len m
    exact ⟨_, coWebsocketFastMask_eq data mask len m, fun p hp => masked_outside hp m⟩

end WirelessEsp.WebsocketUnmask
