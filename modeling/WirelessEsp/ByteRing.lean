import Mathlib.Data.List.Basic

namespace WirelessEsp.ByteRing

variable {α : Type}

/-- A byte buffer of FreeRTOS: its memory, the offsets of the next read and the next write, the
offset from which on nothing is free, and the number of bytes that wait. -/
structure Ring (α : Type) where
  memory : List α
  read : Nat
  write : Nat
  free : Nat
  full : Bool
  waiting : Nat

def create (memory : List α) : Ring α := ⟨memory, 0, 0, 0, false, 0⟩

def Ring.size (r : Ring α) : Nat := r.memory.length

def Ring.wrap (r : Ring α) (i : Nat) : Nat := if i = r.size then 0 else i

def overwrite (memory : List α) (i : Nat) (xs : List α) : List α :=
  memory.take i ++ xs ++ memory.drop (i + xs.length)

def slice (memory : List α) (i n : Nat) : List α := (memory.drop i).take n

/-- Whether `k` bytes have room; an empty ring and a full one differ in the flag only. -/
def Ring.fits (r : Ring α) (k : Nat) : Bool :=
  if r.write = r.free then !r.full
  else if r.write < r.free then k ≤ r.free - r.write
  else k ≤ r.size - (r.write - r.free)

def Ring.copyPart (r : Ring α) (item : List α) : Ring α :=
  { r with
    memory := overwrite r.memory r.write item
    write := r.wrap (r.write + item.length)
    waiting := r.waiting + item.length }

def Ring.copyItem (r : Ring α) (item : List α) : Ring α :=
  let room := r.size - r.write
  let r := if room < item.length then (r.copyPart (item.take room)).copyPart (item.drop room)
    else r.copyPart item
  { r with full := r.full || decide (r.write = r.free) }

def Ring.send (r : Ring α) (item : List α) : Option (Ring α) :=
  if r.fits item.length then some (r.copyItem item) else none

def Ring.avail (r : Ring α) : Bool :=
  decide (r.read = r.free) && decide (0 < r.waiting) && (decide (r.read ≠ r.write) || r.full)

/-- The contiguous bytes from the read offset on, up to `maxSize`. -/
def Ring.pieceLength (r : Ring α) (maxSize : Nat) : Nat :=
  let stretch := if r.write < r.read ∨ r.full = true then r.size - r.read else r.write - r.read
  min stretch maxSize

def Ring.receiveUpTo (r : Ring α) (maxSize : Nat) : Option ((Nat × Nat) × Ring α) :=
  if r.avail then
    some ((r.read, r.pieceLength maxSize),
      { r with
        read := r.wrap (r.read + r.pieceLength maxSize)
        waiting := r.waiting - r.pieceLength maxSize })
  else none

def Ring.giveBack (r : Ring α) : Ring α := { r with free := r.read, full := false }

theorem getElem?_overwrite (memory xs : List α) (i j : Nat) (h : i + xs.length ≤ memory.length) :
    (overwrite memory i xs)[j]? =
      if i ≤ j ∧ j < i + xs.length then xs[j - i]? else memory[j]? := by
  have htake : (memory.take i).length = i := List.length_take_of_le (by omega)
  rw [overwrite, List.append_assoc]
  by_cases hbefore : j < i
  · rw [List.getElem?_append_left (by omega), List.getElem?_take_of_lt hbefore,
      if_neg (by omega)]
  · rw [List.getElem?_append_right (by omega), htake]
    by_cases hinside : j < i + xs.length
    · rw [List.getElem?_append_left (by omega), if_pos (by omega)]
    · rw [List.getElem?_append_right (by omega), List.getElem?_drop, if_neg (by omega)]
      congr 1
      omega

theorem overwrite_length (memory xs : List α) (i : Nat) (h : i + xs.length ≤ memory.length) :
    (overwrite memory i xs).length = memory.length := by
  simp only [overwrite, List.length_append, List.length_take, List.length_drop]
  omega

theorem getElem?_slice (memory : List α) (i n j : Nat) :
    (slice memory i n)[j]? = if j < n then memory[i + j]? else none := by
  rw [slice, List.getElem?_take]
  split
  · rw [List.getElem?_drop]
  · rfl

theorem slice_overwrite (memory xs : List α) (i : Nat) (h : i + xs.length ≤ memory.length) :
    slice (overwrite memory i xs) i xs.length = xs := by
  apply List.ext_getElem?
  intro j
  rw [getElem?_slice, getElem?_overwrite memory xs i (i + j) h]
  by_cases hj : j < xs.length
  · rw [if_pos hj, if_pos (by omega), Nat.add_sub_cancel_left]
  · rw [if_neg hj, List.getElem?_eq_none (by omega)]

theorem slice_overwrite_ne (memory xs : List α) {i j n : Nat}
    (h : i + xs.length ≤ memory.length) (hne : j + n ≤ i ∨ i + xs.length ≤ j) :
    slice (overwrite memory i xs) j n = slice memory j n := by
  apply List.ext_getElem?
  intro k
  rw [getElem?_slice, getElem?_slice]
  split
  · rw [getElem?_overwrite memory xs i (j + k) h, if_neg (by omega)]
  · rfl

def slot (m f k : Nat) : Nat := if f + k < m then f + k else f + k - m

theorem slot_zero {m f : Nat} (hf : f < m) : slot m f 0 = f := if_pos hf

theorem slot_lt {m f k : Nat} (hf : f < m) (hk : k ≤ m) : slot m f k < m := by
  rw [slot]
  split <;> omega

theorem slot_eq_first {m f k : Nat} (hf : f < m) (hk : k ≤ m) :
    slot m f k = f ↔ k = 0 ∨ k = m := by
  rw [slot]
  split <;> omega

theorem slot_ne {m f k l : Nat} (hk : k < m) (hl : l < m) (hkl : k ≠ l) :
    slot m f k ≠ slot m f l := by
  simp only [slot]
  split <;> split <;> omega

theorem slot_succ {m f k : Nat} (hf : f < m) (hk : k < m) :
    slot m f (k + 1) = if slot m f k + 1 = m then 0 else slot m f k + 1 := by
  simp only [slot]
  split <;> split <;> split <;> omega

theorem slot_slot {m f k l : Nat} (hf : f < m) (hkl : k + l ≤ m) :
    slot m (slot m f k) l = slot m f (k + l) := by
  simp only [slot]
  split <;> split <;> split <;> omega

/-- The ring consists of whole blocks: from block `f` on those of an item that is out, which is
one at most, and then the packets that wait. -/
structure Holds (n m : Nat) (r : Ring α) (f : Nat) (taken packets : List (List α)) : Prop where
  size : r.memory.length = n * m
  first : f < m
  count : (taken ++ packets).length ≤ m
  one : taken.length ≤ 1
  free : r.free = n * f
  read : r.read = n * slot m f taken.length
  write : r.write = n * slot m f (taken ++ packets).length
  full : r.full = decide ((taken ++ packets).length = m)
  waiting : r.waiting = n * packets.length
  blocks : ∀ k p, (taken ++ packets)[k]? = some p → slice r.memory (n * slot m f k) n = p

theorem create_holds {n m : Nat} {memory : List α} (hm : 0 < m) (h : memory.length = n * m) :
    Holds n m (create memory) 0 [] [] where
  size := h
  first := hm
  count := Nat.zero_le m
  one := Nat.zero_le 1
  free := rfl
  read := by rw [List.length_nil, slot_zero hm]; rfl
  write := by rw [List.length_append, List.length_nil, slot_zero hm]; rfl
  full := (decide_eq_false (Nat.ne_of_lt hm)).symm
  waiting := rfl
  blocks := fun k p h => by cases h

variable {n m f : Nat} {r r' : Ring α} {taken packets : List (List α)} {p : List α}

theorem wrap_slot (hn : 0 < n) (hsize : r.memory.length = n * m) (hf : f < m) {k : Nat}
    (hk : k < m) : r.wrap (n * slot m f k + n) = n * slot m f (k + 1) := by
  have hnext : n * slot m f k + n = n * (slot m f k + 1) := (Nat.mul_succ n _).symm
  rw [slot_succ hf hk, Ring.wrap, Ring.size, hsize, hnext]
  by_cases hlast : slot m f k + 1 = m
  · rw [hlast, if_pos rfl, if_pos rfl, Nat.mul_zero]
  · have hne : n * (slot m f k + 1) ≠ n * m := fun h => hlast (Nat.eq_of_mul_eq_mul_left hn h)
    rw [if_neg hne, if_neg hlast]

theorem blocks_apart {i j : Nat} (h : i ≠ j) : n * i + n ≤ n * j ∨ n * j + n ≤ n * i := by
  rcases Nat.lt_or_gt_of_ne h with hlt | hlt
  · exact .inl (Nat.mul_succ n i ▸ Nat.mul_le_mul_left n hlt)
  · exact .inr (Nat.mul_succ n j ▸ Nat.mul_le_mul_left n hlt)

theorem block_inside {j : Nat} (h : j < m) : n * j + n ≤ n * m :=
  Nat.mul_succ n j ▸ Nat.mul_le_mul_left n h

namespace Holds

theorem write_eq_free_iff (h : Holds n m r f taken packets) (hn : 0 < n) :
    r.write = r.free ↔ (taken ++ packets).length = 0 ∨ (taken ++ packets).length = m := by
  rw [h.write, h.free, ← slot_eq_first h.first h.count]
  exact ⟨fun heq => Nat.eq_of_mul_eq_mul_left hn heq, fun heq => by rw [heq]⟩

theorem fits_iff (h : Holds n m r f taken packets) (hn : 0 < n) :
    r.fits n = true ↔ (taken ++ packets).length < m := by
  have hcount := h.count
  have hfirst := h.first
  rw [Ring.fits]
  by_cases heq : r.write = r.free
  · rw [if_pos heq, h.full, Bool.not_eq_true', decide_eq_false_iff_not]
    omega
  · have hlt : (taken ++ packets).length < m := by
      have hne := (h.write_eq_free_iff hn).not.mp heq
      omega
    have hslot : slot m f (taken ++ packets).length ≠ f := by
      intro hs
      exact heq (by rw [h.write, h.free, hs])
    have hroom := slot_lt hfirst h.count
    simp only [if_neg heq, hlt, iff_true]
    rw [h.write, h.free] at heq ⊢
    rw [Ring.size, h.size]
    have hinside : n * f + n ≤ n * m := block_inside hfirst
    have hinside' : n * slot m f (taken ++ packets).length + n ≤ n * m := block_inside hroom
    rcases blocks_apart (n := n) hslot with hbefore | hafter
    · rw [if_pos (by omega)]
      exact decide_eq_true (by omega)
    · rw [if_neg (by omega)]
      exact decide_eq_true (by omega)

theorem copyItem_eq (h : Holds n m r f taken packets) (hlt : (taken ++ packets).length < m)
    (hp : p.length = n) :
    r.copyItem p = { r.copyPart p with
      full := r.full || decide ((r.copyPart p).write = (r.copyPart p).free) } := by
  have hinside := block_inside (n := n) (slot_lt h.first (Nat.le_of_lt hlt))
  have hroom : ¬ r.size - r.write < p.length := by
    rw [Ring.size, h.size, h.write, hp]
    omega
  simp only [Ring.copyItem, if_neg hroom]
  rfl

theorem write_inside (h : Holds n m r f taken packets) (hlt : (taken ++ packets).length < m)
    (hp : p.length = n) : r.write + p.length ≤ r.memory.length := by
  rw [h.write, hp, h.size]
  exact block_inside (slot_lt h.first (Nat.le_of_lt hlt))

theorem copyPart_write (h : Holds n m r f taken packets) (hn : 0 < n)
    (hlt : (taken ++ packets).length < m) (hp : p.length = n) :
    (r.copyPart p).write = n * slot m f ((taken ++ packets).length + 1) := by
  rw [Ring.copyPart, h.write, hp]
  exact wrap_slot hn h.size h.first hlt

theorem copyPart_full (h : Holds n m r f taken packets) (hn : 0 < n)
    (hlt : (taken ++ packets).length < m) (hp : p.length = n) :
    (r.full || decide ((r.copyPart p).write = (r.copyPart p).free)) =
      decide ((taken ++ packets).length + 1 = m) := by
  have hnotFull : r.full = false := h.full.trans (decide_eq_false (Nat.ne_of_lt hlt))
  have hslot := slot_eq_first h.first hlt
  have hend : (r.copyPart p).write = r.free ↔ (taken ++ packets).length + 1 = m := by
    rw [h.copyPart_write hn hlt hp, h.free]
    constructor
    · intro heq
      rcases hslot.mp (Nat.eq_of_mul_eq_mul_left hn heq) with hzero | hlast
      · exact absurd hzero (Nat.succ_ne_zero _)
      · exact hlast
    · intro hlast
      rw [hslot.mpr (.inr hlast)]
  rw [hnotFull, Bool.false_or]
  exact decide_eq_decide.mpr hend

theorem copyPart_blocks (h : Holds n m r f taken packets) (hlt : (taken ++ packets).length < m)
    (hp : p.length = n) {k : Nat} {q : List α} (hk : (taken ++ packets ++ [p])[k]? = some q) :
    slice (r.copyPart p).memory (n * slot m f k) n = q := by
  have hinside := h.write_inside hlt hp
  change slice (overwrite r.memory r.write p) (n * slot m f k) n = q
  by_cases hold : k < (taken ++ packets).length
  · rw [List.getElem?_append_left hold] at hk
    have hne := slot_ne (f := f) (Nat.lt_trans hold hlt) hlt (Nat.ne_of_lt hold)
    rw [slice_overwrite_ne r.memory p hinside, h.blocks k q hk]
    rw [h.write, hp]
    exact blocks_apart hne
  · rw [List.getElem?_append_right (Nat.le_of_not_lt hold)] at hk
    have hlast : k = (taken ++ packets).length := by
      have hsome := (List.getElem?_eq_some_iff.mp hk).1
      rw [List.length_singleton] at hsome
      omega
    subst hlast
    rw [Nat.sub_self, List.getElem?_cons_zero, Option.some.injEq] at hk
    rw [← hk, ← h.write, ← hp]
    exact slice_overwrite r.memory p r.write hinside

theorem send (h : Holds n m r f taken packets) (hn : 0 < n) (hp : p.length = n)
    (hs : r.send p = some r') : Holds n m r' f taken (packets ++ [p]) := by
  rw [Ring.send, Option.ite_none_right_eq_some] at hs
  obtain ⟨hfits, hr'⟩ := hs
  have hlt : (taken ++ packets).length < m := (h.fits_iff hn).mp (hp ▸ hfits)
  rw [h.copyItem_eq hlt hp, Option.some.injEq] at hr'
  have hlength : (taken ++ (packets ++ [p])).length = (taken ++ packets).length + 1 := by
    rw [← List.append_assoc, List.length_append, List.length_singleton]
  subst hr'
  refine ⟨?_, h.first, ?_, h.one, h.free, h.read, ?_, ?_, ?_, ?_⟩
  · exact (overwrite_length _ _ _ (h.write_inside hlt hp)).trans h.size
  · rw [hlength]
    exact hlt
  · rw [hlength]
    exact h.copyPart_write hn hlt hp
  · rw [hlength]
    exact h.copyPart_full hn hlt hp
  · rw [List.length_append, List.length_singleton, Nat.mul_succ, ← h.waiting, ← hp]
    rfl
  · intro k q hk
    rw [← List.append_assoc] at hk
    exact h.copyPart_blocks hlt hp hk

theorem read_first (h : Holds n m r f [] packets) : r.read = n * f := by
  rw [h.read, List.length_nil, slot_zero h.first]

theorem pieceLength_eq (h : Holds n m r f [] (p :: packets)) (hn : 0 < n) :
    r.pieceLength n = n := by
  have hread := h.read_first
  have hinside := block_inside (n := n) h.first
  rw [Ring.pieceLength]
  by_cases haround : r.write < r.read ∨ r.full = true
  · have hstretch : n ≤ r.size - r.read := by
      rw [Ring.size, h.size, hread]
      omega
    rw [if_pos haround]
    exact Nat.min_eq_right hstretch
  · obtain ⟨hle, hnotFull⟩ := not_or.mp haround
    have hslot : slot m f ([] ++ p :: packets).length ≠ f := by
      intro heq
      rcases (slot_eq_first h.first h.count).mp heq with hzero | hall
      · exact absurd hzero (Nat.succ_ne_zero _)
      · exact hnotFull (h.full.trans (decide_eq_true hall))
    have hstretch : n ≤ r.write - r.read := by
      rw [h.write, hread] at hle ⊢
      rcases blocks_apart (n := n) hslot with hbefore | hafter
      · omega
      · omega
    rw [if_neg haround]
    exact Nat.min_eq_right hstretch

theorem avail_first (h : Holds n m r f [] (p :: packets)) (hn : 0 < n) : r.avail = true := by
  have hfree : r.read = r.free := h.read_first.trans h.free.symm
  have hwaiting : 0 < r.waiting := by
    rw [h.waiting]
    exact Nat.mul_pos hn (Nat.succ_pos _)
  have hmore : r.read ≠ r.write ∨ r.full = true := by
    by_cases hall : ([] ++ p :: packets).length = m
    · exact .inr (h.full.trans (decide_eq_true hall))
    · refine .inl fun heq => ?_
      rcases (h.write_eq_free_iff hn).mp (heq.symm.trans hfree) with hzero | hm
      · exact absurd hzero (Nat.succ_ne_zero _)
      · exact hall hm
  rw [Ring.avail, decide_eq_true hfree, decide_eq_true hwaiting, Bool.and_self, Bool.true_and,
    Bool.or_eq_true, decide_eq_true_eq]
  exact hmore

theorem receive (h : Holds n m r f [] (p :: packets)) (hn : 0 < n) :
    ∃ r', r.receiveUpTo n = some ((n * f, n), r') ∧ Holds n m r' f [p] packets := by
  have hpiece := h.pieceLength_eq hn
  have hread := h.read_first
  have hwrap : r.wrap (n * f + n) = n * slot m f 1 := by
    have hstep := wrap_slot hn h.size h.first (Nat.zero_lt_of_lt h.first)
    rwa [slot_zero h.first] at hstep
  refine ⟨{ r with read := n * slot m f 1, waiting := r.waiting - n }, ?_, ?_⟩
  · rw [Ring.receiveUpTo, if_pos (h.avail_first hn), hpiece, hread, hwrap]
  · refine ⟨h.size, h.first, h.count, Nat.le_refl 1, h.free, rfl, h.write, h.full, ?_, h.blocks⟩
    change r.waiting - n = n * packets.length
    rw [h.waiting, List.length_cons, Nat.mul_succ, Nat.add_sub_cancel]

theorem receive_none (h : Holds n m r f taken packets) (hn : 0 < n) (hm : 1 < m)
    (hnone : taken ≠ [] ∨ packets = []) : r.receiveUpTo n = none := by
  have havail : r.avail = false := by
    rcases hnone with htaken | hempty
    · have hone : taken.length = 1 := by
        have := h.one
        have := List.length_pos_of_ne_nil htaken
        omega
      have hread : r.read ≠ r.free := by
        rw [h.read, h.free, hone]
        intro heq
        rcases (slot_eq_first h.first (Nat.le_of_lt hm)).mp (Nat.eq_of_mul_eq_mul_left hn heq)
          with hzero | hlast
        · exact absurd hzero Nat.one_ne_zero
        · omega
      rw [Ring.avail, decide_eq_false hread, Bool.false_and, Bool.false_and]
    · have hwaiting : ¬ 0 < r.waiting := by
        rw [h.waiting, hempty, List.length_nil, Nat.mul_zero]
        exact Nat.lt_irrefl 0
      rw [Ring.avail, decide_eq_false hwaiting, Bool.and_false, Bool.false_and]
  rw [Ring.receiveUpTo, havail]
  rfl

theorem receive_cases (h : Holds n m r f taken packets) (hn : 0 < n) (hm : 1 < m) :
    r.receiveUpTo n = none ∨ ∃ p ps r', packets = p :: ps ∧
      r.receiveUpTo n = some ((n * f, n), r') ∧ slice r.memory (n * f) n = p ∧
      Holds n m r' f [p] ps := by
  cases taken with
  | cons q qs => exact .inl (h.receive_none hn hm (.inl (List.cons_ne_nil q qs)))
  | nil =>
      cases packets with
      | nil => exact .inl (h.receive_none hn hm (.inr rfl))
      | cons p ps =>
          obtain ⟨r', hr', hholds⟩ := h.receive hn
          have hblock := h.blocks 0 p rfl
          rw [slot_zero h.first] at hblock
          exact .inr ⟨p, ps, r', rfl, hr', hblock, hholds⟩

theorem giveBack (h : Holds n m r f [p] packets) :
    Holds n m r.giveBack (slot m f 1) [] packets := by
  have hcount : packets.length + 1 ≤ m := h.count
  have hslots : ∀ k, k < packets.length + 1 → slot m (slot m f 1) k = slot m f (k + 1) := by
    intro k hk
    rw [slot_slot h.first (by omega), Nat.add_comm]
  have hfirst : slot m f 1 < m := slot_lt h.first (by omega)
  refine ⟨h.size, hfirst, Nat.le_of_succ_le hcount, Nat.zero_le 1, h.read, ?_, ?_, ?_, h.waiting,
    ?_⟩
  · rw [List.length_nil, slot_zero hfirst]
    exact h.read
  · rw [List.nil_append, hslots _ (Nat.lt_succ_self _)]
    exact h.write
  · exact (decide_eq_false (Nat.ne_of_lt hcount)).symm
  · intro k q hk
    have hlt : k < packets.length := (List.getElem?_eq_some_iff.mp hk).1
    rw [hslots k (Nat.lt_succ_of_lt hlt)]
    exact h.blocks (k + 1) q hk

theorem overwriteTaken (h : Holds n m r f [p] packets) {i : Nat} {xs : List α}
    (hfits : i + xs.length ≤ n) :
    Holds n m { r with memory := overwrite r.memory (n * f + i) xs } f
      [slice (overwrite r.memory (n * f + i) xs) (n * f) n] packets := by
  have hblock := block_inside (n := n) h.first
  have hinside : n * f + i + xs.length ≤ r.memory.length := by rw [h.size]; omega
  refine ⟨(overwrite_length _ _ _ hinside).trans h.size, h.first, h.count, Nat.le_refl 1, h.free,
    h.read, h.write, h.full, h.waiting, ?_⟩
  intro k q hk
  cases k with
  | zero =>
      rw [slot_zero h.first]
      exact Option.some.inj hk
  | succ k =>
      have hlt : k + 1 < m := by
        have hsome := (List.getElem?_eq_some_iff.mp hk).1
        exact Nat.lt_of_lt_of_le hsome h.count
      have hne : slot m f (k + 1) ≠ f := by
        intro heq
        rcases (slot_eq_first h.first (Nat.le_of_lt hlt)).mp heq with hzero | hlast <;> omega
      rw [← h.blocks (k + 1) q hk]
      refine slice_overwrite_ne r.memory xs hinside ?_
      rcases blocks_apart (n := n) hne with hbefore | hafter
      · exact .inl (by omega)
      · exact .inr (by omega)

end Holds

end WirelessEsp.ByteRing
