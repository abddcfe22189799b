import Mathlib.Data.List.Basic

namespace WirelessEsp.MemoryBlock

variable {α : Type}

/-- Writes `xs` into an allocated block from position `i` on; a write that leaves the block is
`none`. -/
def store (block : List α) (i : Nat) (xs : List α) : Option (List α) :=
  if i + xs.length ≤ block.length then some (block.take i ++ xs ++ block.drop (i + xs.length))
  else none

/-- Reads `n` elements from position `i` on; a read that leaves the block is `none`. -/
def fetch (block : List α) (i n : Nat) : Option (List α) :=
  if i + n ≤ block.length then some ((block.drop i).take n) else none

variable {block pre old post xs : List α} {i n : Nat}

theorem store_segment (hblock : block = pre ++ old ++ post) (hi : i = pre.length)
    (h : xs.length = old.length) : store block i xs = some (pre ++ xs ++ post) := by
  subst hblock hi
  have hfit : pre.length + xs.length ≤ (pre ++ old ++ post).length := by
    simp only [List.length_append]
    omega
  have hdrop : (pre ++ old ++ post).drop (pre.length + xs.length) = post := by
    rw [h, ← List.length_append, List.drop_left]
  have htake : (pre ++ old ++ post).take pre.length = pre := by
    rw [List.append_assoc, List.take_left]
  rw [store, if_pos hfit, hdrop, htake]

theorem fetch_segment (hblock : block = pre ++ xs ++ post) (hi : i = pre.length)
    (hn : n = xs.length) : fetch block i n = some xs := by
  subst hblock hi hn
  have hfit : pre.length + xs.length ≤ (pre ++ xs ++ post).length := by
    simp only [List.length_append]
    omega
  rw [fetch, if_pos hfit, List.append_assoc, List.drop_left, List.take_left]

theorem store_start (h : xs.length ≤ block.length) :
    store block 0 xs = some (xs ++ block.drop xs.length) := by
  have hblock : block = [] ++ block.take xs.length ++ block.drop xs.length :=
    (List.take_append_drop xs.length block).symm
  exact store_segment hblock rfl (List.length_take_of_le h).symm

theorem fetch_start (h : n ≤ block.length) : fetch block 0 n = some (block.take n) := by
  have hblock : block = [] ++ block.take n ++ block.drop n := (List.take_append_drop n block).symm
  exact fetch_segment hblock rfl (List.length_take_of_le h).symm

theorem store_outside (h : block.length < i + xs.length) : store block i xs = none :=
  if_neg (Nat.not_le_of_lt h)

theorem exists_segment (h : i + n ≤ block.length) :
    ∃ pre xs post, block = pre ++ xs ++ post ∧ pre.length = i ∧ xs.length = n := by
  refine ⟨block.take i, (block.drop i).take n, (block.drop i).drop n, ?_, ?_, ?_⟩
  · rw [List.append_assoc, List.take_append_drop, List.take_append_drop]
  · exact List.length_take_of_le (by omega)
  · rw [List.length_take_of_le]
    rw [List.length_drop]
    omega

end WirelessEsp.MemoryBlock
