import Mathlib.Data.List.Basic

namespace WirelessEsp.StringSearch

variable {α β : Type} (fold : α → β) (needle : List β)

/-- The elements from position `k` on begin with `needle`, up to `fold`. -/
def MatchAt (s : List α) (k : Nat) : Prop := needle <+: (s.drop k).map fold

instance [DecidableEq β] (s : List α) (k : Nat) : Decidable (MatchAt fold needle s k) :=
  inferInstanceAs (Decidable (_ <+: _))

def firstMatch [DecidableEq β] (s : List α) : Option Nat :=
  (List.range (s.length + 1)).find? fun k => MatchAt fold needle s k

variable {fold needle} {s t : List α} {k : Nat}

theorem MatchAt.le_length (h : MatchAt fold needle s k) (hk : k ≤ s.length) :
    k + needle.length ≤ s.length := by
  have hlen := List.IsPrefix.length_le h
  rw [List.length_map, List.length_drop] at hlen
  omega

theorem MatchAt.append (h : MatchAt fold needle s k) (hk : k ≤ s.length) (t : List α) :
    MatchAt fold needle (s ++ t) k := by
  rw [MatchAt, List.drop_append_of_le_length hk, List.map_append]
  exact h.trans (List.prefix_append _ _)

theorem MatchAt.of_append (h : MatchAt fold needle (s ++ t) k)
    (hk : k + needle.length ≤ s.length) : MatchAt fold needle s k := by
  rw [MatchAt, List.drop_append_of_le_length (by omega), List.map_append] at h
  refine List.prefix_of_prefix_length_le h (List.prefix_append _ _) ?_
  rw [List.length_map, List.length_drop]
  omega

theorem MatchAt.getElem? (h : MatchAt fold needle s k) {i : Nat} (hi : i < needle.length) :
    (s[k + i]?).map fold = needle[i]? := by
  obtain ⟨rest, hrest⟩ := h
  have hget : (needle ++ rest)[i]? = needle[i]? := List.getElem?_append_left hi
  rw [← hget, hrest, List.getElem?_map, List.getElem?_drop]

variable [DecidableEq β]

theorem firstMatch_eq_some :
    firstMatch fold needle s = some k ↔
      k ≤ s.length ∧ MatchAt fold needle s k ∧ ∀ j < k, ¬ MatchAt fold needle s j := by
  rw [firstMatch, List.find?_range_eq_some]
  simp only [decide_eq_true_eq, List.mem_range, Nat.lt_succ_iff, Bool.not_eq_true',
    decide_eq_false_iff_not]
  tauto

theorem firstMatch_eq_none (hne : needle ≠ []) :
    firstMatch fold needle s = none ↔ ∀ k, ¬ MatchAt fold needle s k := by
  rw [firstMatch, List.find?_range_eq_none]
  simp only [Bool.not_eq_true', decide_eq_false_iff_not]
  refine ⟨fun h k hk => ?_, fun h k _ => h k⟩
  by_cases hlt : k < s.length + 1
  · exact h k hlt hk
  · rw [MatchAt, List.drop_eq_nil_of_le (by omega), List.map_nil] at hk
    exact hne (List.prefix_nil.mp hk)

theorem firstMatch_length_le (h : firstMatch fold needle s = some k) :
    k + needle.length ≤ s.length := by
  obtain ⟨hk, hm, -⟩ := firstMatch_eq_some.mp h
  exact hm.le_length hk

theorem firstMatch_append (h : firstMatch fold needle s = some k) (t : List α) :
    firstMatch fold needle (s ++ t) = some k := by
  obtain ⟨hk, hm, hleast⟩ := firstMatch_eq_some.mp h
  have hlen := hm.le_length hk
  refine firstMatch_eq_some.mpr ⟨?_, hm.append hk t, fun j hj hmatch => ?_⟩
  · rw [List.length_append]
    omega
  · exact hleast j hj (hmatch.of_append (by omega))

theorem firstMatch_of_append (h : firstMatch fold needle (s ++ t) = some k)
    (hk : k + needle.length ≤ s.length) : firstMatch fold needle s = some k := by
  obtain ⟨-, hm, hleast⟩ := firstMatch_eq_some.mp h
  refine firstMatch_eq_some.mpr ⟨by omega, hm.of_append hk, fun j hj hmatch => ?_⟩
  exact hleast j hj (hmatch.append (by omega) t)

end WirelessEsp.StringSearch
