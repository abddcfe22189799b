import Mathlib.Data.List.Pairwise
import Mathlib.Data.List.Count

namespace WirelessEsp.Lifetimes

variable {ε : Type}

/-- The events that take a resource, that free it, and that may not come after it is freed. -/
structure Resource (ε : Type) where
  takes : ε → Bool
  frees : ε → Bool
  uses : ε → Bool

inductive Stage
  | untaken
  | held
  | freed
  deriving DecidableEq

theorem Stage.untaken_ne_held : Stage.untaken ≠ .held := nofun

namespace Resource

variable (R : Resource ε)

/-- The stage after an event that is allowed. -/
def next : Stage → ε → Option Stage
  | .untaken, e => if R.frees e then none else if R.takes e then some .held else some .untaken
  | .held, e => if R.takes e then none else if R.frees e then some .freed else some .held
  | .freed, e => if R.takes e || R.frees e || R.uses e then none else some .freed

def Allows : Stage → List ε → Prop
  | _, [] => True
  | s, e :: es => ∃ t, R.next s e = some t ∧ Allows t es

/-- All events are allowed, and the resource is not held at the end. -/
def Closes : Stage → List ε → Prop
  | s, [] => s ≠ .held
  | s, e :: es => ∃ t, R.next s e = some t ∧ Closes t es

/-- The resource is taken and freed at most once, and not used when it is free. -/
structure Safe (es : List ε) : Prop where
  takes : es.countP R.takes ≤ 1
  frees : es.countP R.frees ≤ es.countP R.takes
  after : es.Pairwise fun e e' => R.frees e → ¬ R.uses e'

variable {R} {s t : Stage} {e : ε} {es es' : List ε}

theorem Closes.allows (h : R.Closes s (es ++ es')) : R.Allows s es := by
  induction es generalizing s with
  | nil => trivial
  | cons e es ih =>
      obtain ⟨t, ht, h⟩ := h
      exact ⟨t, ht, ih h⟩

theorem next_untaken (h : R.next .untaken e = some t) :
    R.frees e = false ∧ ((R.takes e = true ∧ t = .held) ∨ (R.takes e = false ∧ t = .untaken)) := by
  rw [next] at h
  split at h
  · cases h
  next hfrees =>
    refine ⟨Bool.eq_false_iff.mpr hfrees, ?_⟩
    split at h
    next htakes =>
      cases h
      exact .inl ⟨htakes, rfl⟩
    next htakes =>
      cases h
      exact .inr ⟨Bool.eq_false_iff.mpr htakes, rfl⟩

theorem next_held (h : R.next .held e = some t) :
    R.takes e = false ∧ ((R.frees e = true ∧ t = .freed) ∨ (R.frees e = false ∧ t = .held)) := by
  rw [next] at h
  split at h
  · cases h
  next htakes =>
    refine ⟨Bool.eq_false_iff.mpr htakes, ?_⟩
    split at h
    next hfrees =>
      cases h
      exact .inl ⟨hfrees, rfl⟩
    next hfrees =>
      cases h
      exact .inr ⟨Bool.eq_false_iff.mpr hfrees, rfl⟩

theorem next_freed (h : R.next .freed e = some t) :
    R.takes e = false ∧ R.frees e = false ∧ R.uses e = false ∧ t = .freed := by
  rw [next] at h
  split at h
  · cases h
  next hnone =>
    cases h
    simp only [Bool.or_eq_true, not_or, Bool.not_eq_true] at hnone
    exact ⟨hnone.1.1, hnone.1.2, hnone.2, rfl⟩

theorem allows_freed (h : R.Allows .freed es) :
    ∀ e ∈ es, R.takes e = false ∧ R.frees e = false ∧ R.uses e = false := by
  induction es with
  | nil => exact fun e he => nomatch he
  | cons e es ih =>
      obtain ⟨t, ht, h⟩ := h
      obtain ⟨htakes, hfrees, huses, rfl⟩ := next_freed ht
      exact List.forall_mem_cons.mpr ⟨⟨htakes, hfrees, huses⟩, ih h⟩

theorem countP_freed (h : R.Allows .freed es) :
    es.countP R.takes = 0 ∧ es.countP R.frees = 0 := by
  have hes := allows_freed h
  refine ⟨List.countP_eq_zero.mpr fun e he => ?_, List.countP_eq_zero.mpr fun e he => ?_⟩
  · exact Bool.eq_false_iff.mp (hes e he).1
  · exact Bool.eq_false_iff.mp (hes e he).2.1

theorem allows_held (h : R.Allows .held es) : es.countP R.takes = 0 ∧ es.countP R.frees ≤ 1 ∧
    es.Pairwise fun e e' => R.frees e → ¬ R.uses e' := by
  induction es with
  | nil => exact ⟨rfl, Nat.zero_le _, .nil⟩
  | cons e es ih =>
      obtain ⟨t, ht, h⟩ := h
      obtain ⟨htakes, ⟨hfrees, rfl⟩ | ⟨hfrees, rfl⟩⟩ := next_held ht
      · have hes := allows_freed h
        obtain ⟨htakes0, hfrees0⟩ := countP_freed h
        refine ⟨?_, ?_, List.pairwise_cons.mpr ⟨?_, ?_⟩⟩
        · rw [List.countP_cons_of_neg (Bool.eq_false_iff.mp htakes), htakes0]
        · exact Nat.le_of_eq (by rw [List.countP_cons_of_pos hfrees, hfrees0])
        · exact fun e' he' _ => Bool.eq_false_iff.mp (hes e' he').2.2
        · refine (List.pairwise_of_forall_mem_list fun e' he' e'' he'' hfree => ?_)
          exact Bool.eq_false_iff.mp (hes e'' he'').2.2
      · obtain ⟨htakes0, hfrees1, hafter⟩ := ih h
        have hnot := Bool.eq_false_iff.mp hfrees
        refine ⟨?_, ?_, List.pairwise_cons.mpr ⟨fun e' _ hfree => absurd hfree hnot, hafter⟩⟩
        · rw [List.countP_cons_of_neg (Bool.eq_false_iff.mp htakes), htakes0]
        · rw [List.countP_cons_of_neg hnot]
          exact hfrees1

theorem allows_untaken (h : R.Allows .untaken es) : R.Safe es := by
  induction es with
  | nil => exact ⟨Nat.zero_le _, Nat.le_refl _, .nil⟩
  | cons e es ih =>
      obtain ⟨t, ht, h⟩ := h
      obtain ⟨hfrees, ⟨htakes, rfl⟩ | ⟨htakes, rfl⟩⟩ := next_untaken ht
      · obtain ⟨htakes0, hfrees1, hafter⟩ := allows_held h
        have hnot := Bool.eq_false_iff.mp hfrees
        refine ⟨?_, ?_, List.pairwise_cons.mpr ⟨fun e' _ hfree => absurd hfree hnot, hafter⟩⟩
        · exact Nat.le_of_eq (by rw [List.countP_cons_of_pos htakes, htakes0])
        · rw [List.countP_cons_of_pos htakes, List.countP_cons_of_neg hnot, htakes0]
          exact hfrees1
      · obtain ⟨htakes1, hle, hafter⟩ := ih h
        have hnot := Bool.eq_false_iff.mp hfrees
        have hnot' := Bool.eq_false_iff.mp htakes
        refine ⟨?_, ?_, List.pairwise_cons.mpr ⟨fun e' _ hfree => absurd hfree hnot, hafter⟩⟩
        · rw [List.countP_cons_of_neg hnot']
          exact htakes1
        · rw [List.countP_cons_of_neg hnot, List.countP_cons_of_neg hnot']
          exact hle

theorem Closes.safe (h : R.Closes .untaken (es ++ es')) : R.Safe es := allows_untaken h.allows

theorem closes_held (h : R.Closes .held es) : es.countP R.takes = 0 ∧ es.countP R.frees = 1 := by
  induction es with
  | nil => exact absurd rfl h
  | cons e es ih =>
      obtain ⟨t, ht, h⟩ := h
      obtain ⟨htakes, ⟨hfrees, rfl⟩ | ⟨hfrees, rfl⟩⟩ := next_held ht
      · rw [← List.append_nil es] at h
        obtain ⟨htakes0, hfrees0⟩ := countP_freed h.allows
        rw [List.countP_cons_of_neg (Bool.eq_false_iff.mp htakes), List.countP_cons_of_pos hfrees]
        exact ⟨htakes0, congrArg Nat.succ hfrees0⟩
      · rw [List.countP_cons_of_neg (Bool.eq_false_iff.mp htakes),
          List.countP_cons_of_neg (Bool.eq_false_iff.mp hfrees)]
        exact ih h

theorem Closes.frees_eq (h : R.Closes .untaken es) : es.countP R.frees = es.countP R.takes := by
  induction es with
  | nil => rfl
  | cons e es ih =>
      obtain ⟨t, ht, h⟩ := h
      obtain ⟨hfrees, ⟨htakes, rfl⟩ | ⟨htakes, rfl⟩⟩ := next_untaken ht
      · obtain ⟨htakes0, hfrees1⟩ := closes_held h
        rw [List.countP_cons_of_neg (Bool.eq_false_iff.mp hfrees), List.countP_cons_of_pos htakes,
          htakes0, hfrees1]
      · rw [List.countP_cons_of_neg (Bool.eq_false_iff.mp hfrees),
          List.countP_cons_of_neg (Bool.eq_false_iff.mp htakes)]
        exact ih h

end Resource

end WirelessEsp.Lifetimes
