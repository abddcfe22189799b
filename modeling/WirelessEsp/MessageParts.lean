import Mathlib.Data.List.Chain

namespace WirelessEsp.MessageParts

variable {α : Type}

/-- A part of a message: the number of the parts of the message behind it, and its content. -/
abbrev Piece (α : Type) := Nat × List α

def messages : List (Piece α) → List (List α)
  | [] => []
  | (0, xs) :: parts => xs :: messages parts
  | (_ + 1, xs) :: parts => match messages parts with
      | [] => []
      | message :: later => (xs ++ message) :: later

def contents (parts : List (Piece α)) : List α := parts.flatMap Prod.snd

def Whole (parts : List (Piece α)) : Prop := ∀ p ∈ parts.getLast?, p.1 = 0

/-- Behind a part that is not the last of its message, the numbers count down. -/
def Counted (parts : List (Piece α)) : Prop := parts.IsChain (fun p q => p.1 ≠ 0 → q.1 + 1 = p.1)

theorem whole_nil : Whole ([] : List (Piece α)) := by
  intro p hp
  simp at hp

theorem whole_append {ps qs : List (Piece α)} (hp : Whole ps) (hq : Whole qs) :
    Whole (ps ++ qs) := by
  cases qs with
  | nil => simpa only [List.append_nil] using hp
  | cons q qs =>
      intro p h
      apply hq p
      simpa [List.getLast?_append] using h

theorem Whole.of_cons {p q : Piece α} {ps : List (Piece α)} (h : Whole (p :: q :: ps)) :
    Whole (q :: ps) := by
  intro r hr
  apply h r
  simpa [List.getLast?_cons_cons] using hr

theorem Whole.right {ps qs : List (Piece α)} (h : Whole (ps ++ qs)) : Whole qs := by
  cases qs with
  | nil => exact whole_nil
  | cons q qs =>
      intro p hp
      apply h p
      simpa [List.getLast?_append] using hp

theorem messages_ne_nil {ps : List (Piece α)} (h : Whole ps) (hne : ps ≠ []) : messages ps ≠ [] := by
  induction ps with
  | nil => exact absurd rfl hne
  | cons p ps ih =>
      obtain ⟨n, xs⟩ := p
      cases n with
      | zero => simp [messages]
      | succ n =>
          cases ps with
          | nil => simp [Whole] at h
          | cons q ps =>
              have hm := ih h.of_cons (List.cons_ne_nil q ps)
              rw [messages]
              split
              next he => exact absurd he hm
              next => exact List.cons_ne_nil _ _

theorem messages_append {ps : List (Piece α)} (h : Whole ps) (qs : List (Piece α)) :
    messages (ps ++ qs) = messages ps ++ messages qs := by
  induction ps with
  | nil => rfl
  | cons p ps ih =>
      obtain ⟨n, xs⟩ := p
      cases n with
      | zero =>
          have hps : Whole ps := by
            cases ps with
            | nil => exact whole_nil
            | cons q ps => exact h.of_cons
          simp only [List.cons_append, messages, ih hps]
      | succ n =>
          cases ps with
          | nil => simp [Whole] at h
          | cons q ps =>
              have hm := messages_ne_nil h.of_cons (List.cons_ne_nil q ps)
              rw [List.cons_append, messages, messages, ih h.of_cons]
              cases hq : messages (q :: ps) with
              | nil => exact absurd hq hm
              | cons message later => rfl

theorem messages_prefix (ps qs : List (Piece α)) : messages ps <+: messages (ps ++ qs) := by
  induction ps with
  | nil => exact List.nil_prefix
  | cons p ps ih =>
      obtain ⟨n, xs⟩ := p
      obtain ⟨more, hmore⟩ := ih
      cases n with
      | zero =>
          refine ⟨more, ?_⟩
          rw [List.cons_append, messages, messages, ← hmore, List.cons_append]
      | succ n =>
          rw [List.cons_append, messages, messages, ← hmore]
          cases messages ps with
          | nil => exact List.nil_prefix
          | cons message later => exact ⟨more, rfl⟩

theorem contents_append (ps qs : List (Piece α)) :
    contents (ps ++ qs) = contents ps ++ contents qs := by
  exact List.flatMap_append

theorem messages_flatten {ps : List (Piece α)} (h : Whole ps) :
    (messages ps).flatten = contents ps := by
  induction ps with
  | nil => rfl
  | cons p ps ih =>
      obtain ⟨n, xs⟩ := p
      have hcons : contents ((n, xs) :: ps) = xs ++ contents ps := rfl
      rw [hcons]
      cases ps with
      | nil =>
          cases n with
          | zero => simp [messages, contents]
          | succ n => simp [Whole] at h
      | cons q ps =>
          have hm := messages_ne_nil h.of_cons (List.cons_ne_nil q ps)
          rw [← ih h.of_cons]
          cases n with
          | zero => rfl
          | succ n =>
              rw [messages]
              cases hq : messages (q :: ps) with
              | nil => exact absurd hq hm
              | cons message later =>
                  simp only [List.flatten_cons, List.append_assoc]

theorem counted_append {ps qs : List (Piece α)} (hp : Counted ps) (hq : Counted qs)
    (h : Whole ps) : Counted (ps ++ qs) := by
  apply List.IsChain.append hp hq
  intro p hlast q _ hne
  exact absurd (h p hlast) hne

/-- A message cut into `n` parts of `size` each, the last one with what is left. -/
def cut (size : Nat) : Nat → List α → List (Piece α)
  | 0, _ => []
  | n + 1, xs => (n, xs.take size) :: cut size n (xs.drop size)

theorem contents_cut {size n : Nat} {xs : List α} (h : xs.length ≤ n * size) :
    contents (cut size n xs) = xs := by
  induction n generalizing xs with
  | zero =>
      have hnil : xs = [] := by
        apply List.eq_nil_of_length_eq_zero
        omega
      rw [hnil]
      rfl
  | succ n ih =>
      have hrest : (xs.drop size).length ≤ n * size := by
        rw [List.length_drop]
        rw [Nat.succ_mul] at h
        omega
      have hcons : contents (cut size (n + 1) xs) =
          xs.take size ++ contents (cut size n (xs.drop size)) := rfl
      rw [hcons, ih hrest, List.take_append_drop]

theorem whole_cut (size n : Nat) (xs : List α) : Whole (cut size n xs) := by
  induction n generalizing xs with
  | zero => exact whole_nil
  | succ n ih =>
      cases n with
      | zero =>
          intro p hp
          simp only [cut, List.getLast?_singleton, Option.mem_def, Option.some.injEq] at hp
          rw [← hp]
      | succ n =>
          intro p hp
          apply ih (xs.drop size) p
          simpa only [cut, List.getLast?_cons_cons] using hp

theorem counted_cut (size n : Nat) (xs : List α) : Counted (cut size n xs) := by
  induction n generalizing xs with
  | zero => exact List.isChain_nil
  | succ n ih =>
      cases n with
      | zero => exact List.isChain_singleton _
      | succ n => exact List.IsChain.cons_cons (fun _ => rfl) (ih (xs.drop size))

theorem messages_cut {size n : Nat} {xs : List α} (hn : 0 < n) (h : xs.length ≤ n * size) :
    messages (cut size n xs) = [xs] := by
  induction n generalizing xs with
  | zero => omega
  | succ n ih =>
      cases n with
      | zero =>
          rw [Nat.zero_add, Nat.one_mul] at h
          simp only [cut, messages, List.take_of_length_le h]
      | succ n =>
          have hrest : (xs.drop size).length ≤ (n + 1) * size := by
            rw [List.length_drop]
            rw [Nat.succ_mul] at h
            omega
          rw [cut, messages, ih (Nat.succ_pos n) hrest]
          simp only [List.take_append_drop]

end WirelessEsp.MessageParts
