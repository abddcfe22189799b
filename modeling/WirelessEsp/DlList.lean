import Mathlib.Data.List.Basic
import Mathlib.Data.List.Nodup
import Mathlib.Logic.Function.Basic

namespace WirelessEsp.DlList

variable {α : Type}

structure Links (α : Type) where
  next : α → α
  prev : α → α

def Links.init : Links α := ⟨id, id⟩

/-- From `a` the links lead over the nodes `l` to `b`, and back. -/
def Segment (s : Links α) : α → List α → α → Prop
  | a, [], b => s.next a = b ∧ s.prev b = a
  | a, x :: l, b => s.next a = x ∧ s.prev x = a ∧ Segment s x l b

structure Circular (s : Links α) (head : α) (l : List α) : Prop where
  nodup : (head :: l).Nodup
  segment : Segment s head l head

variable {s t : Links α} {a b c x y head : α} {l m : List α}

theorem segment_append :
    Segment s a (l ++ b :: m) c ↔ Segment s a l b ∧ Segment s b m c := by
  induction l generalizing a with
  | nil => simp only [List.nil_append, Segment, and_assoc]
  | cons x l ih => simp only [List.cons_append, Segment, ih, and_assoc]

theorem Segment.congr (h : Segment s a l b) (hnext : ∀ x ∈ a :: l, t.next x = s.next x)
    (hprev : ∀ x ∈ l ++ [b], t.prev x = s.prev x) : Segment t a l b := by
  induction l generalizing a with
  | nil => exact ⟨(hnext a List.mem_cons_self).trans h.1, (hprev b List.mem_cons_self).trans h.2⟩
  | cons x l ih =>
      obtain ⟨hx, hback, hrest⟩ := h
      refine ⟨(hnext a List.mem_cons_self).trans hx, (hprev x List.mem_cons_self).trans hback, ?_⟩
      apply ih hrest
      · exact fun y hy => hnext y (List.mem_cons_of_mem _ hy)
      · exact fun y hy => hprev y (List.mem_cons_of_mem _ hy)

theorem Segment.next_mem (h : Segment s a l b) : s.next a ∈ l ++ [b] := by
  cases l with
  | nil => exact List.mem_singleton.mpr h.1
  | cons x l => exact List.mem_append_left _ (h.1 ▸ List.mem_cons_self)

theorem circular_init (head : α) : Circular Links.init head [] :=
  ⟨List.nodup_singleton head, rfl, rfl⟩

theorem Segment.inverse (h : Segment s a l b) :
    (∀ x ∈ a :: l, s.prev (s.next x) = x) ∧ (∀ x ∈ l ++ [b], s.next (s.prev x) = x) := by
  induction l generalizing a with
  | nil =>
      obtain ⟨hn, hp⟩ := h
      constructor
      · intro x hx
        rw [List.mem_singleton.mp hx, hn, hp]
      · intro x hx
        rw [List.mem_singleton.mp hx, hp, hn]
  | cons y l ih =>
      obtain ⟨hn, hp, hrest⟩ := h
      obtain ⟨hnext, hprev⟩ := ih hrest
      constructor
      · exact List.forall_mem_cons.mpr ⟨by rw [hn, hp], hnext⟩
      · exact List.forall_mem_cons.mpr ⟨by rw [hp, hn], hprev⟩

theorem Circular.inverse (h : Circular s head l) :
    ∀ x ∈ head :: l, s.prev (s.next x) = x ∧ s.next (s.prev x) = x := by
  obtain ⟨hnext, hprev⟩ := h.segment.inverse
  intro x hx
  refine ⟨hnext x hx, hprev x ?_⟩
  rw [List.mem_append, List.mem_singleton, or_comm]
  exact List.mem_cons.mp hx

section Operations

variable [DecidableEq α]

def Links.add (s : Links α) (list item : α) : Links α :=
  let next := Function.update s.next item (s.next list)
  let prev := Function.update s.prev item list
  { prev := Function.update prev (next list) item
    next := Function.update next list item }

/-- The first node from `a` on at which the loop over the list of `head` stops, `head` itself at
the end of the list; `none` when the fuel runs out. -/
def Links.find (s : Links α) (head : α) (stop : α → Bool) : Nat → α → Option α
  | 0, _ => none
  | fuel + 1, a =>
      if a = head then some head
      else if stop a then some a
      else find s head stop fuel (s.next a)

/-- The nodes that the loop over the list of `head` visits from `a` on. -/
def Links.walk (s : Links α) (head : α) : Nat → α → Option (List α)
  | 0, _ => none
  | fuel + 1, a => if a = head then some [] else (walk s head fuel (s.next a)).map (a :: ·)

theorem add_next (hne : x ≠ y) : (s.add y x).next x = s.next y := by
  rw [Links.add]
  simp only [Function.update_of_ne hne, Function.update_self]

theorem add_next_at : (s.add y x).next y = x := Function.update_self ..

theorem add_next_other (hx : a ≠ x) (hy : a ≠ y) : (s.add y x).next a = s.next a := by
  simp only [Links.add, Function.update_of_ne hx, Function.update_of_ne hy]

theorem add_prev (hne : x ≠ y) (hback : s.next y ≠ x) : (s.add y x).prev x = y := by
  simp only [Links.add, Function.update_of_ne hne.symm, Function.update_of_ne hback.symm,
    Function.update_self]

theorem add_prev_next (hne : x ≠ y) : (s.add y x).prev (s.next y) = x := by
  simp only [Links.add, Function.update_of_ne hne.symm, Function.update_self]

theorem add_prev_other (hne : x ≠ y) (hx : a ≠ x) (hy : a ≠ s.next y) :
    (s.add y x).prev a = s.prev a := by
  simp only [Links.add, Function.update_of_ne hne.symm, Function.update_of_ne hx,
    Function.update_of_ne hy]

theorem Segment.add (h : Segment s y m b) (hne : x ≠ y) (hxm : x ∉ m ++ [b]) (hy : y ∉ m)
    (hb : (m ++ [b]).Nodup) : Segment (s.add y x) y (x :: m) b := by
  have hback : s.next y ≠ x := fun heq => hxm (heq ▸ h.next_mem)
  refine ⟨add_next_at, add_prev hne hback, ?_⟩
  cases m with
  | nil =>
      obtain ⟨hn, hp⟩ := h
      refine ⟨(add_next hne).trans hn, ?_⟩
      rw [← hn]
      exact add_prev_next hne
  | cons z m =>
      obtain ⟨hn, hp, hrest⟩ := h
      refine ⟨(add_next hne).trans hn, by rw [← hn]; exact add_prev_next hne, ?_⟩
      apply hrest.congr
      · intro c hc
        apply add_next_other
        · exact fun heq => hxm (heq ▸ List.mem_append_left _ hc)
        · exact fun heq => hy (heq ▸ hc)
      · intro c hc
        apply add_prev_other hne
        · exact fun heq => hxm (heq ▸ List.mem_cons_of_mem _ hc)
        · rw [hn]
          exact fun heq => (List.nodup_cons.mp hb).1 (heq ▸ hc)

theorem Circular.add_front (h : Circular s head m) (hx : x ∉ head :: m) :
    Circular (s.add head x) head (x :: m) := by
  obtain ⟨hhead, -⟩ := List.nodup_cons.mp h.nodup
  rw [List.mem_cons, not_or] at hx
  refine ⟨?_, h.segment.add hx.1 ?_ hhead ?_⟩
  · rw [(List.Perm.swap x head m).nodup_iff]
    exact List.nodup_cons.mpr ⟨by rw [List.mem_cons, not_or]; exact hx, h.nodup⟩
  · rw [List.mem_append, List.mem_singleton, not_or]
    exact ⟨hx.2, hx.1⟩
  · exact (List.perm_append_singleton head m).nodup_iff.mpr h.nodup

theorem Circular.add_behind (h : Circular s head (l ++ y :: m)) (hx : x ∉ head :: (l ++ y :: m)) :
    Circular (s.add y x) head (l ++ y :: x :: m) := by
  obtain ⟨hfront, hrest⟩ := segment_append.mp h.segment
  have hsplit := h.nodup
  simp only [List.nodup_cons, List.mem_append, List.mem_cons, not_or, List.nodup_append] at hsplit hx
  obtain ⟨⟨hhl, hhy, hhm⟩, hl, ⟨hym, hm⟩, hdis⟩ := hsplit
  obtain ⟨hxh, hxl, hxy, hxm⟩ := hx
  refine ⟨?_, segment_append.mpr ⟨?_, hrest.add hxy ?_ hym ?_⟩⟩
  · have hperm : (head :: (l ++ y :: x :: m)).Perm (x :: head :: (l ++ y :: m)) := by
      have hmiddle : ((head :: l ++ [y]) ++ x :: m).Perm (x :: ((head :: l ++ [y]) ++ m)) :=
        List.perm_middle
      simpa using hmiddle
    rw [hperm.nodup_iff, List.nodup_cons]
    exact ⟨by simp [hxh, hxl, hxy, hxm], h.nodup⟩
  · apply hfront.congr
    · intro c hc
      apply add_next_other
      · rintro rfl
        exact (List.mem_cons.mp hc).elim (fun heq => hxh heq) hxl
      · rintro rfl
        exact (List.mem_cons.mp hc).elim (fun heq => hhy heq.symm) fun hmem => hdis c hmem c (.inl rfl) rfl
    · have hin := hrest.next_mem
      intro c hc
      rw [List.mem_append, List.mem_singleton] at hc hin
      apply add_prev_other hxy
      · rintro rfl
        exact hc.elim hxl hxy
      · intro heq
        rw [← heq] at hin
        rcases hc with hc | rfl
        · exact hin.elim (fun hmem => hdis c hc c (.inr hmem) rfl) (fun heq => hhl (heq ▸ hc))
        · exact hin.elim hym (fun heq => hhy heq.symm)
  · rw [List.mem_append, List.mem_singleton, not_or]
    exact ⟨hxm, hxh⟩
  · rw [(List.perm_append_singleton head m).nodup_iff]
    exact List.nodup_cons.mpr ⟨hhm, hm⟩

theorem Segment.find (h : Segment s a l head) (hl : head ∉ l) (stop : α → Bool) {fuel : Nat}
    (hfuel : l.length < fuel) :
    s.find head stop fuel (s.next a) = some ((l.find? stop).getD head) := by
  induction l generalizing a fuel with
  | nil =>
      obtain ⟨fuel, rfl⟩ := Nat.exists_eq_add_of_lt hfuel
      rw [h.1]
      exact if_pos rfl
  | cons x l ih =>
      obtain ⟨fuel, rfl⟩ := Nat.exists_eq_add_of_lt hfuel
      obtain ⟨hn, -, hrest⟩ := h
      rw [List.mem_cons, not_or] at hl
      rw [hn, Links.find, if_neg (fun heq => hl.1 heq.symm)]
      by_cases hx : stop x
      · rw [if_pos hx, List.find?_cons_of_pos hx]
        rfl
      · rw [if_neg hx, List.find?_cons_of_neg hx]
        exact ih hrest hl.2 (by rw [List.length_cons]; omega)

theorem Segment.walk (h : Segment s a l head) (hl : head ∉ l) {fuel : Nat}
    (hfuel : l.length < fuel) : s.walk head fuel (s.next a) = some l := by
  induction l generalizing a fuel with
  | nil =>
      obtain ⟨fuel, rfl⟩ := Nat.exists_eq_add_of_lt hfuel
      rw [h.1]
      exact if_pos rfl
  | cons x l ih =>
      obtain ⟨fuel, rfl⟩ := Nat.exists_eq_add_of_lt hfuel
      obtain ⟨hn, -, hrest⟩ := h
      rw [List.mem_cons, not_or] at hl
      rw [hn, Links.walk, if_neg (fun heq => hl.1 heq.symm),
        ih hrest hl.2 (by rw [List.length_cons]; omega)]
      rfl

end Operations

end WirelessEsp.DlList
