import Mathlib.Data.List.Induction
import WirelessEsp.DlList

namespace WirelessEsp.UriModules

open DlList

def URI_MODULE_MAX : Nat := 8

/-- The functions `init` and `exit` of a module are values of `F`. -/
structure UriModule (F : Type) where
  init : F
  exit : F
  priority : UInt8
deriving DecidableEq

/-- The nodes that have links: `list_head` and the entries of `module_arr`. -/
inductive Node
  | listHead
  | module (i : Nat)
deriving DecidableEq, Repr

structure Modules (F : Type) where
  moduleArr : Nat → UriModule F
  moduleCount : UInt8
  links : Links Node

variable {F : Type}

/-- The state at the start; what the entries hold does not matter. -/
def Modules.start (moduleArr : Nat → UriModule F) : Modules F := ⟨moduleArr, 0, .init⟩

def stopsAt (moduleArr : Nat → UriModule F) (priority : UInt8) : Node → Bool
  | .listHead => false
  | .module i => (moduleArr i).priority ≤ priority

/-- The result and the new state; `none` when the loop does not come to an end. -/
def uriModuleAdd (s : Modules F) (priority : UInt8) (init exit : F) : Option (Nat × Modules F) :=
  if s.moduleCount.toNat ≥ URI_MODULE_MAX then some (1, s)
  else
    let i := s.moduleCount.toNat
    let moduleArr := Function.update s.moduleArr i ⟨init, exit, priority⟩
    match s.links.find .listHead (stopsAt moduleArr priority) (URI_MODULE_MAX + 1)
        (s.links.next .listHead) with
    | none => none
    | some item => some (0, ⟨moduleArr, s.moduleCount + 1, s.links.add item (.module i)⟩)

/-- The modules in the order in which they are initialized and their handlers registered. An
error of a module does not end the loop. -/
def uriModuleInit (s : Modules F) : Option (List (UriModule F)) :=
  (s.links.walk .listHead (URI_MODULE_MAX + 1) (s.links.next .listHead)).map
    fun nodes => nodes.filterMap fun
      | .listHead => none
      | .module i => some (s.moduleArr i)

/-- The calls one after the other. -/
def addAll (s : Modules F) : List (UriModule F) → Option (Modules F)
  | [] => some s
  | m :: ms =>
      match uriModuleAdd s m.priority m.init m.exit with
      | none => none
      | some (_, s) => addAll s ms

/-- The list of `list_head` has each module that was added once, and its links can be followed in
both directions. -/
structure Lists (s : Modules F) (calls : List (UriModule F)) (nodes : List Node) : Prop where
  stored : ∀ i (h : i < calls.length), s.moduleArr i = calls[i]
  each : nodes.Perm ((List.range calls.length).map .module)
  forward : s.links.walk .listHead (URI_MODULE_MAX + 1) (s.links.next .listHead) = some nodes
  inverse : ∀ n ∈ .listHead :: nodes,
    s.links.prev (s.links.next n) = n ∧ s.links.next (s.links.prev n) = n

def InOrder (ms : List (UriModule F)) : Prop := ms.Pairwise fun m m' => m.priority ≤ m'.priority

/-- After the calls the list has the modules in the order of their priorities, and they are
initialized in this order. -/
def AddsInOrder (moduleArr : Nat → UriModule F) (calls : List (UriModule F)) : Prop :=
  ∃ s nodes ms, addAll (.start moduleArr) calls = some s ∧ Lists s calls nodes ∧
    uriModuleInit s = some ms ∧ InOrder ms

def below (m : UriModule F) (ms : List (UriModule F)) : Nat :=
  ms.countP fun x => x.priority < m.priority

/-- No module comes after two modules with smaller priorities. -/
def AtMostOneBelow (calls : List (UriModule F)) : Prop :=
  ∀ i : Fin calls.length, below calls[i] (calls.take i) ≤ 1

instance (calls : List (UriModule F)) : Decidable (AtMostOneBelow calls) :=
  inferInstanceAs (Decidable (∀ _, _))

/-- A module is put behind the first one, or in front of it where that has a greater priority. -/
def place (m : UriModule F) : List (UriModule F) → List (UriModule F)
  | [] => [m]
  | x :: ms => if x.priority ≤ m.priority then x :: m :: ms else m :: x :: ms

def placeAll (calls : List (UriModule F)) : List (UriModule F) :=
  calls.foldl (fun ms m => place m ms) []

def FirstLeast : List (UriModule F) → Prop
  | [] => True
  | x :: ms => ∀ y ∈ ms, x.priority ≤ y.priority

variable {m : UriModule F} {ms calls : List (UriModule F)}

theorem placeAll_concat (calls : List (UriModule F)) (m : UriModule F) :
    placeAll (calls ++ [m]) = place m (placeAll calls) := by
  rw [placeAll, List.foldl_append]
  rfl

theorem place_perm (m : UriModule F) (ms : List (UriModule F)) : (place m ms).Perm (m :: ms) := by
  cases ms with
  | nil => exact .refl _
  | cons x ms =>
      rw [place]
      split
      · exact .swap m x ms
      · exact .refl _

theorem placeAll_perm (calls : List (UriModule F)) : (placeAll calls).Perm calls := by
  induction calls using List.reverseRecOn with
  | nil => exact .refl _
  | append_singleton calls m ih =>
      rw [placeAll_concat]
      exact (place_perm m _).trans ((ih.cons m).trans (List.perm_append_singleton m calls).symm)

theorem FirstLeast.place (h : FirstLeast ms) (m : UriModule F) : FirstLeast (place m ms) := by
  cases ms with
  | nil =>
      intro y hy
      cases hy
  | cons x ms =>
      rw [UriModules.place]
      split
      next hle => exact List.forall_mem_cons.mpr ⟨hle, h⟩
      next hlt =>
        have hle : m.priority ≤ x.priority := UInt8.le_of_lt (UInt8.not_le.mp hlt)
        exact List.forall_mem_cons.mpr ⟨hle, fun y hy => UInt8.le_trans hle (h y hy)⟩

theorem firstLeast_placeAll (calls : List (UriModule F)) : FirstLeast (placeAll calls) := by
  induction calls using List.reverseRecOn with
  | nil => trivial
  | append_singleton calls m ih =>
      rw [placeAll_concat]
      exact ih.place m

theorem inOrder_place (h : FirstLeast ms) (m : UriModule F) :
    InOrder (place m ms) ↔ InOrder ms ∧ below m ms ≤ 1 := by
  cases ms with
  | nil => simp [place, InOrder, below]
  | cons x ms =>
      have hx : ∀ y ∈ ms, x.priority ≤ y.priority := h
      rw [place]
      split
      next hle =>
        have hcount : below m (x :: ms) ≤ 1 ↔ ∀ y ∈ ms, m.priority ≤ y.priority := by
          rw [below, List.countP_cons]
          refine ⟨fun hone y hy => ?_, fun hall => ?_⟩
          · by_contra hlt
            have hlt' : y.priority < m.priority := UInt8.not_le.mp hlt
            have hxm : x.priority < m.priority := UInt8.lt_of_le_of_lt (hx y hy) hlt'
            have hpos : 0 < ms.countP fun y => y.priority < m.priority :=
              List.countP_pos_iff.mpr ⟨y, hy, by simpa using hlt'⟩
            rw [if_pos (by simpa using hxm)] at hone
            omega
          · have hzero : ms.countP (fun y => y.priority < m.priority) = 0 :=
              List.countP_eq_zero.mpr fun y hy => by simpa using hall y hy
            rw [hzero]
            split <;> omega
        rw [hcount]
        simp only [InOrder, List.pairwise_cons, List.mem_cons, forall_eq_or_imp, hle, true_and]
        exact ⟨fun ⟨_, hm, hms⟩ => ⟨⟨hx, hms⟩, hm⟩, fun ⟨⟨_, hms⟩, hm⟩ => ⟨hx, hm, hms⟩⟩
      next hlt =>
        have hle : m.priority ≤ x.priority := UInt8.le_of_lt (UInt8.not_le.mp hlt)
        have hall : ∀ y ∈ x :: ms, m.priority ≤ y.priority :=
          List.forall_mem_cons.mpr ⟨hle, fun y hy => UInt8.le_trans hle (hx y hy)⟩
        have hzero : below m (x :: ms) = 0 :=
          List.countP_eq_zero.mpr fun y hy => by simpa using hall y hy
        rw [hzero, and_iff_left (Nat.zero_le 1), InOrder, InOrder, List.pairwise_cons]
        exact and_iff_right hall

theorem atMostOneBelow_concat (calls : List (UriModule F)) (m : UriModule F) :
    AtMostOneBelow (calls ++ [m]) ↔
      AtMostOneBelow calls ∧ below m calls ≤ 1 := by
  have hlen : (calls ++ [m]).length = calls.length + 1 := List.length_append
  simp only [AtMostOneBelow, Fin.forall_iff, Fin.getElem_fin]
  constructor
  · intro h
    refine ⟨fun i hi => ?_, ?_⟩
    · have hi' := h i (by omega)
      rw [List.take_append_of_le_length (Nat.le_of_lt hi), List.getElem_append_left hi] at hi'
      exact hi'
    · have hm := h calls.length (by omega)
      rw [List.take_left, List.getElem_concat_length rfl] at hm
      exact hm
  · intro ⟨h, hm⟩ i hi
    by_cases hlt : i < calls.length
    · rw [List.take_append_of_le_length (Nat.le_of_lt hlt), List.getElem_append_left hlt]
      exact h i hlt
    · have heq : i = calls.length := by omega
      subst heq
      rw [List.take_left, List.getElem_concat_length rfl]
      exact hm

theorem inOrder_placeAll (calls : List (UriModule F)) :
    InOrder (placeAll calls) ↔ AtMostOneBelow calls := by
  induction calls using List.reverseRecOn with
  | nil => exact ⟨fun _ i => i.elim0, fun _ => .nil⟩
  | append_singleton calls m ih =>
      rw [placeAll_concat, inOrder_place (firstLeast_placeAll calls), ih, atMostOneBelow_concat, below,
        (placeAll_perm calls).countP_eq, below]

/-- The state after some calls, with the entries of `module_arr` in the order of the list. -/
structure Holds (s : Modules F) (calls : List (UriModule F)) (order : List Nat) : Prop where
  count : s.moduleCount.toNat = calls.length
  stored : ∀ i (h : i < calls.length), s.moduleArr i = calls[i]
  circular : Circular s.links .listHead (order.map .module)
  each : order.Perm (List.range calls.length)
  placed : order.map s.moduleArr = placeAll calls

theorem holds_start (moduleArr : Nat → UriModule F) : Holds (.start moduleArr) [] [] where
  count := rfl
  stored i h := absurd h (Nat.not_lt_zero i)
  circular := circular_init _
  each := .refl _
  placed := rfl

variable {s : Modules F} {order : List Nat}

theorem order_lt (h : Holds s calls order) {i : Nat} (hi : i ∈ order) : i < calls.length :=
  List.mem_range.mp (h.each.mem_iff.mp hi)

theorem order_stored (h : Holds s calls order) (m : UriModule F) {i : Nat} (hi : i ∈ order) :
    Function.update s.moduleArr calls.length m i = s.moduleArr i :=
  Function.update_of_ne (Nat.ne_of_lt (order_lt h hi)) ..

theorem holds_append (h : Holds s calls order) (hlen : calls.length < URI_MODULE_MAX)
    {links : Links Node} {order' : List Nat} (hc : Circular links .listHead (order'.map .module))
    (hperm : order'.Perm (calls.length :: order))
    (hplaced : order'.map (Function.update s.moduleArr calls.length m) = place m (placeAll calls)) :
    Holds ⟨Function.update s.moduleArr calls.length m, s.moduleCount + 1, links⟩ (calls ++ [m])
      order' where
  count := by
    have hcount := h.count
    rw [List.length_append, List.length_singleton]
    change (s.moduleCount + 1).toNat = _
    rw [URI_MODULE_MAX] at hlen
    rw [UInt8.toNat_add, hcount, Nat.mod_eq_of_lt]
    · rfl
    · change calls.length + 1 < 256
      omega
  stored i hi := by
    change Function.update s.moduleArr calls.length m i = _
    rw [List.length_append, List.length_singleton] at hi
    by_cases hlt : i < calls.length
    · rw [Function.update_of_ne (Nat.ne_of_lt hlt), List.getElem_append_left hlt]
      exact h.stored i hlt
    · have heq : i = calls.length := by omega
      subst heq
      rw [Function.update_self, List.getElem_concat_length rfl]
  circular := hc
  each := by
    rw [List.length_append, List.length_singleton, List.range_succ]
    exact hperm.trans ((h.each.cons _).trans (List.perm_append_singleton _ _).symm)
  placed := by
    rw [placeAll_concat]
    exact hplaced

theorem uriModuleAdd_eq (h : Holds s calls order) (hlen : calls.length < URI_MODULE_MAX)
    {item : Node}
    (hitem : ((order.map .module).find?
      (stopsAt (Function.update s.moduleArr calls.length m) m.priority)).getD .listHead = item) :
    uriModuleAdd s m.priority m.init m.exit =
      some (0, ⟨Function.update s.moduleArr calls.length m, s.moduleCount + 1,
        s.links.add item (.module calls.length)⟩) := by
  have hroom : ¬ s.moduleCount.toNat ≥ URI_MODULE_MAX := by
    rw [h.count]
    exact Nat.not_le.mpr hlen
  have hfuel : (order.map Node.module).length < URI_MODULE_MAX + 1 := by
    rw [List.length_map, h.each.length_eq, List.length_range]
    omega
  have hfind := h.circular.segment.find (List.nodup_cons.mp h.circular.nodup).1
    (stopsAt (Function.update s.moduleArr calls.length m) m.priority) hfuel
  rw [hitem] at hfind
  have hentry : (⟨m.init, m.exit, m.priority⟩ : UriModule F) = m := rfl
  rw [uriModuleAdd, if_neg hroom, h.count]
  simp only [hentry, hfind]

theorem holds_add (h : Holds s calls order) (hlen : calls.length < URI_MODULE_MAX)
    (m : UriModule F) :
    ∃ s' order', uriModuleAdd s m.priority m.init m.exit = some (0, s') ∧
      Holds s' (calls ++ [m]) order' := by
  have hnew : .module calls.length ∉ Node.listHead :: order.map .module := by
    simp only [List.mem_cons, reduceCtorEq, List.mem_map, Node.module.injEq, exists_eq_right,
      false_or]
    exact fun hmem => Nat.lt_irrefl _ (order_lt h hmem)
  have hstop : ∀ i ∈ order, stopsAt (Function.update s.moduleArr calls.length m) m.priority
      (.module i) = decide ((s.moduleArr i).priority ≤ m.priority) := by
    intro i hi
    rw [stopsAt, order_stored h m hi]
  have hmap : order.map (Function.update s.moduleArr calls.length m) = placeAll calls := by
    rw [← h.placed]
    exact List.map_congr_left fun i hi => order_stored h m hi
  have hplaced := h.placed
  have hleast := firstLeast_placeAll calls
  cases order with
  | nil =>
      refine ⟨_, [calls.length], uriModuleAdd_eq h hlen rfl, holds_append h hlen ?_ (.refl _) ?_⟩
      · exact h.circular.add_front hnew
      · rw [← hplaced, List.map_singleton, Function.update_self]
        rfl
  | cons x order =>
      rw [List.map_cons] at hplaced hmap
      rw [← hplaced] at hleast hmap
      by_cases hle : (s.moduleArr x).priority ≤ m.priority
      · have hitem : ((List.map Node.module (x :: order)).find? (stopsAt
            (Function.update s.moduleArr calls.length m) m.priority)).getD .listHead = .module x := by
          rw [List.map_cons, List.find?_cons_of_pos]
          · rfl
          · rw [hstop x List.mem_cons_self]
            exact decide_eq_true hle
        refine ⟨_, x :: calls.length :: order, uriModuleAdd_eq h hlen hitem,
          holds_append h hlen ?_ (.swap _ _ _) ?_⟩
        · exact Circular.add_behind (l := []) h.circular hnew
        · rw [← hplaced, place, if_pos hle, ← List.cons.inj hmap |>.1, ← List.cons.inj hmap |>.2,
            List.map_cons, List.map_cons, Function.update_self]
      · have hitem : ((List.map Node.module (x :: order)).find? (stopsAt
            (Function.update s.moduleArr calls.length m) m.priority)).getD .listHead = .listHead := by
          have hnone : (List.map Node.module (x :: order)).find? (stopsAt
              (Function.update s.moduleArr calls.length m) m.priority) = none := by
            rw [List.find?_eq_none, List.forall_mem_map]
            intro i hi
            rw [hstop i hi, decide_eq_true_iff]
            intro hi'
            apply hle
            rcases List.mem_cons.mp hi with rfl | hi
            · exact hi'
            · exact UInt8.le_trans (hleast _ (List.mem_map_of_mem hi)) hi'
          rw [hnone]
          rfl
        refine ⟨_, calls.length :: x :: order, uriModuleAdd_eq h hlen hitem,
          holds_append h hlen ?_ (.refl _) ?_⟩
        · exact h.circular.add_front hnew
        · rw [← hplaced, place, if_neg hle, List.map_cons, List.map_cons, hmap,
            Function.update_self]

theorem holds_addAll {calls' : List (UriModule F)} (h : Holds s calls order)
    (hlen : calls.length + calls'.length ≤ URI_MODULE_MAX) :
    ∃ s' order', addAll s calls' = some s' ∧ Holds s' (calls ++ calls') order' := by
  induction calls' generalizing s calls order with
  | nil => exact ⟨s, order, rfl, by rw [List.append_nil]; exact h⟩
  | cons m calls' ih =>
      rw [List.length_cons] at hlen
      obtain ⟨s₁, order₁, hadd, h₁⟩ := holds_add h (by omega) m
      obtain ⟨s', order', hall, h'⟩ := ih h₁ (by rw [List.length_append, List.length_singleton]; omega)
      rw [List.append_assoc] at h'
      refine ⟨s', order', ?_, h'⟩
      rw [addAll, hadd]
      exact hall

theorem Holds.lists (h : Holds s calls order) (hlen : calls.length ≤ URI_MODULE_MAX) :
    Lists s calls (order.map .module) ∧ uriModuleInit s = some (placeAll calls) := by
  have hfuel : (order.map Node.module).length < URI_MODULE_MAX + 1 := by
    rw [List.length_map, h.each.length_eq, List.length_range]
    omega
  have hwalk := h.circular.segment.walk (List.nodup_cons.mp h.circular.nodup).1 hfuel
  refine ⟨⟨h.stored, h.each.map _, hwalk, h.circular.inverse⟩, ?_⟩
  rw [uriModuleInit, hwalk, Option.map_some, List.filterMap_map, ← h.placed,
    ← List.filterMap_eq_map]
  rfl

theorem addAll_lists (moduleArr : Nat → UriModule F) (hlen : calls.length ≤ URI_MODULE_MAX) :
    ∃ s nodes, addAll (.start moduleArr) calls = some s ∧ Lists s calls nodes ∧
      uriModuleInit s = some (placeAll calls) := by
  have hroom : ([] : List (UriModule F)).length + calls.length ≤ URI_MODULE_MAX := by
    rw [List.length_nil, Nat.zero_add]
    exact hlen
  obtain ⟨s, order, hall, h⟩ := holds_addAll (holds_start moduleArr) hroom
  rw [List.nil_append] at h
  exact ⟨s, order.map .module, hall, h.lists hlen⟩

/-- The modules come in the order of their priorities exactly when none of them is added after
two with smaller priorities. -/
theorem addsInOrder_iff (moduleArr : Nat → UriModule F) (hlen : calls.length ≤ URI_MODULE_MAX) :
    AddsInOrder moduleArr calls ↔ AtMostOneBelow calls := by
  obtain ⟨s, nodes, hall, hlists, hinit⟩ := addAll_lists moduleArr hlen
  rw [← inOrder_placeAll]
  constructor
  · intro ⟨s', nodes', ms, hall', _, hinit', horder⟩
    rw [hall] at hall'
    cases hall'
    rw [hinit] at hinit'
    cases hinit'
    exact horder
  · exact fun horder => ⟨s, nodes, placeAll calls, hall, hlists, hinit, horder⟩

/-- Each of these modules comes after one at most with a smaller priority. -/
theorem addsInOrder_four : AddsInOrder (fun _ => (⟨0, 0, 0⟩ : UriModule Nat))
    [⟨10, 11, 5⟩, ⟨20, 21, 3⟩, ⟨30, 31, 4⟩, ⟨40, 41, 3⟩] :=
  (addsInOrder_iff _ (by decide)).mpr (by decide)

/-- The three modules of the server, in the order of their priorities: the third is put behind the
first. -/
theorem not_addsInOrder_always :
    ¬ ∀ (moduleArr : Nat → UriModule Nat) (calls : List (UriModule Nat)),
      calls.length ≤ URI_MODULE_MAX → AddsInOrder moduleArr calls := by
  intro hall
  have hlen : [(⟨10, 11, 101⟩ : UriModule Nat), ⟨20, 21, 0x81⟩, ⟨30, 31, 0x90⟩].length ≤
      URI_MODULE_MAX := by decide
  obtain ⟨s, nodes, ms, hadd, -, hinit, horder⟩ := hall (fun _ => ⟨0, 0, 0⟩) _ hlen
  obtain ⟨s', nodes', hadd', -, hinit'⟩ := addAll_lists (fun _ => (⟨0, 0, 0⟩ : UriModule Nat)) hlen
  rw [hadd] at hadd'
  cases hadd'
  rw [hinit] at hinit'
  cases hinit'
  exact absurd ((inOrder_placeAll _).mp horder) (by decide)

end WirelessEsp.UriModules
