import Mathlib.Data.List.FinRange
import WirelessEsp.WebsocketClients

namespace WirelessEsp.HeartbeatBroadcast

open WebsocketClients
open Function (update)

inductive Event
  | heartbeat (fd : Nat)
  | triggerClose (fd : Nat)
deriving DecidableEq, Repr

/-- The loop of `ws_broadcast_heartbeat` from the index `i` on; the send to a descriptor fails or
not. `none` when the fuel runs out. -/
def broadcastLoop (fails : Nat → Bool) : Nat → Nat → WsCtx → Option (WsCtx × List Event)
  | 0, _, _ => none
  | fuel + 1, i, c =>
      if i < c.clientCount then
        let fd := c.clients (fdIdx (c.validFd i).toNat)
        if fails fd then
          (broadcastLoop fails fuel (i + 1) (wsRmFd fd c)).map fun (c', es) =>
            (c', .heartbeat fd :: .triggerClose fd :: es)
        else
          (broadcastLoop fails fuel (i + 1) c).map fun (c', es) => (c', .heartbeat fd :: es)
      else some (c, [])

def wsBroadcastHeartbeat (fails : Nat → Bool) (c : WsCtx) : Option (WsCtx × List Event) :=
  broadcastLoop fails (c.clientCount + 1) 0 c

/-- The descriptors in the table. -/
def fds (c : WsCtx) : List Nat := (List.range c.clientCount).map fun i => (c.validFd i).toNat

/-- The descriptors are distinct, and each finds its own client. -/
structure Live (c : WsCtx) : Prop where
  nodup : (fds c).Nodup
  info : ∀ fd ∈ fds c, c.clients (fdIdx fd) = fd

/-- Each client has got one heartbeat, and those it could not be sent to are closed, once, and no
longer in the table. -/
structure Broadcast (fails : Nat → Bool) (c c' : WsCtx) (es : List Event) : Prop where
  sent : ∀ fd ∈ fds c, es.count (.heartbeat fd) = 1
  kept : ∀ fd, fd ∈ fds c' ↔ fd ∈ fds c ∧ fails fd = false
  closed : ∀ fd, es.count (.triggerClose fd) = if fd ∈ fds c ∧ fails fd = true then 1 else 0

def Broadcasts (fails : Nat → Bool) (c : WsCtx) : Prop :=
  ∃ c' es, wsBroadcastHeartbeat fails c = some (c', es) ∧ Broadcast fails c c' es

variable {fails : Nat → Bool} {c c' : WsCtx} {x : Nat} {done rest : List Nat}

theorem fds_length (c : WsCtx) : (fds c).length = c.clientCount := by
  rw [fds, List.length_map, List.length_range]

theorem fds_getElem? (c : WsCtx) (i : Nat) :
    (fds c)[i]? = if i < c.clientCount then some (c.validFd i).toNat else none := by
  rw [fds, List.getElem?_map]
  split
  next hi => rw [List.getElem?_range hi, Option.map_some]
  next hi => rw [List.getElem?_eq_none (by rw [List.length_range]; omega), Option.map_none]

theorem fds_getElem {i : Nat} (hi : i < (fds c).length) : (fds c)[i] = (c.validFd i).toNat := by
  simp [fds]

theorem fds_get (h : fds c = done ++ x :: rest) :
    done.length < c.clientCount ∧ (c.validFd done.length).toNat = x := by
  have hlt : done.length < (fds c).length := by
    rw [h, List.length_append, List.length_cons]
    omega
  refine ⟨by rw [← fds_length]; exact hlt, ?_⟩
  rw [← fds_getElem hlt]
  simp [h]

theorem fds_wsRmFd (h : fds c = done ++ x :: rest) (hnodup : (fds c).Nodup) :
    fds (wsRmFd x c) = done ++ (rest.getLast?.toList ++ rest.dropLast) := by
  obtain ⟨hlt, hx⟩ := fds_get h
  rcases wsRmFd_cases x c with ⟨-, hno⟩ | ⟨i, hi, hfd, hvalid, hcount⟩
  · exact absurd ⟨_, hlt, hx⟩ hno
  · have hcount' : c.clientCount = done.length + rest.length + 1 := by
      rw [← fds_length, h, List.length_append, List.length_cons]
      rfl
    have hplace : i = done.length := by
      have hi' : i < (fds c).length := by rw [fds_length]; exact hi
      have hd' : done.length < (fds c).length := by rw [fds_length]; exact hlt
      have hsame : (fds c)[i] = (fds c)[done.length] := by rw [fds_getElem, fds_getElem, hfd, hx]
      exact hnodup.getElem_inj_iff.mp hsame
    subst hplace
    have hold (j : Nat) (hj : j < c.clientCount) :
        (done ++ x :: rest)[j]? = some (c.validFd j).toNat := by
      rw [← h, fds_getElem?, if_pos hj]
    apply List.ext_getElem?
    intro j
    rw [fds_getElem?, hcount, hvalid, Function.update_apply]
    rcases List.eq_nil_or_concat' rest with rfl | ⟨r, l, rfl⟩
    · rw [List.length_nil, Nat.add_zero] at hcount'
      rw [List.getLast?_nil, List.dropLast_nil, Option.toList_none, List.append_nil,
        List.append_nil, hcount', Nat.add_sub_cancel]
      split
      next hj =>
        rw [if_neg (Nat.ne_of_lt hj), ← hold j (by omega), List.getElem?_append_left hj]
      next hj => rw [List.getElem?_eq_none (by omega)]
    · rw [List.length_append, List.length_singleton] at hcount'
      have hlast : (c.validFd (c.clientCount - 1)).toNat = l := by
        have hend := hold (c.clientCount - 1) (by omega)
        have hlen : c.clientCount - 1 = (done ++ x :: r).length := by
          rw [List.length_append, List.length_cons]
          omega
        rw [hlen, ← List.cons_append, ← List.append_assoc, List.getElem?_concat_length,
          ← hlen] at hend
        exact (Option.some.inj hend).symm
      rw [List.getLast?_concat, List.dropLast_concat, Option.toList_some, List.singleton_append]
      split
      next hj =>
        split
        next heq => rw [heq, List.getElem?_append_right (Nat.le_refl _), Nat.sub_self, hlast]; rfl
        next hne =>
          rw [← hold j (by omega)]
          by_cases hd : j < done.length
          · rw [List.getElem?_append_left hd, List.getElem?_append_left hd]
          · obtain ⟨k, rfl⟩ := Nat.exists_eq_add_of_lt (show done.length < j by omega)
            have hk : k < r.length := by omega
            rw [List.getElem?_append_right (by omega), List.getElem?_append_right (by omega),
              show done.length + k + 1 - done.length = k + 1 by omega, List.getElem?_cons_succ,
              List.getElem?_cons_succ, List.getElem?_append_left hk]
      next hj =>
        rw [List.getElem?_eq_none]
        rw [List.length_append, List.length_cons]
        omega

theorem wsRmFd_clients (fd : Nat) (c : WsCtx) : (wsRmFd fd c).clients = c.clients := by
  rw [wsRmFd]
  split <;> rfl

theorem last_dropLast_perm (l : List Nat) : (l.getLast?.toList ++ l.dropLast).Perm l := by
  rcases List.eq_nil_or_concat' l with rfl | ⟨r, y, rfl⟩
  · exact .refl _
  · rw [List.getLast?_concat, List.dropLast_concat]
    exact (List.perm_append_singleton y r).symm

theorem Live.remove (hl : Live c) (h : fds c = done ++ x :: rest) : Live (wsRmFd x c) := by
  have hfds := fds_wsRmFd h hl.nodup
  have hperm : (x :: fds (wsRmFd x c)).Perm (fds c) := by
    rw [hfds, h]
    exact (((last_dropLast_perm rest).append_left done).cons x).trans List.perm_middle.symm
  have hnodup := hperm.nodup_iff.mpr hl.nodup
  refine ⟨(List.nodup_cons.mp hnodup).2, fun fd hfd => ?_⟩
  rw [wsRmFd_clients]
  exact hl.info fd (hperm.subset (List.mem_cons_of_mem _ hfd))

def beat (fails : Nat → Bool) (fd : Nat) : List Event :=
  if fails fd then [.heartbeat fd, .triggerClose fd] else [.heartbeat fd]

theorem broadcastLoop_end {fuel i : Nat} (hi : c.clientCount ≤ i) :
    broadcastLoop fails (fuel + 1) i c = some (c, []) := if_neg (Nat.not_lt.mpr hi)

theorem broadcastLoop_next {fuel : Nat} (hl : Live c) (h : fds c = done ++ x :: rest) :
    broadcastLoop fails (fuel + 1) done.length c =
      (broadcastLoop fails fuel (done.length + 1) (if fails x then wsRmFd x c else c)).map
        fun (c', es) => (c', beat fails x ++ es) := by
  obtain ⟨hlt, hx⟩ := fds_get h
  have hfd : c.clients (fdIdx (c.validFd done.length).toNat) = x := by
    rw [hx]
    exact hl.info x (by rw [h]; exact List.mem_append_right _ List.mem_cons_self)
  rw [broadcastLoop, if_pos hlt]
  simp only [hfd, beat]
  split <;> rfl

theorem heartbeat_mem_beat {fd : Nat} : .heartbeat fd ∈ beat fails x ↔ fd = x := by
  rw [beat]
  split <;> simp

/-- What the loop does from an index on: heartbeats go to the clients there only; to each of them
where none but the last send fails, and past one of them otherwise. -/
structure GoesOn (fails : Nat → Bool) (done rest : List Nat) (c' : WsCtx) (es : List Event) :
    Prop where
  sent : ∀ fd, .heartbeat fd ∈ es → fd ∈ rest
  all : (∀ x ∈ rest.dropLast, fails x = false) →
    fds c' = done ++ rest.filter (fun x => !fails x) ∧ es = rest.flatMap (beat fails)
  passed : (∃ x ∈ rest.dropLast, fails x = true) → ∃ fd ∈ rest, .heartbeat fd ∉ es

theorem goesOn_nil (h : fds c = done) : GoesOn fails done [] c [] where
  sent fd hfd := absurd hfd List.not_mem_nil
  all _ := ⟨by rw [h]; exact (List.append_nil _).symm, rfl⟩
  passed := fun ⟨x, hx, _⟩ => absurd hx List.not_mem_nil

theorem goesOn_last (hx : fails x = true) (h : fds c = done) :
    GoesOn fails done [x] c (beat fails x) where
  sent fd hfd := List.mem_singleton.mpr (heartbeat_mem_beat.mp hfd)
  all _ := by
    refine ⟨?_, ?_⟩
    · rw [List.filter_cons_of_neg (by rw [hx]; decide), h]
      exact (List.append_nil _).symm
    · rw [List.flatMap_singleton]
  passed := fun ⟨x, hx, _⟩ => absurd hx List.not_mem_nil

theorem goesOn_fails {r : List Nat} {l : Nat} {es : List Event} (hx : fails x = true)
    (hnodup : (x :: (r ++ [l])).Nodup) (hsent : ∀ fd, .heartbeat fd ∈ es → fd ∈ r) :
    GoesOn fails done (x :: (r ++ [l])) c' (beat fails x ++ es) where
  sent fd hfd := by
    rcases List.mem_append.mp hfd with hfd | hfd
    · exact heartbeat_mem_beat.mp hfd ▸ List.mem_cons_self
    · exact List.mem_cons_of_mem _ (List.mem_append_left _ (hsent fd hfd))
  all hall := by
    rw [← List.cons_append, List.dropLast_concat] at hall
    exact absurd (hall x List.mem_cons_self) (by rw [hx]; decide)
  passed _ := by
    rw [List.nodup_cons, List.mem_append, not_or, List.mem_singleton] at hnodup
    obtain ⟨⟨-, hne⟩, hrest⟩ := hnodup
    have hl := (List.nodup_append.mp hrest).2.2
    refine ⟨l, List.mem_cons_of_mem _ (List.mem_append_right _ (List.mem_singleton_self l)), ?_⟩
    rw [List.mem_append, not_or]
    refine ⟨fun hmem => hne (heartbeat_mem_beat.mp hmem).symm, fun hmem => ?_⟩
    exact hl l (hsent l hmem) l (List.mem_singleton_self l) rfl

theorem goesOn_sent {es : List Event} (hx : fails x = false) (hnodup : (x :: rest).Nodup)
    (h : GoesOn fails (done ++ [x]) rest c' es) :
    GoesOn fails done (x :: rest) c' (beat fails x ++ es) where
  sent fd hfd := by
    rcases List.mem_append.mp hfd with hfd | hfd
    · exact heartbeat_mem_beat.mp hfd ▸ List.mem_cons_self
    · exact List.mem_cons_of_mem _ (h.sent fd hfd)
  all hall := by
    have hrest : ∀ y ∈ rest.dropLast, fails y = false := by
      intro y hy
      refine hall y ?_
      cases rest with
      | nil => exact hy
      | cons z rest => exact List.mem_cons_of_mem _ hy
    obtain ⟨hfds, rfl⟩ := h.all hrest
    refine ⟨?_, rfl⟩
    rw [hfds, List.filter_cons_of_pos (by rw [hx]; rfl), List.append_assoc]
    rfl
  passed := by
    rintro ⟨y, hy, hfails⟩
    have hy' : y ∈ rest.dropLast := by
      cases rest with
      | nil => exact hy
      | cons z rest =>
          refine (List.mem_cons.mp hy).resolve_left fun heq => ?_
          rw [heq, hx] at hfails
          cases hfails
    obtain ⟨fd, hfd, hno⟩ := h.passed ⟨y, hy', hfails⟩
    refine ⟨fd, List.mem_cons_of_mem _ hfd, ?_⟩
    rw [List.mem_append, not_or]
    refine ⟨fun hmem => ?_, hno⟩
    exact (List.nodup_cons.mp hnodup).1 (heartbeat_mem_beat.mp hmem ▸ hfd)

theorem broadcastLoop_spec {fuel : Nat} (hl : Live c) (h : fds c = done ++ rest)
    (hfuel : rest.length < fuel) :
    ∃ c' es, broadcastLoop fails fuel done.length c = some (c', es) ∧
      GoesOn fails done rest c' es := by
  induction fuel generalizing c done rest with
  | zero => exact absurd hfuel (Nat.not_lt_zero _)
  | succ fuel ih =>
      have hnodup : rest.Nodup := (List.nodup_append.mp (h ▸ hl.nodup)).2.1
      cases rest with
      | nil =>
          rw [List.append_nil] at h
          have hcount : c.clientCount ≤ done.length := by rw [← fds_length, h]
          exact ⟨c, [], broadcastLoop_end hcount, goesOn_nil h⟩
      | cons x rest =>
          rw [List.length_cons, Nat.succ_lt_succ_iff] at hfuel
          rw [broadcastLoop_next hl h]
          by_cases hx : fails x = true
          · rw [if_pos hx]
            have hfds := fds_wsRmFd h hl.nodup
            rcases List.eq_nil_or_concat' rest with rfl | ⟨r, l, rfl⟩
            · obtain ⟨fuel, rfl⟩ := Nat.exists_eq_add_of_lt hfuel
              have hfds' : fds (wsRmFd x c) = done := hfds.trans (List.append_nil _)
              have hcount : (wsRmFd x c).clientCount ≤ done.length + 1 := by
                rw [← fds_length, hfds']
                exact Nat.le_succ _
              rw [broadcastLoop_end hcount]
              exact ⟨_, _, rfl, by rw [List.append_nil]; exact goesOn_last hx hfds'⟩
            · rw [List.getLast?_concat, List.dropLast_concat, Option.toList_some,
                ← List.append_assoc] at hfds
              rw [List.length_append, List.length_singleton] at hfuel
              obtain ⟨c', es, hloop, hgoes⟩ := ih (hl.remove h) hfds (by omega)
              rw [List.length_append, List.length_singleton] at hloop
              rw [hloop]
              exact ⟨c', _, rfl, goesOn_fails hx hnodup hgoes.sent⟩
          · rw [if_neg hx]
            rw [List.append_cons] at h
            obtain ⟨c', es, hloop, hgoes⟩ := ih hl h hfuel
            rw [List.length_append, List.length_singleton] at hloop
            rw [hloop]
            exact ⟨c', _, rfl, goesOn_sent (Bool.eq_false_of_not_eq_true hx) hnodup hgoes⟩

theorem count_heartbeat (l : List Nat) (fd : Nat) :
    (l.flatMap (beat fails)).count (.heartbeat fd) = l.count fd := by
  induction l with
  | nil => rfl
  | cons x l ih =>
      rw [List.flatMap_cons, List.count_append, ih, List.count_cons, beat, Nat.add_comm]
      congr 1
      split <;> simp [List.count_cons, beq_iff_eq]

theorem count_triggerClose (l : List Nat) (fd : Nat) :
    (l.flatMap (beat fails)).count (.triggerClose fd) =
      (l.filter fun x => fails x).count fd := by
  induction l with
  | nil => rfl
  | cons x l ih =>
      rw [List.flatMap_cons, List.count_append, ih, beat]
      by_cases hx : fails x = true
      · rw [if_pos hx, List.filter_cons_of_pos hx, List.count_cons, Nat.add_comm]
        simp [List.count_cons, beq_iff_eq]
      · rw [if_neg hx, List.filter_cons_of_neg hx]
        simp

theorem wsBroadcastHeartbeat_goesOn (fails : Nat → Bool) (hl : Live c) :
    ∃ c' es, wsBroadcastHeartbeat fails c = some (c', es) ∧ GoesOn fails [] (fds c) c' es := by
  have hstart : fds c = [] ++ fds c := rfl
  exact broadcastLoop_spec hl hstart (by rw [fds_length]; exact Nat.lt_succ_self _)

/-- A broadcast reaches every client exactly when no send fails but that to the last one in the
table. -/
theorem broadcasts_iff (hl : Live c) :
    Broadcasts fails c ↔ ∀ fd ∈ (fds c).dropLast, fails fd = false := by
  obtain ⟨c', es, hrun, hgoes⟩ := wsBroadcastHeartbeat_goesOn fails hl
  constructor
  · intro ⟨c₁, es₁, hrun₁, hb⟩
    rw [hrun] at hrun₁
    cases hrun₁
    by_contra hno
    have hfails : ∃ x ∈ (fds c).dropLast, fails x = true := by
      simpa only [not_forall, Bool.not_eq_false, exists_prop] using hno
    obtain ⟨fd, hfd, hmiss⟩ := hgoes.passed hfails
    have hone := hb.sent fd hfd
    rw [List.count_eq_zero_of_not_mem hmiss] at hone
    cases hone
  · intro hall
    obtain ⟨hfds, rfl⟩ := hgoes.all hall
    rw [List.nil_append] at hfds
    refine ⟨c', _, hrun, ?_, ?_, ?_⟩
    · intro fd hfd
      rw [count_heartbeat]
      exact List.count_eq_one_of_mem hl.nodup hfd
    · intro fd
      rw [hfds, List.mem_filter, Bool.not_eq_true']
    · intro fd
      rw [count_triggerClose, (hl.nodup.filter _).count]
      simp only [List.mem_filter]

/-- Three clients in the table. -/
def threeClients : WsCtx := ⟨fun idx => idx.toNat + 48, fun i => [50, 48, 49].getD i 0, 3⟩

theorem live_threeClients : Live threeClients := ⟨by decide, by decide⟩

/-- The send to the last of three clients fails. -/
theorem broadcasts_last_fails : Broadcasts (fun fd => fd == 49) threeClients :=
  (broadcasts_iff live_threeClients).mpr (by decide)

/-- The send to the first client fails, and the last one gets no heartbeat. -/
theorem not_broadcasts_always :
    ¬ ∀ (fails : Nat → Bool) (c : WsCtx), Live c → Broadcasts fails c := by
  intro hall
  obtain ⟨c', es, hrun, hb⟩ := hall (fun fd => fd == 50) threeClients live_threeClients
  obtain ⟨c₁, es₁, hrun₁, hgoes⟩ :=
    wsBroadcastHeartbeat_goesOn (fun fd => fd == 50) live_threeClients
  rw [hrun] at hrun₁
  cases hrun₁
  obtain ⟨fd, hfd, hmiss⟩ := hgoes.passed ⟨50, by decide, rfl⟩
  have hone := hb.sent fd hfd
  rw [List.count_eq_zero_of_not_mem hmiss] at hone
  cases hone

end WirelessEsp.HeartbeatBroadcast
