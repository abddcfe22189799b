import Mathlib.Logic.Function.Basic

namespace WirelessEsp.WebsocketClients

open Function (update)

def CONFIG_LWIP_MAX_SOCKETS : Nat := 16

def LWIP_SOCKET_OFFSET : Nat := 64 - CONFIG_LWIP_MAX_SOCKETS

structure Socket where
  fd : Nat
  low : LWIP_SOCKET_OFFSET ≤ fd
  high : fd < 64
  deriving DecidableEq

def fdIdx (fd : Nat) : UInt8 := UInt8.ofNat (fd - LWIP_SOCKET_OFFSET)

/-- The part of `ws_ctx_t` about the clients: the descriptors by their index, and those of the
clients in front of `valid_fd`. -/
structure WsCtx where
  clients : UInt8 → Nat
  validFd : Nat → UInt8
  clientCount : Nat

def wsAddFd (fd : Nat) (c : WsCtx) : Nat × WsCtx :=
  if c.clientCount ≥ CONFIG_LWIP_MAX_SOCKETS then (1, c)
  else
    (0, { clients := update c.clients (fdIdx fd) fd
          validFd := update c.validFd c.clientCount (UInt8.ofNat fd)
          clientCount := c.clientCount + 1 })

def wsRmFd (fd : Nat) (c : WsCtx) : WsCtx :=
  match (List.range c.clientCount).find? fun i => (c.validFd i).toNat == fd with
  | none => c
  | some i =>
      { c with
        validFd := update c.validFd i (c.validFd (c.clientCount - 1))
        clientCount := c.clientCount - 1 }

/-- The points of `ws_add_fd`, each before one access to `ws_ctx`: the test of the count, the store
of the client, the load of the index, the store of the entry, and the load and the store of
`client_count++`. -/
inductive Add
  | test
  | client
  | place
  | entry (n : Nat)
  | load
  | store (n : Nat)
  deriving DecidableEq

/-- The points of `ws_rm_fd`: in the loop the test of the count and the load of an entry; then the
loads of the count and the last entry, the store of the entry, and the load and the store of
`client_count--`. -/
inductive Rm
  | test (i : Nat)
  | read (i : Nat)
  | last (i : Nat)
  | take (i n : Nat)
  | put (i : Nat) (v : UInt8)
  | load
  | store (n : Nat)
  deriving DecidableEq

/-- One access of `ws_add_fd`, and the point behind it or the returned value. `none` when the access
is outside the array. -/
def Add.step (fd : Nat) : Add → WsCtx → Option ((Add ⊕ Nat) × WsCtx)
  | .test, c => some (if c.clientCount ≥ CONFIG_LWIP_MAX_SOCKETS then .inr 1 else .inl .client, c)
  | .client, c => some (.inl .place, { c with clients := update c.clients (fdIdx fd) fd })
  | .place, c => some (.inl (.entry c.clientCount), c)
  | .entry n, c =>
      if n < CONFIG_LWIP_MAX_SOCKETS then
        some (.inl .load, { c with validFd := update c.validFd n (UInt8.ofNat fd) })
      else none
  | .load, c => some (.inl (.store c.clientCount), c)
  | .store n, c => some (.inr 0, { c with clientCount := n + 1 })

/-- One access of `ws_rm_fd`, and the point behind it if it does not return. `none` when the access
is outside the array or the count goes below zero. -/
def Rm.step (fd : Nat) : Rm → WsCtx → Option (Option Rm × WsCtx)
  | .test i, c => some (if i < c.clientCount then some (.read i) else none, c)
  | .read i, c =>
      if i < CONFIG_LWIP_MAX_SOCKETS then
        some (some (if (c.validFd i).toNat = fd then .last i else .test (i + 1)), c)
      else none
  | .last i, c => some (some (.take i c.clientCount), c)
  | .take i n, c =>
      if 0 < n ∧ n ≤ CONFIG_LWIP_MAX_SOCKETS then some (some (.put i (c.validFd (n - 1))), c)
      else none
  | .put i v, c =>
      if i < CONFIG_LWIP_MAX_SOCKETS then
        some (some .load, { c with validFd := update c.validFd i v })
      else none
  | .load, c => some (some (.store c.clientCount), c)
  | .store n, c => if 0 < n then some (none, { c with clientCount := n - 1 }) else none

/-- What `ws_add_fd` returns and leaves from a point on when nothing comes between its accesses. -/
def Add.finish (fd : Nat) : Add → WsCtx → Nat × WsCtx
  | .test, c => wsAddFd fd c
  | .client, c =>
      (0, { clients := update c.clients (fdIdx fd) fd
            validFd := update c.validFd c.clientCount (UInt8.ofNat fd)
            clientCount := c.clientCount + 1 })
  | .place, c =>
      (0, { c with
        validFd := update c.validFd c.clientCount (UInt8.ofNat fd)
        clientCount := c.clientCount + 1 })
  | .entry n, c =>
      (0, { c with
        validFd := update c.validFd n (UInt8.ofNat fd)
        clientCount := c.clientCount + 1 })
  | .load, c => (0, { c with clientCount := c.clientCount + 1 })
  | .store n, c => (0, { c with clientCount := n + 1 })

def removeEntry (i : Nat) (c : WsCtx) : WsCtx :=
  { c with
    validFd := update c.validFd i (c.validFd (c.clientCount - 1))
    clientCount := c.clientCount - 1 }

def removeFrom (fd i : Nat) (c : WsCtx) : WsCtx :=
  match (List.range' i (c.clientCount - i)).find? fun j => (c.validFd j).toNat == fd with
  | none => c
  | some j => removeEntry j c

/-- What `ws_rm_fd` leaves from a point on when nothing comes between its accesses. -/
def Rm.finish (fd : Nat) : Rm → WsCtx → WsCtx
  | .test i, c => removeFrom fd i c
  | .read i, c => if (c.validFd i).toNat = fd then removeEntry i c else removeFrom fd (i + 1) c
  | .last i, c => removeEntry i c
  | .take i n, c =>
      { c with
        validFd := update c.validFd i (c.validFd (n - 1))
        clientCount := c.clientCount - 1 }
  | .put i v, c =>
      { c with validFd := update c.validFd i v, clientCount := c.clientCount - 1 }
  | .load, c => { c with clientCount := c.clientCount - 1 }
  | .store n, c => { c with clientCount := n - 1 }

/-- What `ws_add_fd` knows of the count at a point. -/
def Add.Fits : Add → WsCtx → Prop
  | .test, _ => True
  | .client, c | .place, c | .load, c => c.clientCount < CONFIG_LWIP_MAX_SOCKETS
  | .entry n, c | .store n, c => n = c.clientCount ∧ n < CONFIG_LWIP_MAX_SOCKETS

/-- What `ws_rm_fd` knows of the count at a point. -/
def Rm.Fits : Rm → WsCtx → Prop
  | .test _, _ => True
  | .read i, c | .last i, c | .put i _, c => i < c.clientCount
  | .take i n, c => n = c.clientCount ∧ i < n
  | .load, c => 0 < c.clientCount
  | .store n, c => n = c.clientCount ∧ 0 < n

def WsCtx.Lists (c : WsCtx) (fd : Nat) : Prop := ∃ i < c.clientCount, (c.validFd i).toNat = fd

theorem Socket.ext_fd {k k' : Socket} (h : k.fd = k'.fd) : k = k' := by
  cases k
  cases k'
  cases h
  rfl

theorem Socket.toNat_fd (k : Socket) : (UInt8.ofNat k.fd).toNat = k.fd := by
  have hhigh := k.high
  rw [UInt8.toNat_ofNat']
  omega

theorem wsAddFd_refuses {fd : Nat} {c : WsCtx} (h : (wsAddFd fd c).1 ≠ 0) :
    CONFIG_LWIP_MAX_SOCKETS ≤ c.clientCount ∧ (wsAddFd fd c).2 = c := by
  rw [wsAddFd] at h ⊢
  split at h
  next hfull =>
    rw [if_pos hfull]
    exact ⟨hfull, rfl⟩
  next => exact absurd rfl h

theorem wsAddFd_adds {fd : Nat} {c : WsCtx} (h : (wsAddFd fd c).1 = 0) :
    (wsAddFd fd c).2.clientCount = c.clientCount + 1 ∧
      (wsAddFd fd c).2.validFd = update c.validFd c.clientCount (UInt8.ofNat fd) := by
  rw [wsAddFd] at h ⊢
  split at h
  next => cases h
  next hfree =>
    rw [if_neg hfree]
    exact ⟨rfl, rfl⟩

theorem wsRmFd_cases (fd : Nat) (c : WsCtx) :
    (wsRmFd fd c = c ∧ ¬ c.Lists fd) ∨
    ∃ i < c.clientCount, (c.validFd i).toNat = fd ∧
      (wsRmFd fd c).validFd = update c.validFd i (c.validFd (c.clientCount - 1)) ∧
      (wsRmFd fd c).clientCount = c.clientCount - 1 := by
  rw [wsRmFd]
  split
  next hnone =>
    refine .inl ⟨rfl, ?_⟩
    rintro ⟨i, hi, hfd⟩
    rw [List.find?_eq_none] at hnone
    exact hnone i (List.mem_range.mpr hi) (beq_iff_eq.mpr hfd)
  next i hsome =>
    have hi := List.mem_range.mp (List.mem_of_find?_eq_some hsome)
    have hfd := List.find?_some hsome
    exact .inr ⟨i, hi, beq_iff_eq.mp hfd, rfl, rfl⟩

theorem wsRmFd_entry (fd : Nat) (c : WsCtx) : ∃ f : Nat → Nat,
    (∀ j < (wsRmFd fd c).clientCount, f j < c.clientCount ∧
      (wsRmFd fd c).validFd j = c.validFd (f j)) ∧
    ∀ j < (wsRmFd fd c).clientCount, ∀ k < (wsRmFd fd c).clientCount, f j = f k → j = k := by
  rcases wsRmFd_cases fd c with ⟨hsame, -⟩ | ⟨i, hi, -, hvalid, hcount⟩
  · rw [hsame]
    exact ⟨id, fun j hj => ⟨hj, rfl⟩, fun _ _ _ _ h => h⟩
  · refine ⟨fun j => if j = i then c.clientCount - 1 else j, ?_, ?_⟩
    · intro j hj
      rw [hcount] at hj
      rw [hvalid, Function.update_apply]
      dsimp only
      by_cases hji : j = i
      · rw [if_pos hji]
        exact ⟨by omega, if_pos hji⟩
      · rw [if_neg hji]
        exact ⟨by omega, if_neg hji⟩
    · intro j hj k hk h
      rw [hcount] at hj hk
      dsimp only at h
      split at h <;> split at h <;> omega

section Points

variable {fd : Nat} {c c' : WsCtx}

theorem Add.step_finish {e : Add} {next : Add ⊕ Nat} (h : e.step fd c = some (next, c')) :
    e.finish fd c = next.elim (fun e' => e'.finish fd c') fun r => (r, c') := by
  cases e with
  | test =>
      rw [Add.step] at h
      cases h
      rw [Add.finish, wsAddFd]
      split <;> rfl
  | entry n =>
      rw [Add.step, Option.ite_none_right_eq_some] at h
      obtain ⟨-, h⟩ := h
      cases h
      rfl
  | client | place | load | store n =>
      cases h
      rfl

theorem removeFrom_zero (fd : Nat) (c : WsCtx) : removeFrom fd 0 c = wsRmFd fd c := by
  rw [removeFrom, wsRmFd, Nat.sub_zero, List.range_eq_range']
  rfl

theorem removeFrom_test (fd i : Nat) (c : WsCtx) :
    removeFrom fd i c = if i < c.clientCount then Rm.finish fd (.read i) c else c := by
  split
  next hi =>
    have hlen : c.clientCount - i = c.clientCount - (i + 1) + 1 := by omega
    rw [removeFrom, hlen, List.range'_succ, Rm.finish]
    by_cases hfd : (c.validFd i).toNat = fd
    · have hbeq : ((c.validFd i).toNat == fd) = true := beq_iff_eq.mpr hfd
      simp only [List.find?_cons, hbeq, if_pos hfd]
    · have hbeq : ((c.validFd i).toNat == fd) = false := beq_eq_false_iff_ne.mpr hfd
      simp only [List.find?_cons, hbeq, if_neg hfd]
      rfl
  next hi =>
    have hlen : c.clientCount - i = 0 := by omega
    rw [removeFrom, hlen]
    rfl

theorem Rm.step_finish {e : Rm} {next : Option Rm} (h : e.step fd c = some (next, c')) :
    e.finish fd c = next.elim c' fun e' => e'.finish fd c' := by
  cases e with
  | test i =>
      rw [Rm.step] at h
      cases h
      rw [Rm.finish, removeFrom_test]
      split <;> rfl
  | read i =>
      rw [Rm.step, Option.ite_none_right_eq_some] at h
      obtain ⟨-, h⟩ := h
      cases h
      rw [Rm.finish]
      split <;> rfl
  | take i n | put i v | store n =>
      rw [Rm.step, Option.ite_none_right_eq_some] at h
      obtain ⟨-, h⟩ := h
      cases h
      rfl
  | last i | load =>
      cases h
      rfl

theorem Add.step_fits {e : Add} (fd : Nat) (h : e.Fits c)
    (hroom : c.clientCount ≤ CONFIG_LWIP_MAX_SOCKETS) :
    ∃ next c', e.step fd c = some (next, c') ∧ c'.clientCount ≤ CONFIG_LWIP_MAX_SOCKETS ∧
      ∀ e', next = .inl e' → e'.Fits c' := by
  cases e with
  | test =>
      refine ⟨_, c, rfl, hroom, ?_⟩
      intro e' he
      split at he
      next => cases he
      next hfree =>
        cases he
        exact Nat.lt_of_not_le hfree
  | client =>
      refine ⟨_, _, rfl, hroom, ?_⟩
      rintro e' ⟨⟩
      exact h
  | place | load =>
      refine ⟨_, _, rfl, hroom, ?_⟩
      rintro e' ⟨⟩
      exact ⟨rfl, h⟩
  | entry n =>
      obtain ⟨rfl, hn⟩ := h
      refine ⟨_, _, if_pos hn, hroom, ?_⟩
      rintro e' ⟨⟩
      exact hn
  | store n =>
      obtain ⟨rfl, hn⟩ := h
      refine ⟨_, _, rfl, hn, ?_⟩
      rintro e' ⟨⟩

theorem Rm.step_fits {e : Rm} (fd : Nat) (h : e.Fits c)
    (hroom : c.clientCount ≤ CONFIG_LWIP_MAX_SOCKETS) :
    ∃ next c', e.step fd c = some (next, c') ∧ c'.clientCount ≤ CONFIG_LWIP_MAX_SOCKETS ∧
      ∀ e', next = some e' → e'.Fits c' := by
  cases e with
  | test i =>
      refine ⟨_, c, rfl, hroom, ?_⟩
      intro e' he
      rw [Option.ite_none_right_eq_some] at he
      obtain ⟨hi, he⟩ := he
      cases he
      exact hi
  | read i =>
      refine ⟨_, c, if_pos (Nat.lt_of_lt_of_le h hroom), hroom, ?_⟩
      rintro e' ⟨⟩
      split
      next => exact h
      next => trivial
  | last i =>
      refine ⟨_, c, rfl, hroom, ?_⟩
      rintro e' ⟨⟩
      exact ⟨rfl, h⟩
  | take i n =>
      obtain ⟨rfl, hi⟩ := h
      refine ⟨_, c, if_pos ⟨Nat.zero_lt_of_lt hi, hroom⟩, hroom, ?_⟩
      rintro e' ⟨⟩
      exact hi
  | put i v =>
      refine ⟨_, _, if_pos (Nat.lt_of_lt_of_le h hroom), hroom, ?_⟩
      rintro e' ⟨⟩
      exact Nat.zero_lt_of_lt h
  | load =>
      refine ⟨_, c, rfl, hroom, ?_⟩
      rintro e' ⟨⟩
      exact ⟨rfl, h⟩
  | store n =>
      obtain ⟨rfl, hn⟩ := h
      refine ⟨_, _, if_pos hn, Nat.le_trans (Nat.sub_le _ 1) hroom, ?_⟩
      rintro e' ⟨⟩

end Points

end WirelessEsp.WebsocketClients
