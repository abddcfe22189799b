import Mathlib.Data.List.FinRange
import Mathlib.Tactic.Choose
import WirelessEsp.Transition
import WirelessEsp.WebsocketClients

namespace WirelessEsp.WebsocketSessions

open Transition WebsocketClients
open Function (update)

/-- The server task: in its loop, or in the handler of an opened or a closing client. -/
inductive Httpd
  | idle
  | opening (k : Socket) (e : Add)
  | closing (k : Socket) (e : Rm)
  deriving DecidableEq

/-- The heartbeat task: in its delay, at the test or the load of `ws_broadcast_heartbeat`, in the
send to a client, or in the removal of one it could not send to. -/
inductive Beat
  | delay
  | loop (i : Nat)
  | read (i : Nat)
  | sending (i : Nat) (idx : UInt8)
  | removing (i : Nat) (fd : Nat) (e : Rm)

inductive Session
  | http
  | websocket
  deriving DecidableEq

/-- The table, the open sessions of the server by their sockets, and the two tasks that use the
table. -/
structure State where
  ws : WsCtx
  sessions : Socket → Option Session
  httpd : Httpd
  beat : Beat

/-- `wsClose` is a CLOSE frame or a receive error, `serverClose` any end of a session, `httpd` an
access of the handler. -/
inductive Action
  | serverOpen (k : Socket)
  | wsOpen (k : Socket)
  | wsClose (k : Socket)
  | serverClose (k : Socket)
  | httpd
  | heartbeat (err : Bool)

/-- The server closes the session of a client that `ws_add_fd` refuses. -/
def afterAdd (k : Socket) (ret : Nat) (sessions : Socket → Option Session) :
    Socket → Option Session :=
  update sessions k (if ret = 0 then some .websocket else none)

def httpdStep (s : State) : Option State :=
  match s.httpd with
  | .idle => none
  | .opening k e => (e.step k.fd s.ws).map fun (next, ws) =>
      next.elim (fun e' => { s with ws, httpd := .opening k e' }) fun ret =>
        { s with ws, httpd := .idle, sessions := afterAdd k ret s.sessions }
  | .closing k e => (e.step k.fd s.ws).map fun (next, ws) =>
      { s with ws, httpd := next.elim .idle (.closing k) }

def heartbeatStep (err : Bool) (s : State) : Option State :=
  match s.beat with
  | .delay => some { s with beat := .loop 0 }
  | .loop i => some { s with beat := if i < s.ws.clientCount then .read i else .delay }
  | .read i =>
      if i < CONFIG_LWIP_MAX_SOCKETS then
        some { s with beat := .sending i (fdIdx (s.ws.validFd i).toNat) }
      else none
  | .sending i idx =>
      some { s with
        beat := if err then .removing i (s.ws.clients idx) (.test 0) else .loop (i + 1) }
  | .removing i fd e => (e.step fd s.ws).map fun (next, ws) =>
      { s with ws, beat := next.elim (.loop (i + 1)) (.removing i fd) }

def step (s : State) : Action → Option State
  | .serverOpen k =>
      if s.httpd = .idle ∧ s.sessions k = none then
        some { s with sessions := update s.sessions k (some .http) }
      else none
  | .wsOpen k =>
      if s.httpd = .idle ∧ s.sessions k = some .http then
        some { s with httpd := .opening k .test }
      else none
  | .wsClose k =>
      if s.httpd = .idle ∧ s.sessions k = some .websocket then
        some { s with httpd := .closing k (.test 0) }
      else none
  | .serverClose k =>
      if s.httpd = .idle ∧ s.sessions k ≠ none then
        some { s with sessions := update s.sessions k none }
      else none
  | .httpd => httpdStep s
  | .heartbeat err => heartbeatStep err s

def boot : State := ⟨⟨fun _ => 0, fun _ => 0, 0⟩, fun _ => none, .idle, .delay⟩

/-- The clients in the table are distinct, and each has an open session. -/
structure TableOk (c : WsCtx) (sessions : Socket → Option Session) : Prop where
  distinct : ∀ i < c.clientCount, ∀ j < c.clientCount, c.validFd i = c.validFd j → i = j
  opened : ∀ fd, c.Lists fd → ∃ k : Socket, k.fd = fd ∧ sessions k = some .websocket

/-- The table and the sessions when the call of `ws_add_fd` or `ws_rm_fd` that a task is in has
returned. -/
def State.settled (s : State) : WsCtx × (Socket → Option Session) :=
  match s.httpd, s.beat with
  | .opening k e, _ => ((e.finish k.fd s.ws).2, afterAdd k (e.finish k.fd s.ws).1 s.sessions)
  | .closing k e, _ => (e.finish k.fd s.ws, s.sessions)
  | .idle, .removing _ fd e => (e.finish fd s.ws, s.sessions)
  | .idle, _ => (s.ws, s.sessions)

/-- The table is right, within a call of `ws_add_fd` or `ws_rm_fd` as the call leaves it, and the
next access of neither task is outside the array. -/
structure Right (s : State) : Prop where
  table : TableOk s.settled.1 s.settled.2
  httpd : s.httpd ≠ .idle → (step s .httpd).isSome
  heartbeat : ∀ err, (step s (.heartbeat err)).isSome

def Full (sessions : Socket → Option Session) : Prop :=
  ∃ ks : List Socket, ks.Nodup ∧ ks.length = CONFIG_LWIP_MAX_SOCKETS ∧
    ∀ k ∈ ks, sessions k = some .websocket

/-- `ws_add_fd` refuses a client only when the server is full. -/
def RefusesFull (s : State) : Action → Prop
  | .httpd => ∀ k e c, s.httpd = .opening k e → e.step k.fd s.ws = some (.inr 1, c) →
      Full s.sessions
  | _ => True

def Beat.sends : Beat → Bool
  | .sending _ _ => true
  | _ => false

def Beat.removes : Beat → Bool
  | .removing _ _ _ => true
  | _ => false

/-- The two tasks are never both in `ws_add_fd` or `ws_rm_fd`. -/
def Undisturbed (s : State) : Action → Prop
  | .wsOpen _ | .wsClose _ => s.beat.removes = false
  | .heartbeat err => err = true ∧ s.beat.sends = true → s.httpd = .idle
  | _ => True

/-- The server closes no session whose client stays in the table. -/
def ClosesUnlisted (s : State) : Action → Prop
  | .serverClose k => ¬ s.settled.1.Lists k.fd
  | _ => True

instance (c : WsCtx) (fd : Nat) : Decidable (c.Lists fd) :=
  inferInstanceAs (Decidable (∃ i < c.clientCount, (c.validFd i).toNat = fd))

instance (s : State) (a : Action) : Decidable (Undisturbed s a) :=
  match a with
  | .wsOpen _ | .wsClose _ => inferInstanceAs (Decidable (s.beat.removes = false))
  | .heartbeat err =>
      inferInstanceAs (Decidable (err = true ∧ s.beat.sends = true → s.httpd = .idle))
  | .serverOpen _ | .serverClose _ | .httpd => isTrue trivial

instance (s : State) (a : Action) : Decidable (ClosesUnlisted s a) :=
  match a with
  | .serverClose k => inferInstanceAs (Decidable (¬ s.settled.1.Lists k.fd))
  | .serverOpen _ | .wsOpen _ | .wsClose _ | .httpd | .heartbeat _ => isTrue trivial

section Table

variable {c : WsCtx} {sessions : Socket → Option Session}

theorem TableOk.remove (h : TableOk c sessions) (fd : Nat) : TableOk (wsRmFd fd c) sessions := by
  obtain ⟨f, hfrom, hinj⟩ := wsRmFd_entry fd c
  constructor
  · intro i hi j hj heq
    obtain ⟨hfi, hvi⟩ := hfrom i hi
    obtain ⟨hfj, hvj⟩ := hfrom j hj
    rw [hvi, hvj] at heq
    exact hinj i hi j hj (h.distinct _ hfi _ hfj heq)
  · rintro fd' ⟨i, hi, hfd⟩
    obtain ⟨hfi, hvi⟩ := hfrom i hi
    rw [hvi] at hfd
    exact h.opened fd' ⟨f i, hfi, hfd⟩

theorem TableOk.session (h : TableOk c sessions) {k : Socket} (hk : ¬ c.Lists k.fd)
    (session : Option Session) : TableOk c (update sessions k session) := by
  refine ⟨h.distinct, ?_⟩
  intro fd hfd
  obtain ⟨k', rfl, hopen⟩ := h.opened fd hfd
  refine ⟨k', rfl, ?_⟩
  have hne : k' ≠ k := by
    rintro rfl
    exact hk hfd
  exact (Function.update_of_ne hne _ _).trans hopen

theorem TableOk.listed (h : TableOk c sessions) {k : Socket} (hk : c.Lists k.fd) :
    sessions k = some .websocket := by
  obtain ⟨k', hfd, hopen⟩ := h.opened _ hk
  rw [← Socket.ext_fd hfd]
  exact hopen

theorem TableOk.unlisted (h : TableOk c sessions) {k : Socket}
    (hk : sessions k ≠ some .websocket) : ¬ c.Lists k.fd := fun hlists => hk (h.listed hlists)

theorem TableOk.add (h : TableOk c sessions) {k : Socket} (hk : ¬ c.Lists k.fd) :
    TableOk (wsAddFd k.fd c).2 (afterAdd k (wsAddFd k.fd c).1 sessions) := by
  by_cases hadd : (wsAddFd k.fd c).1 = 0
  · obtain ⟨hcount, hvalid⟩ := wsAddFd_adds hadd
    have hnew : ∀ i < c.clientCount, c.validFd i ≠ UInt8.ofNat k.fd := by
      intro i hi heq
      exact hk ⟨i, hi, by rw [heq, k.toNat_fd]⟩
    rw [afterAdd, if_pos hadd]
    constructor
    · intro i hi j hj heq
      simp only [hcount, hvalid] at hi hj heq
      rw [Function.update_apply, Function.update_apply] at heq
      split at heq <;> split at heq
      · omega
      · exact absurd heq.symm (hnew j (by omega))
      · exact absurd heq (hnew i (by omega))
      · exact h.distinct i (by omega) j (by omega) heq
    · rintro fd ⟨i, hi, hfd⟩
      simp only [hcount, hvalid] at hi hfd
      rw [Function.update_apply] at hfd
      split at hfd
      · rw [k.toNat_fd] at hfd
        exact ⟨k, hfd, Function.update_self ..⟩
      · exact (h.session hk (some .websocket)).opened fd ⟨i, by omega, hfd⟩
  · rw [(wsAddFd_refuses hadd).2]
    exact h.session hk _

theorem TableOk.full (h : TableOk c sessions)
    (hfull : CONFIG_LWIP_MAX_SOCKETS ≤ c.clientCount) : Full sessions := by
  have hsocket : ∀ i : Fin CONFIG_LWIP_MAX_SOCKETS, ∃ k : Socket,
      k.fd = (c.validFd i).toNat ∧ sessions k = some .websocket := by
    intro i
    exact h.opened _ ⟨i, by omega, rfl⟩
  choose f hfd hopen using hsocket
  refine ⟨List.ofFn f, ?_, List.length_ofFn, ?_⟩
  · rw [List.nodup_ofFn]
    intro i j heq
    have hvalid : c.validFd i = c.validFd j := by
      apply UInt8.toNat_inj.mp
      rw [← hfd, ← hfd, heq]
    exact Fin.ext (h.distinct i (by omega) j (by omega) hvalid)
  · intro k hk
    obtain ⟨i, rfl⟩ := (List.mem_ofFn' f k).mp hk
    exact hopen i

theorem Full.of_closed {k : Socket} (h : Full (update sessions k none)) : Full sessions := by
  obtain ⟨ks, hnodup, hlen, hopen⟩ := h
  refine ⟨ks, hnodup, hlen, ?_⟩
  intro k' hk'
  have hsession := hopen k' hk'
  rw [Function.update_apply] at hsession
  split at hsession
  · cases hsession
  · exact hsession

end Table

def Httpd.Fits (s : State) : Httpd → Prop
  | .idle => True
  | .opening k e => e.Fits s.ws ∧ s.sessions k = some .http
  | .closing _ e => e.Fits s.ws

def Beat.Fits (c : WsCtx) : Beat → Prop
  | .read i => i < CONFIG_LWIP_MAX_SOCKETS
  | .removing _ _ e => e.Fits c
  | _ => True

/-- One task at most edits the table, and what it knows of the count holds. -/
structure Inv (s : State) : Prop where
  table : TableOk s.settled.1 s.settled.2
  apart : s.httpd = .idle ∨ s.beat.removes = false
  room : s.ws.clientCount ≤ CONFIG_LWIP_MAX_SOCKETS
  httpd : s.httpd.Fits s
  beat : s.beat.Fits s.ws

section Steps

variable {s t : State}

theorem settled_calm (hidle : s.httpd = .idle) (hcalm : s.beat.removes = false) :
    s.settled = (s.ws, s.sessions) := by
  rw [State.settled, hidle]
  cases hbeat : s.beat with
  | removing i fd e =>
      rw [hbeat] at hcalm
      cases hcalm
  | delay | loop i | read i | sending i idx => rfl

theorem settled_idle (hidle : s.httpd = .idle) : s.settled = (s.settled.1, s.sessions) := by
  rw [State.settled, hidle]
  cases s.beat <;> rfl

theorem settled_sessions (hidle : s.httpd = .idle) (sessions : Socket → Option Session) :
    State.settled { s with sessions } = (s.settled.1, sessions) := by
  rw [State.settled, State.settled, hidle]
  cases s.beat <;> rfl

theorem settled_beat {beat : Beat} (hcalm : s.beat.removes = false) (hbeat : beat.removes = false) :
    State.settled { s with beat } = s.settled := by
  cases hhttpd : s.httpd with
  | idle =>
      rw [← hhttpd, settled_calm hhttpd hcalm]
      exact settled_calm (s := { s with beat }) hhttpd hbeat
  | opening k e | closing k e =>
      rw [State.settled, State.settled]
      simp only [hhttpd]

theorem settled_httpd (hcalm : s.beat.removes = false) (h : httpdStep s = some t) :
    t.settled = s.settled := by
  rw [httpdStep] at h
  cases hhttpd : s.httpd with
  | idle =>
      rw [hhttpd] at h
      cases h
  | opening k e =>
      simp only [hhttpd, Option.map_eq_some_iff] at h
      obtain ⟨⟨next, ws⟩, hadd, rfl⟩ := h
      have hfinish := Add.step_finish hadd
      simp only [State.settled, hhttpd, hfinish]
      cases next with
      | inl e' => rfl
      | inr ret => exact settled_calm (s := { s with ws, httpd := .idle, sessions := _ }) rfl hcalm
  | closing k e =>
      simp only [hhttpd, Option.map_eq_some_iff] at h
      obtain ⟨⟨next, ws⟩, hrm, rfl⟩ := h
      have hfinish := Rm.step_finish hrm
      simp only [State.settled, hhttpd, hfinish]
      cases next with
      | none => exact settled_calm (s := { s with ws, httpd := .idle }) rfl hcalm
      | some e' => rfl

theorem settled_removing {i fd : Nat} {e : Rm} {next : Option Rm} {ws : WsCtx}
    (hidle : s.httpd = .idle) (hbeat : s.beat = .removing i fd e)
    (h : e.step fd s.ws = some (next, ws)) :
    State.settled { s with ws, beat := next.elim (.loop (i + 1)) (.removing i fd) } =
      s.settled := by
  have hfinish := Rm.step_finish h
  simp only [State.settled, hidle, hbeat, hfinish]
  cases next <;> rfl

theorem Inv.session (h : Inv s) (hidle : s.httpd = .idle) {k : Socket}
    (hk : ¬ s.settled.1.Lists k.fd) (session : Option Session) :
    Inv { s with sessions := update s.sessions k session } := by
  constructor
  · rw [settled_sessions hidle]
    have htable := h.table
    rw [settled_idle hidle] at htable
    exact htable.session hk session
  · exact h.apart
  · exact h.room
  · dsimp only
    rw [hidle]
    trivial
  · exact h.beat

theorem Inv.open (h : Inv s) {k : Socket} (hidle : s.httpd = .idle)
    (hcalm : s.beat.removes = false) (hhttp : s.sessions k = some .http) :
    Inv { s with httpd := .opening k .test } := by
  have htable := h.table
  rw [settled_calm hidle hcalm] at htable
  have hk : ¬ s.ws.Lists k.fd := htable.unlisted fun hopen => nomatch hhttp.symm.trans hopen
  exact ⟨htable.add hk, .inr hcalm, h.room, ⟨trivial, hhttp⟩, h.beat⟩

theorem Inv.close (h : Inv s) (hidle : s.httpd = .idle) (hcalm : s.beat.removes = false)
    (k : Socket) : Inv { s with httpd := .closing k (.test 0) } := by
  have htable := h.table
  rw [settled_calm hidle hcalm] at htable
  refine ⟨?_, .inr hcalm, h.room, trivial, h.beat⟩
  have hremove := htable.remove k.fd
  rw [← removeFrom_zero] at hremove
  exact hremove

theorem Inv.calm (h : Inv s) {beat : Beat} (hcalm : s.beat.removes = false)
    (hbeat : beat.removes = false) (hfits : beat.Fits s.ws) : Inv { s with beat } := by
  refine ⟨?_, .inr hbeat, h.room, h.httpd, hfits⟩
  rw [settled_beat hcalm hbeat]
  exact h.table

theorem Inv.removing (h : Inv s) (hidle : s.httpd = .idle) (hcalm : s.beat.removes = false)
    (i fd : Nat) : Inv { s with beat := .removing i fd (.test 0) } := by
  have htable := h.table
  rw [settled_calm hidle hcalm] at htable
  refine ⟨?_, .inl hidle, h.room, h.httpd, trivial⟩
  have hremove := htable.remove fd
  rw [← removeFrom_zero] at hremove
  simp only [State.settled, hidle]
  exact hremove

theorem Beat.Fits.calm {b : Beat} {c : WsCtx} (h : b.Fits c) (hcalm : b.removes = false)
    (c' : WsCtx) : b.Fits c' := by
  cases b with
  | removing i fd e => cases hcalm
  | read i => exact h
  | delay | loop i | sending i idx => trivial

theorem Httpd.fits_of_idle {h : Httpd} (s : State) (hidle : h = .idle) : h.Fits s := by
  rw [hidle]
  trivial

theorem httpdStep_inv (h : Inv s) (hbusy : s.httpd ≠ .idle) :
    ∃ t, httpdStep s = some t ∧ Inv t := by
  have hcalm := h.apart.resolve_left hbusy
  have hfits := h.httpd
  have hstep : ∃ t, httpdStep s = some t ∧
      t.ws.clientCount ≤ CONFIG_LWIP_MAX_SOCKETS ∧ t.httpd.Fits t ∧ t.beat = s.beat := by
    cases hhttpd : s.httpd with
    | idle => exact absurd hhttpd hbusy
    | opening k e =>
        rw [hhttpd] at hfits
        obtain ⟨hadd, hhttp⟩ := hfits
        obtain ⟨next, ws, hnext, hroom, hthen⟩ := Add.step_fits k.fd hadd h.room
        simp only [httpdStep, hhttpd, hnext, Option.map_some]
        refine ⟨_, rfl, ?_⟩
        cases next with
        | inl e' => exact ⟨hroom, ⟨hthen e' rfl, hhttp⟩, rfl⟩
        | inr ret => exact ⟨hroom, trivial, rfl⟩
    | closing k e =>
        rw [hhttpd] at hfits
        obtain ⟨next, ws, hnext, hroom, hthen⟩ := Rm.step_fits k.fd hfits h.room
        simp only [httpdStep, hhttpd, hnext, Option.map_some]
        refine ⟨_, rfl, hroom, ?_, rfl⟩
        cases next with
        | none => trivial
        | some e' => exact hthen e' rfl
  obtain ⟨t, ht, hroom, hhttpd, hsame⟩ := hstep
  refine ⟨t, ht, ?_, .inr (hsame ▸ hcalm), hroom, hhttpd, hsame ▸ h.beat.calm hcalm t.ws⟩
  rw [settled_httpd hcalm ht]
  exact h.table

theorem heartbeatStep_inv (h : Inv s) {err : Bool}
    (ha : err = true ∧ s.beat.sends = true → s.httpd = .idle) :
    ∃ t, heartbeatStep err s = some t ∧ Inv t := by
  have hfits := h.beat
  cases hbeat : s.beat with
  | delay =>
      have hcalm : s.beat.removes = false := hbeat ▸ rfl
      simp only [heartbeatStep, hbeat]
      exact ⟨_, rfl, h.calm hcalm rfl trivial⟩
  | loop i =>
      have hcalm : s.beat.removes = false := hbeat ▸ rfl
      simp only [heartbeatStep, hbeat]
      refine ⟨_, rfl, ?_⟩
      split
      next hi => exact h.calm hcalm rfl (Nat.lt_of_lt_of_le hi h.room)
      next => exact h.calm hcalm rfl trivial
  | read i =>
      have hcalm : s.beat.removes = false := hbeat ▸ rfl
      rw [hbeat] at hfits
      simp only [heartbeatStep, hbeat]
      exact ⟨_, if_pos hfits, h.calm hcalm rfl trivial⟩
  | sending i idx =>
      have hcalm : s.beat.removes = false := hbeat ▸ rfl
      simp only [heartbeatStep, hbeat]
      refine ⟨_, rfl, ?_⟩
      split
      next herr => exact h.removing (ha ⟨herr, by rw [hbeat]; rfl⟩) hcalm i _
      next => exact h.calm hcalm rfl trivial
  | removing i fd e =>
      have hidle : s.httpd = .idle := h.apart.resolve_right (by rw [hbeat]; exact Bool.noConfusion)
      rw [hbeat] at hfits
      obtain ⟨next, ws, hnext, hroom, hthen⟩ := Rm.step_fits fd hfits h.room
      simp only [heartbeatStep, hbeat, hnext, Option.map_some]
      refine ⟨_, rfl, ?_, .inl hidle, hroom, Httpd.fits_of_idle _ hidle, ?_⟩
      · rw [settled_removing hidle hbeat hnext]
        exact h.table
      · cases next with
        | none => trivial
        | some e' => exact hthen e' rfl

theorem step_inv (h : Inv s) {a : Action} (hu : Undisturbed s a) (hc : ClosesUnlisted s a)
    (hstep : step s a = some t) : Inv t := by
  cases a with
  | serverOpen k =>
      simp only [step, Option.ite_none_right_eq_some, Option.some.injEq] at hstep
      obtain ⟨⟨hidle, hnone⟩, rfl⟩ := hstep
      have htable := h.table
      rw [settled_idle hidle] at htable
      exact h.session hidle (htable.unlisted fun hopen => nomatch hnone.symm.trans hopen) _
  | wsOpen k =>
      simp only [step, Option.ite_none_right_eq_some, Option.some.injEq] at hstep
      obtain ⟨⟨hidle, hhttp⟩, rfl⟩ := hstep
      exact h.open hidle hu hhttp
  | wsClose k =>
      simp only [step, Option.ite_none_right_eq_some, Option.some.injEq] at hstep
      obtain ⟨⟨hidle, -⟩, rfl⟩ := hstep
      exact h.close hidle hu k
  | serverClose k =>
      simp only [step, Option.ite_none_right_eq_some, Option.some.injEq] at hstep
      obtain ⟨⟨hidle, -⟩, rfl⟩ := hstep
      exact h.session hidle hc none
  | httpd =>
      have hbusy : s.httpd ≠ .idle := by
        intro hidle
        rw [step, httpdStep, hidle] at hstep
        cases hstep
      obtain ⟨t', ht', hinv⟩ := httpdStep_inv h hbusy
      cases hstep.symm.trans ht'
      exact hinv
  | heartbeat err =>
      obtain ⟨t', ht', hinv⟩ := heartbeatStep_inv h hu
      cases hstep.symm.trans ht'
      exact hinv

theorem heartbeatStep_isSome (err : Bool) (h : (heartbeatStep false s).isSome) :
    (heartbeatStep err s).isSome := by
  cases hbeat : s.beat with
  | delay | loop i | sending i idx =>
      rw [heartbeatStep, hbeat]
      rfl
  | read i | removing i fd e =>
      rw [heartbeatStep, hbeat] at h ⊢
      exact h

theorem Inv.right (h : Inv s) : Right s := by
  refine ⟨h.table, ?_, ?_⟩
  · intro hbusy
    obtain ⟨t, ht, -⟩ := httpdStep_inv h hbusy
    exact Option.isSome_of_eq_some ht
  · intro err
    have hno : false = true ∧ s.beat.sends = true → s.httpd = .idle := fun herr => nomatch herr.1
    obtain ⟨t, ht, -⟩ := heartbeatStep_inv h hno
    exact heartbeatStep_isSome err (Option.isSome_of_eq_some ht)

theorem Inv.refuses (h : Inv s) (a : Action) : RefusesFull s a := by
  cases a with
  | httpd =>
      intro k e c hhttpd hadd
      have htable := h.table
      have hfinish := Add.step_finish hadd
      cases e with
      | test =>
          rw [Add.step, Option.some.injEq, Prod.mk.injEq] at hadd
          obtain ⟨hret, rfl⟩ := hadd
          have hfull : CONFIG_LWIP_MAX_SOCKETS ≤ s.ws.clientCount := by
            by_contra hfree
            rw [if_neg hfree] at hret
            cases hret
          simp only [State.settled, hhttpd, hfinish] at htable
          exact (htable.full hfull).of_closed
      | entry n =>
          rw [Add.step, Option.ite_none_right_eq_some] at hadd
          cases hadd.2
      | client | place | load | store n => cases hadd
  | serverOpen k | wsOpen k | wsClose k | serverClose k | heartbeat err => trivial

end Steps

theorem boot_inv : Inv boot := by
  refine ⟨⟨?_, ?_⟩, .inl rfl, Nat.zero_le _, trivial, trivial⟩
  · intro i hi
    exact absurd hi (Nat.not_lt_zero i)
  · rintro fd ⟨i, hi, -⟩
    exact absurd hi (Nat.not_lt_zero i)

theorem closesUnlisted_of_always {as : List Action} (h : Always step Right boot as) :
    Meets step ClosesUnlisted boot as := by
  refine meets_of_always (I := fun _ => True) (fun _ _ _ _ _ _ => trivial) ?_ trivial h
  intro s a t _ hstep ht
  cases a with
  | serverClose k =>
      simp only [step, Option.ite_none_right_eq_some, Option.some.injEq] at hstep
      obtain ⟨⟨hidle, -⟩, rfl⟩ := hstep
      have htable := ht.table
      rw [settled_sessions hidle] at htable
      refine htable.unlisted fun hopen => ?_
      dsimp only at hopen
      rw [Function.update_self] at hopen
      cases hopen
  | serverOpen k | wsOpen k | wsClose k | httpd | heartbeat err => trivial

def firstSocket : Socket := ⟨48, by decide, by decide⟩

def secondSocket : Socket := ⟨49, by decide, by decide⟩

def thirdSocket : Socket := ⟨50, by decide, by decide⟩

/-- The actions of a client that opens the WebSocket. -/
def opens (k : Socket) : List Action := .serverOpen k :: .wsOpen k :: List.replicate 6 .httpd

/-- The heartbeat task removes one of two clients, and a third one is added between its stores. -/
def preempted : List Action :=
  opens firstSocket ++ opens secondSocket ++ List.replicate 3 (.heartbeat false) ++
    List.replicate 6 (.heartbeat true) ++ opens thirdSocket ++ List.replicate 2 (.heartbeat false)

theorem not_right_preempted :
    Meets step ClosesUnlisted boot preempted ∧ ¬ Always step Right boot preempted := by
  refine ⟨by decide, fun h => ?_⟩
  have hright := h.of_run (rfl : run step boot preempted = some _)
  have htwice := hright.table.distinct 0 (by decide) 1 (by decide) (by decide)
  cases htwice

end WirelessEsp.WebsocketSessions
