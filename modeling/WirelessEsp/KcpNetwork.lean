import WirelessEsp.KcpCalls
import WirelessEsp.LossyNetwork
import Mathlib.Logic.Function.Basic

namespace WirelessEsp.Kcp

open MessageParts LossyNetwork

inductive Side
  | client
  | server
deriving DecidableEq

def Side.other : Side → Side
  | .client => .server
  | .server => .client

/-- A control block with the history of its calls: the parts of the segments that have got a
number, what `ikcp_send` has taken and what `ikcp_recv` has returned. -/
structure Endpoint where
  kcp : Ikcpcb
  log : List (Piece UInt8) := []
  took : List (List UInt8) := []
  received : List (List UInt8) := []

def Endpoint.after (c : Call) (kcp : Ikcpcb) (e : Endpoint) : Endpoint where
  kcp := kcp
  log := e.log ++ passed e.kcp kcp
  took := e.took ++ c.took e.kcp
  received := e.received ++ c.gave e.kcp

def Endpoint.input (data : List UInt8) (e : Endpoint) : Endpoint :=
  { e with kcp := (ikcpInput data e.kcp).2 }

/-- The two ends of a connection. A message on the network is a datagram with the side it is from. -/
def ends : Parties (Side → Endpoint) (Side × Call) (Side × List UInt8) where
  act w a := ((w a.1).kcp.call a.2).map (fun r =>
    (Function.update w a.1 ((w a.1).after a.2 r.1), r.2.map (fun d => (a.1, d))))
  deliver w m := Function.update w m.1.other ((w m.1.other).input m.2)

/-- Both ends after `ikcp_create`, each in its mode. -/
def opened (conv : UInt32) (stream : Side → Bool) : Net (Side → Endpoint) (Side × List UInt8) where
  parties side := { kcp := { ikcpCreate conv with stream := stream side } }
  sent := []

/-- The bytes and the messages that a side has sent are less than 2^31 together. -/
def Bounded (w : Side → Endpoint) : Prop := ∀ side, traffic (w side).took < 2 ^ 31

/-- One end of the connection, with `other` at the other end. -/
structure End (conv : UInt32) (stream : Bool) (e other : Endpoint) : Prop where
  sound : Sound e.log other.log e.took e.received e.kcp other.kcp
  conv : e.kcp.conv = conv
  stream : e.kcp.stream = stream
  mss : MssFits e.kcp

def Ends (conv : UInt32) (stream : Side → Bool) (w : Side → Endpoint) : Prop :=
  ∀ side, End conv (stream side) (w side) (w side.other)

def Truth (w : Side → Endpoint) (m : Side × List UInt8) : Prop :=
  Datagram (Genuine (w m.1).log (w m.1).kcp) m.2

variable {conv : UInt32} {stream : Side → Bool} {w : Side → Endpoint} {x : Side} {e : Endpoint}

theorem other_other (side : Side) : side.other.other = side := by
  cases side <;> rfl

theorem other_ne (side : Side) : side.other ≠ side := by
  cases side <;> exact Side.noConfusion

theorem other_eq {side : Side} (h : side ≠ x) : side.other = x := by
  cases side <;> cases x <;> first | rfl | exact absurd rfl h

theorem Ends.update (h : Ends conv stream w) {ds : List (List UInt8)}
    (hlog : e.log = (w x).log ++ passed (w x).kcp e.kcp)
    (hstep : Onward (w x).log (w x.other).log e.took e.received (w x).kcp e.kcp
      (w x.other).kcp ds) :
    Ends conv stream (Function.update w x e) ∧
      ∀ m, Truth w m → Truth (Function.update w x e) m := by
  refine ⟨?_, ?_⟩
  · intro side
    by_cases hside : side = x
    · subst hside
      rw [Function.update_self, Function.update_of_ne (other_ne side)]
      have hold := h side
      have hsound := hstep.sound
      rw [← hlog] at hsound
      exact ⟨hsound, hstep.conv.trans hold.conv, hstep.stream.trans hold.stream,
        hstep.mss hold.mss⟩
    · rw [Function.update_of_ne hside, other_eq hside, Function.update_self]
      have hold := h side
      rw [other_eq hside] at hold
      obtain ⟨hs, hc, hm, hl⟩ := hold
      refine ⟨⟨hs.sending, hs.queue, hs.kept.later hstep.later, ?_, hs.acked⟩, hc, hm, hl⟩
      rw [hlog]
      exact hs.delivery.grow _
  · rintro ⟨side, d⟩ hd
    by_cases hside : side = x
    · subst hside
      rw [Truth, Function.update_self, hlog]
      apply Datagram.mono _ hd
      intro seg hseg
      exact (hseg.grow _).congr hstep.conv hstep.later
    · rw [Truth, Function.update_of_ne hside]
      exact hd

theorem Ends.log_lt (h : Ends conv stream w) (hQ : Bounded w) (side : Side) :
    (w side).log.length < 2 ^ 31 := by
  have hcost := (h side).sound.queue.cost
  have htook := hQ side
  omega

theorem Ends.next_lt (h : Ends conv stream w) (hQ : Bounded w) (side : Side) :
    (w side).kcp.rcvNxt.toNat < 2 ^ 31 := by
  exact (h side).sound.delivery.next.trans_lt (h.log_lt hQ side.other)

theorem Ends.call (h : Ends conv stream w) (hQ : Bounded w) {c : Call}
    {r : Ikcpcb × List (List UInt8)} (hcall : (w x).kcp.call c = some r) :
    Onward (w x).log (w x.other).log ((w x).took ++ c.took (w x).kcp)
      ((w x).received ++ c.gave (w x).kcp) (w x).kcp r.1 (w x.other).kcp r.2 := by
  have hother := (h x.other).sound
  exact call_onward (h x).sound (h x).mss (h.log_lt hQ x.other) (hQ x)
    (fun p hp => (hother.sending.small p hp).1) hother.queue.counted.left_of_append hcall

theorem Ends.deliver (h : Ends conv stream w) (hQ : Bounded w) {m : Side × List UInt8}
    (hm : Truth w m) :
    (ikcpInput m.2 (w m.1.other).kcp).1 = 0 ∧
      Onward (w m.1.other).log (w m.1).log (w m.1.other).took (w m.1.other).received
        (w m.1.other).kcp (ikcpInput m.2 (w m.1.other).kcp).2 (w m.1).kcp [] := by
  obtain ⟨side, d⟩ := m
  obtain ⟨segs, hne, rfl, hsegs⟩ := hm
  have hpeer := h side
  have hx := h side.other
  rw [other_other] at hx
  obtain ⟨hcode, hsound, hlater⟩ := ikcpInput_sound (h.log_lt hQ side.other) (h.log_lt hQ side)
    (h.next_lt hQ side) hne hx.sound (hpeer.conv.trans hx.conv.symm) hsegs
  have hunsent := ikcpInput_unsent (wire segs) (w side.other).kcp
  have hqueue : (ikcpInput (wire segs) (w side.other).kcp).2.sndQueue =
      (w side.other).kcp.sndQueue := congrArg (fun t => t.2.1) hunsent
  exact ⟨hcode, Onward.quiet (hqueue ▸ le_rfl) hsound hlater (congrArg Prod.fst hunsent)⟩

theorem call_took {kcp : Ikcpcb} {e : Endpoint} (c : Call) :
    traffic e.took ≤ traffic (e.after c kcp).took := by
  rw [Endpoint.after, traffic_append]
  exact Nat.le_add_right _ _

theorem Bounded.before (h : Bounded (Function.update w x e))
    (hle : traffic (w x).took ≤ traffic e.took) : Bounded w := by
  intro side
  have hside := h side
  by_cases hx : side = x
  · subst hx
    rw [Function.update_self] at hside
    exact hle.trans_lt hside
  · rwa [Function.update_of_ne hx] at hside

theorem ends_stable (conv : UInt32) (stream : Side → Bool) :
    Stable ends Bounded (Ends conv stream) Truth := by
  constructor
  · intro w a t hact hQ
    obtain ⟨r, _, rfl⟩ := Option.map_eq_some_iff.mp hact
    exact hQ.before (call_took a.2)
  · intro w m hQ
    exact hQ.before le_rfl
  · intro w a t hact hQ hI
    obtain ⟨r, hr, rfl⟩ := Option.map_eq_some_iff.mp hact
    have hstep := hI.call (hQ.before (call_took a.2)) hr
    obtain ⟨hends, htruth⟩ := hI.update (e := (w a.1).after a.2 r.1) rfl hstep
    refine ⟨hends, ?_, htruth⟩
    intro m hm
    obtain ⟨d, hd, rfl⟩ := List.mem_map.mp hm
    have hself : Function.update w a.1 ((w a.1).after a.2 r.1) a.1 = (w a.1).after a.2 r.1 := by
      exact Function.update_self _ _ _
    change Datagram (Genuine (Function.update w a.1 ((w a.1).after a.2 r.1) a.1).log
      (Function.update w a.1 ((w a.1).after a.2 r.1) a.1).kcp) d
    rw [hself]
    exact hstep.sent d hd
  · intro w m hQ hI hF
    have hQ' : Bounded w := hQ.before le_rfl
    obtain ⟨_, hstep⟩ := hI.deliver hQ' hF
    have hpassed : passed (w m.1.other).kcp (ikcpInput m.2 (w m.1.other).kcp).2 = [] := by
      apply passed_nil
      have hunsent := ikcpInput_unsent m.2 (w m.1.other).kcp
      exact (congrArg (fun t => t.2.1.length) hunsent).ge
    apply hI.update (e := (w m.1.other).input m.2)
    · exact (hpassed ▸ List.append_nil _).symm
    · rw [other_other]
      exact hstep

end WirelessEsp.Kcp
