import WirelessEsp.WebsocketEntries

namespace WirelessEsp.WebsocketPing

open EventRuns Rfc6455 FrameParts WebsocketServer WebsocketSync WebsocketBuffer WebsocketAnswers
  WebsocketTrace WebsocketEntries WebsocketPayload

/-- The bytes are a pong with the data of the ping, made of bytes of the ping but for the first. -/
structure Pongs (wire : List UInt8) (ping : Frame) (bytes : List UInt8) : Prop where
  received : bytes.tail <+: wire.tail
  frame : ∃ g, decodeFrame bytes = some (g, []) ∧ g.header.fin = true ∧
    g.header.opcode = WS_OPCODE_PONG ∧ g.payload = ping.payload

/-- The frame number `k` of the stream, a ping, is answered by one pong and nothing else. -/
def AnswersPing (addr : UInt32) (chunks : List (List UInt8)) (k : Nat) (wire : List UInt8)
    (ping : Frame) : Prop :=
  ∃ b s n bytes, websocketWorker (Session.start addr) chunks = some (b, s) ∧
    entry s.log k = some n ∧ n.replies = [.send bytes] ∧ Pongs wire ping bytes

/-- No chunk ends between the header of the frame number `k` and the end of its payload. -/
def InOnePart (chunks : List (List UInt8)) (k : Nat) : Prop :=
  ∃ g ∈ (cutFrames chunks)[k]?, g.earlier = []

/-- A masked ping with at most 125 bytes of data in the stream that the chunks make up. -/
structure PingAt (chunks : List (List UInt8)) (pre : List Frame) (wire : List UInt8)
    (ping : Frame) : Prop where
  flat : ∃ before rest, chunks.flatten = before ++ wire ++ rest ∧ decode before = some pre
  frame : decodeFrame wire = some (ping, [])
  opcode : ping.header.opcode = WS_OPCODE_PING
  masked : ping.header.key.isSome = true
  length : ping.header.length ≤ 125

variable {wire : List UInt8} {ping : Frame} {d : Dispatch} {es : List Event} {r : Option Dispatch}

theorem decodeFrame_lengths (h : decodeFrame wire = some (ping, [])) :
    Complete wire ∧ headerOf wire = ping.header ∧
      wire.length = headerSize wire + ping.header.length ∧
      ping.payload.length = ping.header.length := by
  rw [decodeFrame] at h
  split at h
  next hc =>
    simp only [Option.ite_none_right_eq_some, Option.some.injEq, Prod.mk.injEq] at h
    obtain ⟨hl, rfl, hnil⟩ := h
    have hdrop := congrArg List.length hnil
    have hsize := hc.2
    rw [List.length_drop, List.length_drop, List.length_nil] at hdrop
    rw [List.length_drop] at hl
    refine ⟨hc, rfl, ?_, ?_⟩
    · change wire.length = headerSize wire + (headerOf wire).length
      omega
    · change (unmask _ _ _).length = (headerOf wire).length
      rw [unmask_length, List.length_take, List.length_drop]
      omega
  next => cases h

theorem drop_cons_congr {α : Type} {n : Nat} (a b : α) (t : List α) (hn : 0 < n) :
    (b :: t).drop n = (a :: t).drop n := by
  obtain ⟨m, rfl⟩ := Nat.exists_eq_add_of_lt hn
  rw [List.drop_succ_cons, List.drop_succ_cons]

theorem headerOf_first (a b : UInt8) (t : List UInt8) :
    headerOf (b :: t) = { headerOf (a :: t) with
      fin := b &&& 0x80 != 0, rsv := b &&& 0x70, opcode := b &&& 0x0f } := by
  have hkey : headerKey (b :: t) = headerKey (a :: t) := by
    rw [headerKey, headerKey, drop_cons_congr a b t (by omega)]
    rfl
  have hlen : headerLength (b :: t) = headerLength (a :: t) := rfl
  rw [headerOf, hkey, hlen]
  rfl

theorem decodeFrame_first {a : UInt8} (b : UInt8) {t : List UInt8}
    (h : decodeFrame (a :: t) = some (ping, [])) :
    decodeFrame (b :: t) = some (⟨{ ping.header with
      fin := b &&& 0x80 != 0, rsv := b &&& 0x70, opcode := b &&& 0x0f }, ping.payload⟩, []) := by
  have hsize : headerSize (b :: t) = headerSize (a :: t) := rfl
  have hdrop : (b :: t).drop (headerSize (a :: t)) = (a :: t).drop (headerSize (a :: t)) :=
    drop_cons_congr a b t (Nat.lt_of_lt_of_le Nat.zero_lt_two (two_le_headerSize _))
  have hc : Complete (b :: t) ↔ Complete (a :: t) := Iff.rfl
  rw [decodeFrame] at h ⊢
  simp only [hc, hsize, hdrop, headerOf_first a b t]
  split at h
  next hca =>
    rw [if_pos hca]
    simp only [Option.ite_none_right_eq_some, Option.some.injEq, Prod.mk.injEq] at h
    obtain ⟨hl, rfl, hnil⟩ := h
    simp only [if_pos hl, hnil]
  next => cases h

theorem pongs_iff (h : decodeFrame wire = some (ping, [])) (hmask : ping.header.key.isSome = true) :
    Pongs wire ping (((WS_FIN ||| WS_OPCODE_PONG) :: wire.tail).take (6 + ping.payload.length)) ↔
      wire.length = 6 + ping.payload.length := by
  obtain ⟨hc, hhead, hlen, hpay⟩ := decodeFrame_lengths h
  have hkey : maskBit (wire.getD 1 0) = true := by
    rw [← isSome_headerKey, ← hmask, ← hhead]
    rfl
  have hsize : headerSize wire = 6 + extendedSize (wire.getD 1 0) := by
    rw [headerSize, keySize, if_pos hkey]
    omega
  cases wire with
  | nil => exact absurd hc not_complete_nil
  | cons a t =>
      rw [List.tail_cons]
      refine ⟨fun hp => ?_, fun hl => ?_⟩
      · obtain ⟨g, hg, -, -, hpayload⟩ := hp.frame
        obtain ⟨hc', hhead', hlen', hpay'⟩ := decodeFrame_lengths hg
        rw [hpayload] at hpay'
        have hcut := List.take_append_drop (6 + ping.payload.length)
          ((WS_FIN ||| WS_OPCODE_PONG) :: t)
        have hsame := headerSize_append (((WS_FIN ||| WS_OPCODE_PONG) :: t).drop
          (6 + ping.payload.length)) hc'.1
        rw [hcut] at hsame
        have hfirst : headerSize ((WS_FIN ||| WS_OPCODE_PONG) :: t) = headerSize (a :: t) := rfl
        have hle := List.length_take_le (6 + ping.payload.length)
          ((WS_FIN ||| WS_OPCODE_PONG) :: t)
        omega
      · have hwhole : ((WS_FIN ||| WS_OPCODE_PONG) :: t).take (6 + ping.payload.length) =
            (WS_FIN ||| WS_OPCODE_PONG) :: t := by
          refine List.take_of_length_le ?_
          rw [← hl, List.length_cons, List.length_cons]
        rw [hwhole]
        exact ⟨List.prefix_refl _, _, decodeFrame_first _ h, rfl, rfl, rfl⟩

theorem partAnswer_ping {f : CutFrame} {pong : List UInt8} (hop : d.opcode = WS_OPCODE_PING) :
    partAnswer d f pong = ([.send pong], some d) := by
  rw [partAnswer, if_neg (by rw [hop]; decide), if_neg (by rw [hop]; decide), if_pos hop]

theorem run_ping {fs : List CutFrame} (hop : d.opcode = WS_OPCODE_PING)
    (h : Run Step d (fs.map .part) es r) :
    ∃ pongs : List (List UInt8), pongs.length = fs.length ∧ repliesOf es = pongs.map .send := by
  induction fs generalizing es with
  | nil =>
      cases h
      exact ⟨[], rfl, rfl⟩
  | cons f fs ih =>
      rw [List.map_cons] at h
      cases h with
      | stop last =>
          obtain ⟨pong, -, -, hr⟩ := step_part last
          rw [partAnswer_ping hop] at hr
          cases hr
      | @cons _ t _ _ es es' _ first rest =>
          obtain ⟨pong, -, rfl, hr⟩ := step_part first
          rw [partAnswer_ping hop] at hr ⊢
          cases hr
          obtain ⟨pongs, hlen, hreplies⟩ := ih rest
          refine ⟨pong :: pongs, by rw [List.length_cons, List.length_cons, hlen], ?_⟩
          rw [List.map_cons, ← hreplies]
          rfl

theorem snapshots_length (head : List UInt8) (earlier ps : List (List UInt8)) :
    (snapshots head earlier ps).length = ps.length := by
  induction ps generalizing earlier with
  | nil => rfl
  | cons p ps ih => rw [snapshots, List.length_cons, ih, List.length_cons]

theorem run_ping_whole {g : CutFrame} (hop : d.opcode = WS_OPCODE_PING) (hc : Closed g)
    (hone : g.earlier = []) (hmask : g.header.key.isSome = true)
    (h : Run Step d (partItems g) es r) :
    repliesOf es = [.send (((WS_FIN ||| WS_OPCODE_PONG) :: g.wire.tail).take
      (6 + g.payload.length))] := by
  have hbody : g.body = g.last := by rw [CutFrame.body, hone]; rfl
  have hparts : partItems g = [.part g] := by rw [partItems, hone]; rfl
  have hwhole : Whole g := ⟨hone, by rw [← hbody]; exact Nat.le_of_eq hc.length⟩
  have hpong : pongOf g = ((WS_FIN ||| WS_OPCODE_PONG) :: g.wire.tail).take
      (6 + g.payload.length) := by
    rw [pongOf, if_pos hmask, CutFrame.wire, hbody, payload_length, hbody, hc.length, hbody]
    congr 1
    omega
  rw [hparts] at h
  cases h with
  | stop last =>
      obtain ⟨pong, -, -, hr⟩ := step_part last
      rw [partAnswer_ping hop] at hr
      cases hr
  | cons first rest =>
      obtain ⟨pong, hown, rfl, hr⟩ := step_part first
      cases rest
      rw [partAnswer_ping hop, hown hop hwhole, hpong]
      rfl

variable {chunks : List (List UInt8)} {pre : List Frame}

theorem ping_entry (addr : UInt32) (hfits : Fits (Session.start addr) chunks)
    (hstream : Stream chunks) (hp : PingAt chunks pre wire ping) :
    ∃ b s g, websocketWorker (Session.start addr) chunks = some (b, s) ∧
      (cutFrames chunks)[pre.length]? = some g ∧ g.frame = ping ∧ g.wire = wire ∧ Closed g ∧
      ((OpenAt chunks pre.length ∧ ∃ d es r n, d.opcode = WS_OPCODE_PING ∧
        Run Step d (partItems g) es r ∧ entry s.log pre.length = some n ∧
        n.replies = repliesOf es) ∨
      (¬ OpenAt chunks pre.length ∧ entry s.log pre.length = none)) := by
  obtain ⟨before, rest, hflat, hpre⟩ := hp.flat
  obtain ⟨b, s, r, hw, hrun, -⟩ := log_follows addr hfits hstream
  obtain ⟨cp, g, cm, hcut, hlen, hframe, hwire, hclosed⟩ := cutFrames_split hflat hpre hp.frame
  have hopen := openAt_split hcut
  rw [hcut] at hrun
  refine ⟨b, s, g, hw, ?_, hframe, hwire, hclosed, ?_⟩
  · rw [hcut, ← hlen]
    simp
  · rw [← hlen, hopen]
    rcases entry_of_run hrun with ⟨d, _, es, r', hbefore, hparts, hentry⟩ | ⟨hafter, hentry⟩
    · refine .inl ⟨by rw [after_eq hbefore]; rfl, _, es, r', _, ?_, hparts, hentry, rfl⟩
      have hop : g.header.opcode = WS_OPCODE_PING := by
        rw [← hp.opcode, ← hframe]
        rfl
      exact (under_opcode (by rw [hop]; decide)).trans hop
    · exact .inr ⟨by rw [hafter]; decide, hentry⟩

theorem conditions_of_answersPing (addr : UInt32) (hfits : Fits (Session.start addr) chunks)
    (hstream : Stream chunks) (hp : PingAt chunks pre wire ping)
    (h : AnswersPing addr chunks pre.length wire ping) :
    OpenAt chunks pre.length ∧ InOnePart chunks pre.length ∧
      wire.length = 6 + ping.payload.length := by
  obtain ⟨b, s, g, hw, hget, hframe, hwire, hclosed, hcases⟩ := ping_entry addr hfits hstream hp
  obtain ⟨b', s', n, bytes, hw', hentry, hreplies, hpongs⟩ := h
  rw [hw] at hw'
  cases hw'
  rcases hcases with ⟨hopen, d, es, r, n', hop, hrun, hentry', hn⟩ | ⟨-, hnone⟩
  · rw [hentry] at hentry'
    cases hentry'
    have hparts : partItems g = (snapshots g.head [] g.earlier ++ [g]).map .part := by
      rw [partItems, List.map_append]
      rfl
    have hall := hrun
    rw [hparts] at hall
    obtain ⟨pongs, hlen, hsent⟩ := run_ping hop hall
    have hone : g.earlier = [] := by
      have hcount := congrArg List.length ((hsent.symm.trans hn.symm).trans hreplies)
      rw [List.length_map, hlen, List.length_append, snapshots_length, List.length_singleton,
        List.length_singleton] at hcount
      exact List.eq_nil_of_length_eq_zero (by omega)
    have hmask : g.header.key.isSome = true := by
      rw [← hp.masked, ← hframe]
      rfl
    have hwhole := run_ping_whole hop hclosed hone hmask hrun
    rw [← hn, hreplies, hwire, show g.payload = ping.payload from congrArg Frame.payload hframe] at hwhole
    cases hwhole
    exact ⟨hopen, ⟨g, hget, hone⟩, (pongs_iff hp.frame hp.masked).mp hpongs⟩
  · rw [hentry] at hnone
    cases hnone

/-- A ping is answered as it should be exactly when it comes to an open session, in one part and
with its length in the second byte of its header. -/
theorem answersPing_iff (addr : UInt32) (hfits : Fits (Session.start addr) chunks)
    (hstream : Stream chunks) (hp : PingAt chunks pre wire ping) :
    AnswersPing addr chunks pre.length wire ping ↔
      OpenAt chunks pre.length ∧ InOnePart chunks pre.length ∧
        wire.length = 6 + ping.payload.length := by
  refine ⟨conditions_of_answersPing addr hfits hstream hp, fun ⟨hopen, hone, hlength⟩ => ?_⟩
  obtain ⟨b, s, g, hw, hget, hframe, hwire, hclosed, hcases⟩ := ping_entry addr hfits hstream hp
  rcases hcases with ⟨-, d, es, r, n, hop, hrun, hentry, hn⟩ | ⟨hclosed, -⟩
  · obtain ⟨g', hget', hearlier⟩ := hone
    rw [hget] at hget'
    cases hget'
    have hmask : g.header.key.isSome = true := by
      rw [← hp.masked, ← hframe]
      rfl
    have hwhole := run_ping_whole hop hclosed hearlier hmask hrun
    rw [← hn, hwire, show g.payload = ping.payload from congrArg Frame.payload hframe] at hwhole
    exact ⟨b, s, n, _, hw, hentry, hwhole, (pongs_iff hp.frame hp.masked).mpr hlength⟩
  · exact absurd hopen hclosed

/-- A ping behind another frame in one buffer, cut in its mask. -/
theorem answersPing_behind_frame :
    AnswersPing 0 [[0x82, 0x81, 1, 2, 3, 4, 5, 0x89, 0x82, 6, 7], [8, 9, 0x16, 0x27, 0x8a, 0]] 1
      [0x89, 0x82, 6, 7, 8, 9, 0x16, 0x27] ⟨⟨true, 0, 9, some [6, 7, 8, 9], 2⟩, [0x10, 0x20]⟩ := by
  have hfits : Fits (Session.start 0)
      [[0x82, 0x81, 1, 2, 3, 4, 5, 0x89, 0x82, 6, 7], [8, 9, 0x16, 0x27, 0x8a, 0]] :=
    fits_of_small (rest_start 0) (by decide)
  have hstream : Stream
      [[0x82, 0x81, 1, 2, 3, 4, 5, 0x89, 0x82, 6, 7], [8, 9, 0x16, 0x27, 0x8a, 0]] :=
    ⟨[], [⟨⟨true, 0, 2, some [1, 2, 3, 4], 1⟩, [4]⟩,
      ⟨⟨true, 0, 9, some [6, 7, 8, 9], 2⟩, [0x10, 0x20]⟩, ⟨⟨true, 0, 10, none, 0⟩, []⟩],
      by decide, by decide⟩
  have hp : PingAt [[0x82, 0x81, 1, 2, 3, 4, 5, 0x89, 0x82, 6, 7], [8, 9, 0x16, 0x27, 0x8a, 0]]
      [⟨⟨true, 0, 2, some [1, 2, 3, 4], 1⟩, [4]⟩] [0x89, 0x82, 6, 7, 8, 9, 0x16, 0x27]
      ⟨⟨true, 0, 9, some [6, 7, 8, 9], 2⟩, [0x10, 0x20]⟩ :=
    ⟨⟨[0x82, 0x81, 1, 2, 3, 4, 5], [0x8a, 0], by decide, by decide⟩, by decide, rfl, rfl, by decide⟩
  exact (answersPing_iff 0 hfits hstream hp).mpr ⟨by decide, ⟨_, rfl, rfl⟩, rfl⟩

/-- A ping whose data comes with the next chunk is answered twice. -/
theorem not_answersPing_always :
    ¬ ∀ (addr : UInt32) (chunks : List (List UInt8)) (pre : List Frame) (wire : List UInt8)
      (ping : Frame), Fits (Session.start addr) chunks → Stream chunks →
      PingAt chunks pre wire ping → AnswersPing addr chunks pre.length wire ping := by
  intro hall
  have hfits : Fits (Session.start 0) [[0x89, 0x82, 6, 7, 8, 9, 0x16], [0x27]] :=
    fits_of_small (rest_start 0) (by decide)
  have hstream : Stream [[0x89, 0x82, 6, 7, 8, 9, 0x16], [0x27]] :=
    ⟨[], [⟨⟨true, 0, 9, some [6, 7, 8, 9], 2⟩, [0x10, 0x20]⟩], by decide, by decide⟩
  have hp : PingAt [[0x89, 0x82, 6, 7, 8, 9, 0x16], [0x27]] []
      [0x89, 0x82, 6, 7, 8, 9, 0x16, 0x27] ⟨⟨true, 0, 9, some [6, 7, 8, 9], 2⟩, [0x10, 0x20]⟩ :=
    ⟨⟨[], [], by decide, by decide⟩, by decide, rfl, rfl, by decide⟩
  obtain ⟨-, ⟨g, hget, hone⟩, -⟩ :=
    conditions_of_answersPing 0 hfits hstream hp (hall 0 _ _ _ _ hfits hstream hp)
  have hcut : (cutFrames [[0x89, 0x82, 6, 7, 8, 9, 0x16], [0x27]])[0]? =
      some ⟨[0x89, 0x82, 6, 7, 8, 9], [[0x16]], [0x27]⟩ := by decide
  rw [List.length_nil, hcut] at hget
  cases hget
  cases hone

end WirelessEsp.WebsocketPing
