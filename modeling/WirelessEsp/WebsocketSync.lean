import WirelessEsp.WebsocketPayload

namespace WirelessEsp.WebsocketSync

open Rfc6455 WebsocketServer WebsocketHeader WebsocketPayload

/-- The stream so far can go on to end with a whole frame, all frames being plain. -/
def Finishes (d : Decoder) : Prop :=
  ∃ rest frames, d.bytes rest = ⟨frames, .header []⟩ ∧ ∀ f ∈ frames, Plain f.header

variable {fs : List Frame} {h : Header} {got : List UInt8} {s : Session}

theorem first_header_mem {bs rest : List UInt8} {frames : List Frame} (hne : bs ≠ [])
    (hb : Decoder.bytes ⟨fs, .header []⟩ (bs ++ rest) = ⟨frames, .header []⟩) :
    Complete (bs ++ rest) ∧ headerOf (bs ++ rest) ∈ frames.map Frame.header := by
  by_cases hc : Complete (bs ++ rest)
  · rw [bytes_fresh_complete hc] at hb
    have hpre := headers_bytes (settle fs (headerOf (bs ++ rest)) [])
      ((bs ++ rest).drop (headerSize (bs ++ rest)))
    rw [hb, settle_seen] at hpre
    exact ⟨hc, hpre.subset (by simp)⟩
  · rw [bytes_fresh_incomplete hc] at hb
    have hnil : bs ++ rest = [] := by
      simpa only [Decoder.mk.injEq, Mode.header.injEq] using (congrArg Decoder.mode hb)
    exact absurd (List.append_eq_nil_iff.mp hnil).1 hne

theorem Finishes.promised {bs : List UInt8} (hne : bs ≠ [])
    (hf : Finishes (Decoder.bytes ⟨fs, .header []⟩ bs)) : Promised bs := by
  obtain ⟨rest, frames, hb, hplain⟩ := hf
  rw [← bytes_append] at hb
  obtain ⟨hc, hmem⟩ := first_header_mem hne hb
  obtain ⟨f, hf, heq⟩ := List.mem_map.mp hmem
  exact ⟨rest, hc, heq ▸ hplain f hf⟩

theorem room_of_result {bs : List UInt8} {scb scb' : CoSocketCb}
    (hr : HeaderResult bs scb scb') (hroom : Room scb) : Room scb' := by
  refine ⟨?_, hr.same.fits hroom.fits⟩
  rw [hr.same.buf]
  exact hroom.size

theorem processHeader_done (hs : HeaderSim fs s) (hp : Promised (pending s.scb))
    (hc : Complete (pending s.scb)) :
    ∃ s', processHeaderRound s = (.ok, s') ∧
      PayloadSim fs (headerOf (pending s.scb)) [] s' ∧
      unread s'.scb = (pending s.scb).drop (headerSize (pending s.scb)) ∧
      executed s'.log = executed s.log := by
  obtain ⟨scb', heq, hr⟩ := coWebsocketProcessHeader_result hs.fits hp hs.progress
  have hd := hr.done hc
  have hplain : Plain (headerOf (pending s.scb)) := by
    obtain ⟨rest, _, hplain⟩ := hp
    rw [headerOf_append hc] at hplain
    exact hplain
  have hround : processHeaderRound s = (.ok, ({ s with scb := scb' } : Session).emit
      (.header scb'.wcb.fin scb'.wcb.opcode scb'.wcb.mask scb'.wcb.payloadLen)) := by
    rw [processHeaderRound, if_pos hs.progress.not_payload, heq]
    exact if_pos ⟨rfl, hd.status⟩
  have hmask : scb'.wcb.mask = (headerOf (pending s.scb)).key.isSome := by
    rw [hd.mask]; exact (isSome_headerKey _).symm
  refine ⟨_, hround, ⟨room_of_result hr hs.toRoom, hd.status, ?_, hd.opcode, hmask, hd.payloadLen, ?_, hplain,
    ?_⟩, ?_, ?_⟩
  · simp only [Session.emit]
    rw [hd.readLen, ← pending_length (hr.same.fits hs.fits), hr.same.pending_eq]
    exact hc.2
  · intro k hk i
    rw [List.length_nil, Nat.zero_add]
    exact hd.key k hk (i % 4) (Nat.mod_lt _ (by omega))
  · simp only [Session.emit, received_append, hs.log, receive, hd.fin, hd.opcode, hmask,
      hd.payloadLen]
    rfl
  · simp only [unread, Session.emit]
    rw [hr.same.pending_eq, hd.readLen]
  · simp only [Session.emit, executed_append]
    exact List.append_nil _

theorem processHeader_wait (hs : HeaderSim fs s) (hp : Promised (pending s.scb))
    (hc : ¬ Complete (pending s.scb)) :
    ∃ s', processHeaderRound s = (.ok, s') ∧ s'.scb.status ≠ .websocketPayload ∧
      Sim s' ⟨fs, .header (pending s.scb)⟩ ∧ executed s'.log = executed s.log := by
  obtain ⟨scb', heq, hr⟩ := coWebsocketProcessHeader_result hs.fits hp hs.progress
  have hw := hr.wait hc
  have hround : processHeaderRound s = (.ok, { s with scb := scb' }) := by
    rw [processHeaderRound, if_pos hs.progress.not_payload, heq]
    exact if_neg (fun hpay => hw.not_payload hpay.2)
  refine ⟨_, hround, hw.not_payload, .header ⟨room_of_result hr hs.toRoom, ?_, hs.log⟩ hr.same.pending_eq hc,
    rfl⟩
  rw [hr.same.pending_eq]
  exact hw

/-- The rounds of a call that starts at a header with `fuel` rounds left: they
follow the octet machine, and the calls they make carry the payloads of the
binary frames they come to. -/
def FollowsHeader (fuel : Nat) : Prop :=
  ∀ (fs : List Frame) (s : Session), HeaderSim fs s → pending s.scb ≠ [] →
    (pending s.scb).length < fuel → Finishes (Decoder.bytes ⟨fs, .header []⟩ (pending s.scb)) →
    ∃ s' gs, processRounds fuel s = some (true, s') ∧
      Sim s' (Decoder.bytes ⟨fs, .header []⟩ (pending s.scb)) ∧
      (Decoder.bytes ⟨fs, .header []⟩ (pending s.scb)).seen = fs ++ gs ∧
      executed s'.log = executed s.log ++ binaryPayloads gs

theorem chunkRest_length_le (scb : CoSocketCb) : (chunkRest scb).length ≤ (unread scb).length := by
  rw [chunkRest, List.length_drop]
  exact Nat.sub_le _ _

theorem processRounds_payload {fuel : Nat} (ih : FollowsHeader fuel) {s₀ : Session}
    (hround : processHeaderRound s₀ = (.ok, s)) (hs : PayloadSim fs h got s)
    (hlen : (unread s.scb).length < fuel)
    (hfin : Finishes ((settle fs h got).bytes (unread s.scb))) :
    ∃ s' gs, processRounds (fuel + 1) s₀ = some (true, s') ∧
      Sim s' ((settle fs h got).bytes (unread s.scb)) ∧
      ((settle fs h got).bytes (unread s.scb)).seen =
        fs ++ ⟨h, got ++ chunkData h got s.scb⟩ :: gs ∧
      executed s'.log =
        executed s.log ++ executedChunk h.opcode (chunkData h got s.scb) ++ binaryPayloads gs := by
  have hrest := chunkRest_length_le s.scb
  rw [hs.settle_chunk] at hfin ⊢
  by_cases hmore : chunkRest s.scb = []
  · obtain ⟨scb', hp, hsim⟩ := hs.processPayload_last hmore
    rw [hmore, bytes_nil]
    refine ⟨_, [], ?_, hsim, settle_seen _ _ _, ?_⟩
    · rw [processRounds, hround]
      simp only [hs.status, if_true, hp]
    · rw [executed_afterChunk]
      exact (List.append_nil _).symm
  · obtain ⟨scb', hp, hsim, hpend, hfull⟩ := hs.processPayload_more hmore
    rw [settle_full hfull] at hfin ⊢
    have hpend' : pending (afterChunk h got s scb').scb = chunkRest s.scb := hpend
    rw [← hpend'] at hfin hrest hmore ⊢
    obtain ⟨s', gs, hr, hsim', hseen, hexec⟩ := ih _ _ hsim hmore (by omega) hfin
    refine ⟨s', gs, ?_, hsim', ?_, ?_⟩
    · rw [processRounds, hround]
      simp only [hs.status, if_true, hp, hr]
    · rw [hseen, List.append_assoc]
      rfl
    · rw [hexec, executed_afterChunk]

theorem binaryPayloads_cons (f : Frame) (gs : List Frame) :
    binaryPayloads (f :: gs) = executedChunk f.header.opcode f.payload ++ binaryPayloads gs := by
  simp only [binaryPayloads, executedChunk, List.filter_cons, beq_iff_eq]
  split <;> rfl

theorem processRounds_header (fuel : Nat) : FollowsHeader fuel := by
  induction fuel with
  | zero => intro fs s _ _ hlen _; exact absurd hlen (Nat.not_lt_zero _)
  | succ fuel ih =>
      intro fs s hs hne hlen hfin
      have hprom := hfin.promised hne
      by_cases hc : Complete (pending s.scb)
      · obtain ⟨s₁, hround, hs₁, hun, hexec₁⟩ := processHeader_done hs hprom hc
        rw [bytes_fresh_complete hc, ← hun] at hfin ⊢
        have hshort : (unread s₁.scb).length < fuel := by
          have h2 := two_le_headerSize (pending s.scb)
          have hsize := hc.2
          rw [hun, List.length_drop]
          omega
        obtain ⟨s', gs, hr, hsim, hseen, hexec⟩ :=
          processRounds_payload ih hround hs₁ hshort hfin
        refine ⟨s', _, hr, hsim, hseen, ?_⟩
        rw [hexec, hexec₁, binaryPayloads_cons, List.append_assoc]
        rfl
      · obtain ⟨s', hround, hst, hsim, hexec⟩ := processHeader_wait hs hprom hc
        rw [bytes_fresh_incomplete hc]
        refine ⟨s', [], ?_, hsim, (List.append_nil _).symm, ?_⟩
        · rw [processRounds, hround]
          simp only [hst, if_false]
        · rw [hexec]
          exact (List.append_nil _).symm

theorem pending_recv {scb : CoSocketCb} (hfit : scb.remainingLen ≤ scb.buf.length)
    (bytes : List UInt8) : pending (scb.recv bytes) = pending scb ++ bytes :=
  overwrite_take hfit

theorem room_recv {scb : CoSocketCb} {bytes : List UInt8} (hr : Room scb)
    (hfit : scb.remainingLen + bytes.length ≤ CONFIG_CO_SOCKET_BUFFER_SIZE) :
    Room (scb.recv bytes) := by
  have hsize := hr.size
  have hlen : (overwrite scb.buf scb.remainingLen bytes).length = scb.buf.length :=
    overwrite_length (by omega)
  exact ⟨hlen.trans hsize, by rw [CoSocketCb.recv, hlen, hsize]; exact hfit⟩

theorem opened_recv {bs bytes : List UInt8} {scb : CoSocketCb} (ho : Opened bs scb) :
    Opened (bs ++ bytes) (scb.recv bytes) := by
  have h2 := ho.two
  refine ⟨by rw [List.length_append]; omega, ?_, ?_, ?_⟩
  · simp only [headerOf, getD_append_left bytes (show 0 < bs.length by omega)]
    exact ho.fin
  · simp only [headerOf, getD_append_left bytes (show 0 < bs.length by omega)]
    exact ho.opcode
  · rw [getD_append_left bytes (show 1 < bs.length by omega)]
    exact ho.mask

theorem progress_recv {bs bytes : List UInt8} {scb : CoSocketCb} (hp : HeaderProgress bs scb) :
    HeaderProgress (bs ++ bytes) (scb.recv bytes) := by
  cases hp with
  | start hs hread => exact .start hs hread
  | extendLength hs ho hread hpl hext =>
      have h1 := getD_append_left bytes (show 1 < bs.length from ho.two)
      exact .extendLength hs (opened_recv ho) hread (by rw [h1]; exact hpl) (by rw [h1]; exact hext)
  | mask hs hm hmask =>
      have h1 := getD_append_left bytes (show 1 < bs.length from hm.two)
      have hread := hm.readLen
      have hfits := hm.fits
      refine .mask hs ⟨opened_recv hm.toOpened, by rw [h1]; exact hread, ?_, ?_⟩
        (by rw [h1]; exact hmask)
      · rw [List.length_append]
        exact Nat.le_trans hfits (Nat.le_add_right _ _)
      · rw [headerLength_append hm.two (by omega)]
        exact hm.payloadLen

theorem headerSim_recv (hs : HeaderSim fs s) {bytes : List UInt8}
    (hfit : s.scb.remainingLen + bytes.length ≤ CONFIG_CO_SOCKET_BUFFER_SIZE) :
    HeaderSim fs { s with scb := s.scb.recv bytes } := by
  refine ⟨room_recv hs.toRoom hfit, ?_, hs.log⟩
  rw [pending_recv hs.fits]
  exact progress_recv hs.progress

theorem payloadSim_recv (hs : PayloadSim fs h got s) (hrem : s.scb.remainingLen = 0)
    (hread : s.scb.readLen = 0) {bytes : List UInt8}
    (hfit : s.scb.remainingLen + bytes.length ≤ CONFIG_CO_SOCKET_BUFFER_SIZE) :
    PayloadSim fs h got { s with scb := s.scb.recv bytes } ∧ unread (s.scb.recv bytes) = bytes := by
  refine ⟨⟨room_recv hs.toRoom hfit, hs.status, ?_, hs.opcode, hs.mask, hs.payloadLen, hs.key,
    hs.plain, hs.log⟩, ?_⟩
  · simp only [CoSocketCb.recv, hread]
    exact Nat.zero_le _
  · have hpend : pending s.scb = [] := by rw [pending, hrem]; exact List.take_zero
    rw [unread, pending_recv hs.fits, hpend]
    simp only [CoSocketCb.recv, hread, List.drop_zero, List.nil_append]

/-- The data of the calls that a call of `coWebsocketProcess` makes when it
takes the stream from `d` to `d'`: the payloads of the binary frames it comes
to, after a part of the payload it was in. -/
def CallsOf (d d' : Decoder) (calls : List (List UInt8)) : Prop :=
  match d.mode with
  | .header _ => ∃ gs, d'.seen = d.frames ++ gs ∧ calls = binaryPayloads gs
  | .payload h got => ∃ data gs, d'.seen = d.frames ++ ⟨h, got ++ data⟩ :: gs ∧
      calls = executedChunk h.opcode data ++ binaryPayloads gs

theorem coWebsocketProcess_sim {d : Decoder} (hs : Sim s d) {bytes : List UInt8} (hne : bytes ≠ [])
    (hfit : s.scb.remainingLen + bytes.length ≤ CONFIG_CO_SOCKET_BUFFER_SIZE)
    (hfin : Finishes (d.bytes bytes)) :
    ∃ s' calls, coWebsocketProcess s bytes = some (true, s') ∧ Sim s' (d.bytes bytes) ∧
      CallsOf d (d.bytes bytes) calls ∧ executed s'.log = executed s.log ++ calls := by
  rw [coWebsocketProcess, if_neg hne]
  cases hs with
  | @header fs seen hs hpend hopen =>
      have hs' := headerSim_recv hs hfit
      have hpend' : pending (s.scb.recv bytes) = seen ++ bytes := by
        rw [pending_recv hs.fits, hpend]
      have hd : Decoder.bytes ⟨fs, .header seen⟩ bytes =
          Decoder.bytes ⟨fs, .header []⟩ (pending (s.scb.recv bytes)) := by
        rw [hpend', bytes_append, bytes_fresh_incomplete hopen]
      rw [hd] at hfin ⊢
      have hlen : (pending (s.scb.recv bytes)).length < CONFIG_CO_SOCKET_BUFFER_SIZE + 2 := by
        rw [pending_length hs'.fits]
        simp only [CoSocketCb.recv]
        omega
      have hne' : pending (s.scb.recv bytes) ≠ [] := by
        rw [hpend']
        exact List.append_ne_nil_of_right_ne_nil _ hne
      obtain ⟨s', gs, hr, hsim, hseen, hexec⟩ := processRounds_header _ fs _ hs' hne' hlen hfin
      exact ⟨s', _, hr, hsim, ⟨gs, hseen, rfl⟩, hexec⟩
  | @payload fs h got hs hrem hread hopen =>
      obtain ⟨hs', hun⟩ := payloadSim_recv hs hrem hread hfit
      have hd : Decoder.bytes ⟨fs, .payload h got⟩ bytes =
          (settle fs h got).bytes (unread (s.scb.recv bytes)) := by
        rw [hun, settle_part hopen]
      rw [hd] at hfin ⊢
      have hround : processHeaderRound { s with scb := s.scb.recv bytes } =
          (.ok, { s with scb := s.scb.recv bytes }) := by
        rw [processHeaderRound, if_neg (not_not.mpr hs'.status)]
      have hlen : (unread (s.scb.recv bytes)).length < CONFIG_CO_SOCKET_BUFFER_SIZE + 1 := by
        rw [hun]; omega
      obtain ⟨s', gs, hr, hsim, hseen, hexec⟩ :=
        processRounds_payload (processRounds_header _) hround hs' hlen hfin
      refine ⟨s', _, hr, hsim, ⟨_, gs, hseen, rfl⟩, ?_⟩
      rw [hexec, List.append_assoc]

/-- `recv` returns some bytes each time, and no more than there is room for. -/
def Fits : Session → List (List UInt8) → Prop
  | _, [] => True
  | s, bytes :: rest =>
      bytes ≠ [] ∧ s.scb.remainingLen + bytes.length ≤ CONFIG_CO_SOCKET_BUFFER_SIZE ∧
        ∀ s', coWebsocketProcess s bytes = some (true, s') → Fits s' rest

/-- The calls of a session that is at `d` and receives the chunks. -/
def CallsAlong : Decoder → List (List UInt8) → List (List UInt8) → Prop
  | _, [], calls => calls = []
  | d, bytes :: rest, calls =>
      ∃ here later, CallsOf d (d.bytes bytes) here ∧ CallsAlong (d.bytes bytes) rest later ∧
        calls = here ++ later

theorem Finishes.before {d : Decoder} {xs ys : List UInt8} (hf : Finishes (d.bytes (xs ++ ys))) :
    Finishes (d.bytes xs) := by
  obtain ⟨rest, frames, hb, hplain⟩ := hf
  refine ⟨ys ++ rest, frames, ?_, hplain⟩
  rw [← hb, bytes_append, bytes_append]

theorem websocketWorker_sim {d : Decoder} {chunks : List (List UInt8)} (hs : Sim s d)
    (hfits : Fits s chunks) (hfin : Finishes (d.bytes chunks.flatten)) :
    ∃ s' calls, websocketWorker s chunks = some (true, s') ∧ Sim s' (d.bytes chunks.flatten) ∧
      CallsAlong d chunks calls ∧ executed s'.log = executed s.log ++ calls := by
  induction chunks generalizing s d with
  | nil => exact ⟨s, [], rfl, hs, rfl, (List.append_nil _).symm⟩
  | cons bytes rest ih =>
      obtain ⟨hne, hfit, hnext⟩ := hfits
      rw [List.flatten_cons] at hfin ⊢
      obtain ⟨s₁, here, hp, hs₁, hcalls, hexec⟩ := coWebsocketProcess_sim hs hne hfit hfin.before
      rw [bytes_append] at hfin ⊢
      obtain ⟨s', later, hw, hs', hlater, hexec'⟩ := ih hs₁ (hnext s₁ hp) hfin
      refine ⟨s', here ++ later, ?_, hs', ⟨here, later, hcalls, hlater, rfl⟩, ?_⟩
      · rw [websocketWorker, hp]
        exact hw
      · rw [hexec', hexec, List.append_assoc]

theorem sim_start (addr : UInt32) : Sim (Session.start addr) Decoder.init :=
  .header ⟨⟨List.length_replicate, Nat.zero_le _⟩, .start rfl rfl, rfl⟩ List.take_zero
    not_complete_nil

theorem received_of_sim {d : Decoder} (hs : Sim s d) : received s.log = d.seen.map ofFrame := by
  cases hs with
  | header hs _ _ => exact hs.log
  | @payload fs h got hs _ _ _ =>
      have hseen : Decoder.seen ⟨fs, .payload h got⟩ = fs ++ [⟨h, got⟩] := rfl
      rw [hseen, List.map_append]
      exact hs.log

theorem finishes_decode {stream : List UInt8} {frames : List Frame}
    (hdec : decode stream = some frames) (hplain : ∀ f ∈ frames, Plain f.header) :
    Finishes (Decoder.init.bytes stream) :=
  ⟨[], frames, bytes_decode hdec, hplain⟩

theorem headerSize_le (bs : List UInt8) : headerSize bs ≤ 14 := by
  rw [headerSize, extendedSize, keySize]
  split <;> split <;> first | omega | (split <;> omega)

theorem remainingLen_le {d : Decoder} (hs : Sim s d) : s.scb.remainingLen ≤ 13 := by
  cases hs with
  | @header fs seen hs hpend hopen =>
      have hlen := pending_length hs.fits
      have hsize := headerSize_le seen
      rw [hpend] at hlen
      by_contra hbig
      exact hopen ⟨by omega, by omega⟩
  | payload _ hrem _ _ => omega

theorem fits_of_short {d : Decoder} {chunks : List (List UInt8)} (hs : Sim s d)
    (hfin : Finishes (d.bytes chunks.flatten))
    (hshort : ∀ bytes ∈ chunks, bytes ≠ [] ∧ bytes.length + 13 ≤ CONFIG_CO_SOCKET_BUFFER_SIZE) :
    Fits s chunks := by
  induction chunks generalizing s d with
  | nil => trivial
  | cons bytes rest ih =>
      obtain ⟨hne, hlen⟩ := hshort bytes List.mem_cons_self
      have hrem := remainingLen_le hs
      rw [List.flatten_cons] at hfin
      refine ⟨hne, by omega, ?_⟩
      intro s' hp'
      obtain ⟨s₁, _, hp, hs₁, _, _⟩ := coWebsocketProcess_sim hs hne (by omega) hfin.before
      rw [bytes_append] at hfin
      have heq : s₁ = s' := by rw [hp] at hp'; simpa using hp'
      exact ih (heq ▸ hs₁) hfin (fun b hb => hshort b (List.mem_cons_of_mem _ hb))

/-- Whatever the segmentation, the headers established and the payloads handed
on are those of the decoding of the whole stream. -/
theorem websocketWorker_received (addr : UInt32) {stream : List UInt8} {frames : List Frame}
    {chunks : List (List UInt8)} (hdec : decode stream = some frames)
    (hplain : ∀ f ∈ frames, Plain f.header) (hflat : chunks.flatten = stream)
    (hfits : Fits (Session.start addr) chunks) :
    ∃ s, websocketWorker (Session.start addr) chunks = some (true, s) ∧
      received s.log = frames.map ofFrame := by
  subst hflat
  obtain ⟨s, _, hw, hs, _, _⟩ :=
    websocketWorker_sim (sim_start addr) hfits (finishes_decode hdec hplain)
  refine ⟨s, hw, ?_⟩
  rw [received_of_sim hs, bytes_decode hdec]
  rfl

/-- A masked binary frame and an unmasked pong with a 16-bit length, cut inside
the mask, inside the payload and inside the length. -/
theorem websocketWorker_received_split :
    ∃ s, websocketWorker (Session.start 3)
        [[0x82, 0x83, 1, 2], [3, 4, 0x11, 0x22], [0x33, 0x8a, 126, 0], [2, 8, 9]] = some (true, s) ∧
      received s.log = [⟨true, 2, true, 3, [0x10, 0x20, 0x30]⟩, ⟨true, 10, false, 2, [8, 9]⟩] := by
  have hdec : decode [0x82, 0x83, 1, 2, 3, 4, 0x11, 0x22, 0x33, 0x8a, 126, 0, 2, 8, 9] =
      some [⟨⟨true, 0, 2, some [1, 2, 3, 4], 3⟩, [0x10, 0x20, 0x30]⟩,
        ⟨⟨true, 0, 10, none, 2⟩, [8, 9]⟩] := by decide
  have hplain : ∀ f ∈ [Frame.mk ⟨true, 0, 2, some [1, 2, 3, 4], 3⟩ [0x10, 0x20, 0x30],
      Frame.mk ⟨true, 0, 10, none, 2⟩ [8, 9]], Plain f.header := by
    intro f hf
    rcases List.mem_pair.mp hf with rfl | rfl
    · exact ⟨rfl, .inl rfl, by decide⟩
    · exact ⟨rfl, .inr rfl, by decide⟩
  refine websocketWorker_received 3 hdec hplain rfl ?_
  refine fits_of_short (sim_start 3) (finishes_decode hdec hplain) ?_
  decide

end WirelessEsp.WebsocketSync
