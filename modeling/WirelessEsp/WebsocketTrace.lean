import WirelessEsp.WebsocketStages

namespace WirelessEsp.WebsocketTrace

open EventRuns Rfc6455 FrameParts WebsocketServer WebsocketHeader WebsocketPayload WebsocketSync
  WebsocketBuffer WebsocketAnswers WebsocketStages

/-- The stream so far can go on to end with a whole frame, all frames being known ones. -/
def Promising (d : Decoder) : Prop :=
  ∃ rest frames, d.bytes rest = ⟨frames, .header []⟩ ∧ ∀ f ∈ frames, Known f.header

/-- What has become of a session that has received the frames of the cutter. -/
inductive Outcome (c : Cutter) : Option (Bool × Session) → Prop
  | alive {s : Session} {d : Dispatch} (run : Run Step .start c.items s.log (some d))
      (sim : Sim c.current d s) : Outcome c (some (true, s))
  | ended {s : Session} (run : Run Step .start c.items s.log none) : Outcome c (some (false, s))

variable {done : List CutFrame} {f : CutFrame} {d : Dispatch} {s : Session} {bs bytes : List UInt8}

theorem Promising.before {d : Decoder} {xs ys : List UInt8} (h : Promising (d.bytes (xs ++ ys))) :
    Promising (d.bytes xs) := by
  obtain ⟨rest, frames, hb, hknown⟩ := h
  exact ⟨ys ++ rest, frames, by rw [← hb, bytes_append, bytes_append], hknown⟩

theorem promising_decode {stream rest : List UInt8} {frames : List Frame}
    (hdec : decode (stream ++ rest) = some frames) (hknown : ∀ f ∈ frames, Known f.header) :
    Promising (Decoder.init.bytes stream) :=
  ⟨rest, frames, by rw [← bytes_append]; exact bytes_decode hdec, hknown⟩

theorem Promising.hopeful {fs : List Frame} (hne : bs ≠ [])
    (h : Promising (Decoder.bytes ⟨fs, .header []⟩ bs)) : Hopeful bs := by
  obtain ⟨rest, frames, hb, hknown⟩ := h
  rw [← bytes_append] at hb
  obtain ⟨hc, hmem⟩ := first_header_mem hne hb
  obtain ⟨f, hf, heq⟩ := List.mem_map.mp hmem
  have hk := hknown f hf
  rw [heq] at hk
  exact hopeful_of_known hk

theorem loaded_full (hl : Loaded f d s) (hne : chunkRest s.scb ≠ []) :
    (f.withLast s.scb.chunk).header.length = (f.withLast s.scb.chunk).body.length := by
  obtain ⟨hlen, hrest, hbody⟩ := hl.lengths
  have hpos := List.length_pos_iff.mpr hne
  have hpay := hl.payloadLen
  rw [withLast_header]
  omega

theorem loaded_close_unread (hl : Loaded f d s) (hlast : f.last = []) :
    (close done f).bytes (unread s.scb) =
      (close done (f.withLast s.scb.chunk)).bytes (chunkRest s.scb) := by
  obtain ⟨hlen, -, hbody⟩ := hl.lengths
  have hpay := hl.payloadLen
  have hpush : f.push s.scb.chunk = f.withLast s.scb.chunk := by
    rw [CutFrame.push, hlast, List.nil_append]
  have hsplit : unread s.scb = s.scb.chunk ++ chunkRest s.scb := by
    rw [hl.reading.chunk_eq, chunkRest, List.take_append_drop]
  have hfit : f.body.length + s.scb.chunk.length ≤ f.header.length := by
    rw [CutFrame.body, hlast, List.append_nil, hl.reading.chunk_length]
    omega
  rw [hsplit, cutter_bytes_append, close_bytes hfit, hpush]

theorem run_part {es log : List Event} {r : Option Dispatch} {xs : List UInt8}
    (hrun : Run Step .start (done.flatMap CutFrame.items ++ f.opening) log (some d))
    (hstep : Step d (.part (f.withLast xs)) es r) :
    Run Step .start (close done (f.withLast xs)).items (log ++ es) r := by
  have hlong := hrun.concat hstep
  rw [List.append_assoc] at hlong
  rw [close_items]
  exact hlong

/-- The rounds of a call that starts at a header with `fuel` rounds left. -/
def Follows (fuel : Nat) : Prop :=
  ∀ (done : List CutFrame) (d : Dispatch) (s : Session), AtHeader d s →
    Run Step .start (done.flatMap CutFrame.items) s.log (some d) → pending s.scb ≠ [] →
    (pending s.scb).length < fuel →
    Promising (Cutter.bytes ⟨done, .head []⟩ (pending s.scb)).decoder →
    Outcome (Cutter.bytes ⟨done, .head []⟩ (pending s.scb)) (processRounds fuel s)

theorem processRounds_part {fuel : Nat} (ih : Follows fuel) {s₀ : Session}
    (hround : processHeaderRound s₀ = (.ok, s)) (hl : Loaded f d s) (hlast : f.last = [])
    (hrun : Run Step .start (done.flatMap CutFrame.items ++ f.opening) s.log (some d))
    (hlen : (unread s.scb).length < fuel)
    (hprom : Promising ((close done f).bytes (unread s.scb)).decoder) :
    Outcome ((close done f).bytes (unread s.scb)) (processRounds (fuel + 1) s₀) := by
  obtain ⟨es, r, ret, s', hstep, hp, hlog, hends, hgoes⟩ := hl.process
  have hlong := run_part hrun hstep
  have hfull := loaded_full hl
  have hle := chunkRest_length_le s.scb
  rw [loaded_close_unread hl hlast] at hprom ⊢
  rw [← hlog] at hlong
  rw [processRounds, hround]
  simp only [hl.status, if_true, hp]
  generalize hg : f.withLast s.scb.chunk = g at *
  generalize hrest : chunkRest s.scb = rest at *
  cases r with
  | none =>
      rw [hends rfl]
      refine .ended (hlong.stopped ?_)
      by_cases hnil : rest = []
      · rw [hnil]
        exact List.prefix_refl _
      · rw [close_full (hfull hnil)]
        exact (fixed_bytes ⟨done ++ [g], .head []⟩ rest).trans (fixed_prefix_items _)
  | some d' =>
      have hleft := hgoes d' rfl
      by_cases hnil : rest = []
      · obtain ⟨hret, hsim⟩ := hleft.last hnil
        rw [hret, hnil]
        exact .alive hlong (hsim done)
      · obtain ⟨hret, hat, hpend, hsize⟩ := hleft.more hnil
        rw [close_full hsize] at hlong hprom ⊢
        rw [hret]
        rw [← hpend] at hprom hnil hle ⊢
        exact ih (done ++ [g]) d' s' hat hlong hnil (by omega) hprom

theorem processRounds_follows (fuel : Nat) : Follows fuel := by
  induction fuel with
  | zero => intro done d s _ _ _ hlen _; exact absurd hlen (Nat.not_lt_zero _)
  | succ fuel ih =>
      intro done d s hat hrun hne hlen hprom
      have hdec : (Cutter.bytes ⟨done, .head []⟩ (pending s.scb)).decoder =
          Decoder.bytes ⟨done.map CutFrame.frame, .header []⟩ (pending s.scb) := bytes_decoder _ _
      have hope : Hopeful (pending s.scb) := (hdec ▸ hprom).hopeful hne
      by_cases hc : Complete (pending s.scb)
      · obtain ⟨s₁, hround, hl, hun, hlog⟩ := hat.round_done hope hc
        have hstep := Step.header d ((pending s.scb).take (headerSize (pending s.scb)))
        rw [(take_headerSize_complete hc).2] at hstep
        have hlong := hrun.concat hstep
        rw [bytes_fresh_head_complete hc, ← hun] at hprom ⊢
        have hshort : (unread s₁.scb).length < fuel := by
          have h2 := two_le_headerSize (pending s.scb)
          have hsize := hc.2
          rw [hun, List.length_drop]
          omega
        rw [← hlog] at hlong
        exact processRounds_part ih hround hl rfl hlong hshort hprom
      · obtain ⟨s₁, hround, hst, hsim, hlog⟩ := hat.round_wait hope hc
        rw [bytes_fresh_head_incomplete hc, processRounds, hround]
        simp only [hst, if_false]
        rw [← hlog] at hrun
        exact .alive hrun hsim

theorem progress_relabel {scb : CoSocketCb} {op op' : UInt8} {bs : List UInt8}
    (hs : scb.status = .websocketHeader) (h : HeaderProgress bs (relabel op scb)) :
    HeaderProgress bs (relabel op' scb) := by
  cases h with
  | start hs' hread => exact .start hs' hread
  | extendLength hs' _ _ _ _ => exact absurd (hs.symm.trans hs') (by simp)
  | mask hs' _ _ => exact absurd (hs.symm.trans hs') (by simp)

theorem progress_two {scb : CoSocketCb} {bs : List UInt8} (hs : scb.status ≠ .websocketHeader)
    (h : HeaderProgress bs scb) : 2 ≤ bs.length := by
  cases h with
  | start hs' _ => exact absurd hs' hs
  | extendLength _ ho _ _ _ => exact ho.two
  | mask _ hm _ => exact hm.two

theorem atHeader_recv (hat : AtHeader d s)
    (hfit : s.scb.remainingLen + bytes.length ≤ CONFIG_CO_SOCKET_BUFFER_SIZE) :
    AtHeader d { s with scb := s.scb.recv bytes } := by
  have hprog : HeaderProgress (pending s.scb ++ bytes)
      (relabel (headerOf (pending s.scb)).opcode (s.scb.recv bytes)) := progress_recv hat.progress
  refine ⟨room_recv hat.toRoom hfit, ?_, ?_, hat.skip, hat.cb⟩
  · rw [pending_recv hat.fits]
    by_cases hs : s.scb.status = .websocketHeader
    · exact progress_relabel hs hprog
    · have h2 := progress_two (by exact hs) hat.progress
      have hop : (headerOf (pending s.scb ++ bytes)).opcode = (headerOf (pending s.scb)).opcode := by
        simp only [headerOf, getD_append_left bytes (show 0 < (pending s.scb).length by omega)]
      rw [hop]
      exact hprog
  · rw [pending_recv hat.fits]
    have hop := hat.opcode
    by_cases hs : s.scb.status = .websocketHeader
    · rw [if_pos hs] at hop
      exact hop.trans (if_pos hs).symm
    · have h2 := progress_two (by exact hs) hat.progress
      rw [if_neg hs] at hop
      have hown : (headerOf (pending s.scb ++ bytes)).opcode = (headerOf (pending s.scb)).opcode := by
        simp only [headerOf, getD_append_left bytes (show 0 < (pending s.scb).length by omega)]
      rw [hown]
      exact hop.trans (if_neg hs).symm

theorem loaded_recv (hl : Loaded f d s) (hrem : s.scb.remainingLen = 0)
    (hread : s.scb.readLen = 0) (hearlier : f.earlier ≠ [])
    (hfit : s.scb.remainingLen + bytes.length ≤ CONFIG_CO_SOCKET_BUFFER_SIZE) :
    Loaded f d { s with scb := s.scb.recv bytes } ∧ unread (s.scb.recv bytes) = bytes := by
  refine ⟨⟨⟨room_recv hl.toRoom hfit, hl.status, ?_, hl.moves⟩, hl.complete, hl.opcode, hl.skip,
    hl.mask, hl.payloadLen, hl.key, fun h => absurd h hearlier, hl.cb⟩, ?_⟩
  · simp only [CoSocketCb.recv, hread]
    exact Nat.zero_le _
  · have hpend : pending s.scb = [] := by rw [pending, hrem]; exact List.take_zero
    rw [unread, pending_recv hl.fits, hpend]
    simp only [CoSocketCb.recv, hread, List.drop_zero, List.nil_append]

theorem coWebsocketProcess_outcome {c : Cutter} (hrun : Run Step .start c.items s.log (some d))
    (hs : Sim c.current d s) (hne : bytes ≠ [])
    (hfit : s.scb.remainingLen + bytes.length ≤ CONFIG_CO_SOCKET_BUFFER_SIZE)
    (hprom : Promising (c.chunk bytes).decoder) :
    Outcome (c.chunk bytes) (coWebsocketProcess s bytes) := by
  rw [coWebsocketProcess, if_neg hne]
  obtain ⟨done, current⟩ := c
  cases hs with
  | @head seen _ _ hat hpend hopen =>
      have hat' := atHeader_recv hat hfit
      have hpend' : pending (s.scb.recv bytes) = seen ++ bytes := by
        rw [pending_recv hat.fits, hpend]
      have hchunk : Cutter.chunk ⟨done, .head seen⟩ bytes =
          Cutter.bytes ⟨done, .head []⟩ (pending (s.scb.recv bytes)) := by
        rw [hpend', cutter_bytes_append, bytes_fresh_head_incomplete hopen]
        rfl
      rw [hchunk] at hprom ⊢
      refine processRounds_follows _ done d _ hat' hrun ?_ ?_ hprom
      · rw [show pending _ = seen ++ bytes from hpend']
        exact List.append_ne_nil_of_right_ne_nil _ hne
      · rw [pending_length hat'.fits]
        simp only [CoSocketCb.recv]
        omega
  | @body f _ _ hl hrem hread =>
      obtain ⟨hl', hun⟩ := loaded_recv hl hrem hread (by rw [cut_earlier]; simp) hfit
      have hpay := hl.payloadLen
      have hmoves := hl.moves
      have hclose : close done f.cut = ⟨done, .body f.cut⟩ := by
        refine close_part ?_
        have hbody : f.cut.body = f.cut.earlier.flatten := List.append_nil _
        rw [hbody]
        omega
      have hchunk : Cutter.chunk ⟨done, .body f⟩ bytes =
          (close done f.cut).bytes (unread (s.scb.recv bytes)) := by
        rw [hun, hclose]
        rfl
      rw [hchunk] at hprom ⊢
      have hround : processHeaderRound { s with scb := s.scb.recv bytes } =
          (.ok, { s with scb := s.scb.recv bytes }) := by
        rw [processHeaderRound, if_neg (not_not.mpr hl'.status)]
      have hitems : Cutter.items ⟨done, .body f⟩ =
          done.flatMap CutFrame.items ++ f.cut.opening := by
        rw [cut_opening, Cutter.items, Cutter.frames, List.flatMap_append, List.flatMap_singleton]
      rw [hitems] at hrun
      refine processRounds_part (processRounds_follows _) hround hl' rfl hrun ?_ hprom
      rw [hun]
      omega

theorem websocketWorker_outcome {c : Cutter} {chunks : List (List UInt8)}
    (hrun : Run Step .start c.items s.log (some d)) (hs : Sim c.current d s)
    (hfits : Fits s chunks) (hprom : Promising (c.chunks chunks).decoder) :
    Outcome (c.chunks chunks) (websocketWorker s chunks) := by
  induction chunks generalizing s d c with
  | nil => exact .alive hrun hs
  | cons bytes rest ih =>
      obtain ⟨hne, hfit, hnext⟩ := hfits
      have hfirst : Promising (c.chunk bytes).decoder := by
        rw [chunks_decoder, List.flatten_cons] at hprom
        rw [chunk_decoder]
        exact hprom.before
      have hout := coWebsocketProcess_outcome hrun hs hne hfit hfirst
      rw [websocketWorker]
      cases hp : coWebsocketProcess s bytes with
      | none => rw [hp] at hout; cases hout
      | some r =>
          rw [hp] at hout
          cases hout with
          | alive hrun' hsim => exact ih hrun' hsim (hnext _ hp) hprom
          | ended hrun' => exact .ended (hrun'.stopped (items_chunks _ rest))

theorem sim_start_head (addr : UInt32) : Sim (.head []) .start (Session.start addr) := by
  refine .head ⟨⟨List.length_replicate, Nat.zero_le _⟩, .start rfl rfl, ?_, rfl, rfl⟩
    List.take_zero not_complete_nil
  exact (if_pos rfl).symm

theorem websocketWorker_follows (addr : UInt32) {chunks : List (List UInt8)}
    (hfits : Fits (Session.start addr) chunks)
    (hprom : Promising (Decoder.init.bytes chunks.flatten)) :
    Outcome (Cutter.init.chunks chunks) (websocketWorker (Session.start addr) chunks) := by
  refine websocketWorker_outcome (.nil _) (sim_start_head addr) hfits ?_
  rw [chunks_decoder]
  exact hprom

end WirelessEsp.WebsocketTrace
