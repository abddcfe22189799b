import WirelessEsp.WebsocketEntries

namespace WirelessEsp.WebsocketText

open EventRuns Rfc6455 FrameParts WebsocketServer WebsocketSync WebsocketBuffer WebsocketAnswers
  WebsocketTrace WebsocketEntries

/-- Nothing went through a null pointer or behind the end of the text buffer, and the next text
starts at the front of it. -/
structure TextSafe (s : Session) : Prop where
  null : .nullWrite ∉ s.log
  inside : ∀ recvData ∈ s.cb.recvData, recvData.length ≤ CONFIG_CO_WS_TEXT_BUFFER_SIZE
  front : s.cb.recvDataOffset = 0

def TextAnswered (f : Frame) (replies : List Event) : Prop :=
  replies = [.processText f.payload] ∨
    CONFIG_CO_WS_TEXT_BUFFER_SIZE < f.payload.length ∧
      replies = [.sendMsgWithCode 3 "request too long"]

def TextsAnswered (addr : UInt32) (chunks : List (List UInt8)) (frames : List Frame) : Prop :=
  ∃ b s, websocketWorker (Session.start addr) chunks = some (b, s) ∧ TextSafe s ∧
    ∀ k f, frames[k]? = some f → ∃ n, entry s.log k = some n ∧ TextAnswered f n.replies

/-- The chunks make up a sequence of text frames. -/
structure TextStream (chunks : List (List UInt8)) (frames : List Frame) : Prop where
  decode : Rfc6455.decode chunks.flatten = some frames
  known : ∀ f ∈ frames, Known f.header
  text : ∀ f ∈ frames, f.header.opcode = WS_OPCODE_TEXT

def firstPart : List (List UInt8) → List UInt8
  | [] => []
  | p :: ps => if p = [] then firstPart ps else p

def textReply (h : Header) (parts : List (List UInt8)) : Event :=
  if (firstPart parts).length = h.length then .processText (unmask h.key 0 parts.flatten)
  else if CONFIG_CO_WS_TEXT_BUFFER_SIZE < (firstPart parts).length then
    .sendMsgWithCode 3 "request too long"
  else .nullWrite

/-- The payload has come in one part, or begins with a part that the text buffer cannot hold. -/
def FirstPartFits (f : CutFrame) : Prop :=
  (firstPart f.parts).length = f.header.length ∨
    CONFIG_CO_WS_TEXT_BUFFER_SIZE < (firstPart f.parts).length

instance (f : CutFrame) : Decidable (FirstPartFits f) := inferInstanceAs (Decidable (_ ∨ _))

variable {d : Dispatch} {f : CutFrame} {es log : List Event} {r : Option Dispatch}
  {head last : List UInt8} {earlier ps : List (List UInt8)}

theorem partAnswer_text {pong : List UInt8} (hop : d.opcode = WS_OPCODE_TEXT) :
    partAnswer d f pong = textPart d f.data (left f) := if_pos hop

theorem textPart_quiet (d : Dispatch) (data : List UInt8) (n : Nat) :
    repliesOf (textPart d data n).1 = (textPart d data n).1 := by
  rw [textPart]
  repeat' split
  all_goals rfl

theorem run_part_cons (hop : d.opcode = WS_OPCODE_TEXT) {p : List UInt8}
    (h : Run Step d ((snapshots head earlier (p :: ps)).map .part) es r) {bs : List Event}
    {t : Option Dispatch}
    (ht : textPart d (⟨head, earlier, p⟩ : CutFrame).data (left ⟨head, earlier, p⟩) = (bs, t)) :
    (t = none ∧ r = none ∧ repliesOf es = bs) ∨
      ∃ d' es', t = some d' ∧ Run Step d' ((snapshots head (earlier ++ [p]) ps).map .part) es' r ∧
        repliesOf es = bs ++ repliesOf es' := by
  have hquiet := textPart_quiet d (⟨head, earlier, p⟩ : CutFrame).data (left ⟨head, earlier, p⟩)
  rw [ht] at hquiet
  rw [snapshots, List.map_cons] at h
  cases h with
  | stop first =>
      obtain ⟨pong, -, rfl, hr⟩ := step_part first
      rw [partAnswer_text hop, ht] at hr ⊢
      exact .inl ⟨hr.symm, rfl, hquiet⟩
  | @cons _ d' _ _ _ es' _ first rest =>
      obtain ⟨pong, -, rfl, hr⟩ := step_part first
      rw [partAnswer_text hop, ht] at hr ⊢
      refine .inr ⟨d', es', hr.symm, rest, ?_⟩
      rw [List.cons_append, repliesOf, List.filter_cons_of_neg (by exact Bool.false_ne_true),
        List.filter_append]
      exact congrArg (· ++ repliesOf es') hquiet

theorem data_length (f : CutFrame) : f.data.length = f.last.length := unmask_length _ _ _

theorem run_skipped (hop : d.opcode = WS_OPCODE_TEXT) (hskip : d.skip = true)
    (hlen : (headerOf head).length = (earlier ++ ps ++ [last]).flatten.length) (hlast : last ≠ [])
    (h : Run Step d ((snapshots head earlier (ps ++ [last])).map .part) es r) :
    repliesOf es = [] ∧ r = some { d with skip := false } := by
  induction ps generalizing earlier es with
  | nil =>
      have hwhole : textPart d (⟨head, earlier, last⟩ : CutFrame).data
          (left ⟨head, earlier, last⟩) = ([], some { d with skip := false }) := by
        have hleft : left ⟨head, earlier, last⟩ = last.length := by
          change (headerOf head).length - earlier.flatten.length = last.length
          simp only [List.append_nil, List.flatten_append, List.length_append,
            List.flatten_singleton] at hlen
          omega
        rw [textPart, if_pos hskip, data_length, hleft]
        simp
      rcases run_part_cons hop h hwhole with ⟨hnone, -⟩ | ⟨d', es', hd, hrun, hreplies⟩
      · cases hnone
      · cases hd
        cases hrun
        exact ⟨hreplies, rfl⟩
  | cons p ps ih =>
      have hpos := List.length_pos_iff.mpr hlast
      have hpart : textPart d (⟨head, earlier, p⟩ : CutFrame).data (left ⟨head, earlier, p⟩) =
          ([], some d) := by
        have hleft : p.length ≠ left ⟨head, earlier, p⟩ := by
          change p.length ≠ (headerOf head).length - earlier.flatten.length
          simp only [List.append_assoc, List.cons_append, List.flatten_append, List.length_append,
            List.flatten_cons] at hlen
          omega
        rw [textPart, if_pos hskip, data_length]
        simp only [bne_iff_ne.mpr hleft, ← hskip]
      rcases run_part_cons hop h hpart with ⟨hnone, -⟩ | ⟨d', es', hd, hrun, hreplies⟩
      · cases hnone
      · cases hd
        have hlen' : (headerOf head).length =
            (earlier ++ [p] ++ ps ++ [last]).flatten.length := by
          rw [hlen, List.append_assoc earlier [p] ps]
          rfl
        obtain ⟨hnone, hr⟩ := ih hlen' hrun
        exact ⟨by rw [hreplies, hnone]; rfl, hr⟩

theorem firstPart_cons {p : List UInt8} (hp : p ≠ []) (ps : List (List UInt8)) :
    firstPart (p :: ps) = p := if_neg hp

theorem firstPart_singleton (p : List UInt8) : firstPart [p] = p := by
  cases p with
  | nil => rfl
  | cons b bs => rfl

theorem firstPart_length_le (ps : List (List UInt8)) :
    (firstPart ps).length ≤ ps.flatten.length := by
  induction ps with
  | nil => exact Nat.le_refl _
  | cons p ps ih =>
      rw [firstPart, List.flatten_cons, List.length_append]
      split
      · exact Nat.le_trans ih (Nat.le_add_left _ _)
      · exact Nat.le_add_right _ _

theorem textPart_fresh (hskip : d.skip = false) (hearlier : earlier.flatten = [])
    (head p : List UInt8) :
    textPart d (⟨head, earlier, p⟩ : CutFrame).data (left ⟨head, earlier, p⟩) =
      if p.length = (headerOf head).length then
        ([.processText (unmask (headerOf head).key 0 p)], some d)
      else if p.length > CONFIG_CO_WS_TEXT_BUFFER_SIZE then
        ([.sendMsgWithCode 3 "request too long"], some { d with skip := true })
      else if 0 < p.length then ([.nullWrite], none)
      else ([], some d) := by
  have hleft : left ⟨head, earlier, p⟩ = (headerOf head).length := by
    change (headerOf head).length - earlier.flatten.length = _
    rw [hearlier]
    rfl
  have hdata : (⟨head, earlier, p⟩ : CutFrame).data = unmask (headerOf head).key 0 p := by
    change unmask (headerOf head).key earlier.flatten.length p = _
    rw [hearlier]
    rfl
  rw [textPart, if_neg (by rw [hskip]; exact Bool.false_ne_true), data_length, hleft, hdata]

theorem run_text (hop : d.opcode = WS_OPCODE_TEXT) (hskip : d.skip = false)
    (hearlier : earlier.flatten = []) (hlen : (headerOf head).length = (ps ++ [last]).flatten.length)
    (hlast : ps ≠ [] → last ≠ [])
    (h : Run Step d ((snapshots head earlier (ps ++ [last])).map .part) es r) :
    repliesOf es = [textReply (headerOf head) (ps ++ [last])] ∧
      r = if textReply (headerOf head) (ps ++ [last]) = .nullWrite then none else some d := by
  induction ps generalizing earlier es with
  | nil =>
      rw [List.nil_append, List.flatten_singleton] at hlen
      have hwhole := textPart_fresh hskip hearlier head last
      rw [if_pos hlen.symm] at hwhole
      rw [List.nil_append, textReply, firstPart_singleton, if_pos hlen.symm, List.flatten_singleton,
        if_neg (by simp)]
      rcases run_part_cons hop h hwhole with ⟨hnone, -⟩ | ⟨d', es', hd, hrun, hreplies⟩
      · cases hnone
      · cases hd
        cases hrun
        exact ⟨hreplies, rfl⟩
  | cons p ps ih =>
      have hlast' := hlast (List.cons_ne_nil p ps)
      have hpos := List.length_pos_iff.mpr hlast'
      have hshort : p.length ≠ (headerOf head).length := by
        rw [hlen]
        simp only [List.cons_append, List.flatten_cons, List.flatten_append, List.length_append,
          List.flatten_nil, List.append_nil]
        omega
      have hpart := textPart_fresh hskip hearlier head p
      rw [if_neg hshort] at hpart
      by_cases hp : p = []
      · -- the header came without any of the payload
        subst hp
        rw [if_neg (by simp), if_neg (by simp)] at hpart
        have hsame : textReply (headerOf head) ([] :: ps ++ [last]) =
            textReply (headerOf head) (ps ++ [last]) := rfl
        rw [hsame]
        rcases run_part_cons hop h hpart with ⟨hnone, -⟩ | ⟨d', es', hd, hrun, hreplies⟩
        · cases hnone
        · cases hd
          rw [hreplies, List.nil_append]
          exact ih (by simp [hearlier]) hlen (fun _ => hlast') hrun
      · rw [textReply, List.cons_append, firstPart_cons hp, if_neg hshort]
        by_cases hbig : CONFIG_CO_WS_TEXT_BUFFER_SIZE < p.length
        · rw [if_pos hbig] at hpart
          rw [if_pos hbig, if_neg (by simp)]
          rcases run_part_cons hop h hpart with ⟨hnone, -⟩ | ⟨d', es', hd, hrun, hreplies⟩
          · cases hnone
          · cases hd
            have hlen' : (headerOf head).length =
                (earlier ++ [p] ++ ps ++ [last]).flatten.length := by
              rw [hlen]
              simp [hearlier]
            obtain ⟨hnone, hr⟩ := run_skipped (d := { d with skip := true }) hop rfl hlen' hlast' hrun
            refine ⟨by rw [hreplies, hnone]; rfl, ?_⟩
            rw [hr, ← hskip]
        · rw [if_neg hbig, if_pos (List.length_pos_iff.mpr hp)] at hpart
          rw [if_neg hbig, if_pos rfl]
          rcases run_part_cons hop h hpart with ⟨-, hr, hreplies⟩ | ⟨d', es', hd, -⟩
          · exact ⟨hreplies, hr⟩
          · cases hd

theorem partItems_parts (f : CutFrame) :
    partItems f = (snapshots f.head [] (f.earlier ++ [f.last])).map .part := by
  rw [snapshots_concat, List.map_append]
  rfl

theorem run_text_frame (hop : d.opcode = WS_OPCODE_TEXT) (hskip : d.skip = false) (hc : Closed f)
    (h : Run Step d (partItems f) es r) :
    repliesOf es = [textReply f.header f.parts] ∧
      r = if textReply f.header f.parts = .nullWrite then none else some d := by
  rw [partItems_parts] at h
  have hbody : f.body.length = (f.earlier ++ [f.last]).flatten.length := by
    rw [List.flatten_append, List.flatten_singleton]
    rfl
  refine run_text hop hskip rfl (hc.length.trans hbody) (fun hne hnil => ?_) h
  have hmore := hc.more hne
  rw [hc.length, CutFrame.body, hnil, List.append_nil] at hmore
  exact Nat.lt_irrefl _ hmore

theorem textReply_eq_nullWrite : textReply f.header f.parts = .nullWrite ↔ ¬ FirstPartFits f := by
  rw [textReply, FirstPartFits]
  split
  next h => simp [h]
  next h =>
    split
    next h' => simp [h']
    next h' => simp [h, h']

theorem nullWrite_mem_replies : .nullWrite ∈ repliesOf es ↔ .nullWrite ∈ es := by
  rw [repliesOf, List.mem_filter]
  exact and_iff_left rfl

theorem run_texts {gs : List CutFrame} (hskip : d.skip = false)
    (hgs : ∀ g ∈ gs, Closed g ∧ g.header.opcode = WS_OPCODE_TEXT)
    (h : Run Step d (gs.flatMap CutFrame.items) log r) :
    (.nullWrite ∉ log ↔ ∀ g ∈ gs, FirstPartFits g) ∧
      (∀ d', r = some d' → d'.skip = false) ∧ (.nullWrite ∉ log → r ≠ none) := by
  induction gs generalizing d log with
  | nil =>
      cases h
      exact ⟨by simp, fun d' h => by cases h; exact hskip, fun _ h => by cases h⟩
  | cons g gs ih =>
      obtain ⟨hc, hop⟩ := hgs g List.mem_cons_self
      obtain ⟨es, rfl, hrun⟩ := run_cons h
      have hunder : (d.under g.header).opcode = WS_OPCODE_TEXT :=
        (under_opcode (by rw [hop]; decide)).trans hop
      have hmem (xs : List Event) : .nullWrite ∈ headerEvent d g.header :: xs ↔ .nullWrite ∈ xs := by
        rw [List.mem_cons, or_iff_right]
        exact fun h => by cases h
      rw [hmem, List.forall_mem_cons, ← not_iff_not.mpr nullWrite_mem_replies]
      rcases hrun.split with ⟨es₁, es₂, d', rfl, h₁, h₂⟩ | ⟨rfl, h₁⟩
      · obtain ⟨hreplies, hr⟩ := run_text_frame hunder hskip hc h₁
        have hfits : FirstPartFits g := by
          by_contra hno
          rw [if_pos (textReply_eq_nullWrite.mpr hno)] at hr
          cases hr
        rw [if_neg (fun h => textReply_eq_nullWrite.mp h hfits)] at hr
        cases hr
        obtain ⟨hlog, hstill, hgoes⟩ :=
          ih (d := d.under g.header) hskip (fun g hg => hgs g (List.mem_cons_of_mem _ hg)) h₂
        have hsplit : .nullWrite ∉ repliesOf (es₁ ++ es₂) ↔ .nullWrite ∉ es₂ := by
          rw [repliesOf, List.filter_append, List.mem_append]
          change ¬ (_ ∈ repliesOf es₁ ∨ _ ∈ repliesOf es₂) ↔ _
          rw [hreplies, nullWrite_mem_replies, List.mem_singleton, or_iff_right]
          exact fun h => textReply_eq_nullWrite.mp h.symm hfits
        rw [hsplit, and_iff_right hfits]
        exact ⟨hlog, hstill, hgoes⟩
      · obtain ⟨hreplies, hr⟩ := run_text_frame hunder hskip hc h₁
        have hno : textReply g.header g.parts = .nullWrite := by
          by_contra hne
          rw [if_neg hne] at hr
          cases hr
        have hin : .nullWrite ∈ repliesOf es := by
          rw [hreplies, hno]
          exact List.mem_singleton_self _
        exact ⟨⟨fun h => absurd hin h, fun h => absurd h.1 (textReply_eq_nullWrite.mp hno)⟩,
          fun d' h => (by cases h), fun h => absurd hin h⟩

theorem textAnswered_reply (hfits : FirstPartFits f) :
    TextAnswered f.frame [textReply f.header f.parts] := by
  have hflat : f.parts.flatten = f.body := by
    rw [CutFrame.parts, List.flatten_append, List.flatten_singleton]
    rfl
  rw [textReply]
  split
  next =>
    rw [hflat]
    exact .inl rfl
  next hpart =>
    have hbig := hfits.resolve_left hpart
    rw [if_pos hbig]
    refine .inr ⟨?_, rfl⟩
    change _ < f.payload.length
    rw [payload_length, ← hflat]
    exact Nat.lt_of_lt_of_le hbig (firstPart_length_le f.parts)

theorem after_append (d : Dispatch) (is js : List Item) :
    after d (is ++ js) = (after d is).bind fun d' => after d' js := List.foldlM_append ..

variable {chunks : List (List UInt8)} {frames : List Frame}

theorem cutFrames_texts (h : TextStream chunks frames) :
    (cutFrames chunks).map CutFrame.frame = frames ∧
      ∀ g ∈ cutFrames chunks, Closed g ∧ g.header.opcode = WS_OPCODE_TEXT := by
  obtain ⟨hcurrent, hframes⟩ := chunks_decode h.decode
  refine ⟨hframes, fun g hg => ⟨(chunks_sound init_sound chunks).done g ?_, ?_⟩⟩
  · rw [cutFrames, Cutter.frames, hcurrent] at hg
    exact hg
  · have hmem : g.frame ∈ frames := by
      rw [← hframes]
      exact List.mem_map_of_mem hg
    exact h.text g.frame hmem

theorem texts_follow (addr : UInt32) (hfits : Fits (Session.start addr) chunks)
    (ht : TextStream chunks frames) :
    ∃ b s r, websocketWorker (Session.start addr) chunks = some (b, s) ∧
      Run Step .start ((cutFrames chunks).flatMap CutFrame.items) s.log r ∧
      (∀ d, r = some d → s.cb = ⟨none, 0⟩) ∧
      (.nullWrite ∉ s.log ↔ ∀ g ∈ cutFrames chunks, FirstPartFits g) ∧
      (.nullWrite ∉ s.log → r ≠ none) := by
  have hstream : Stream chunks :=
    ⟨[], frames, by rw [List.append_nil]; exact ht.decode, ht.known⟩
  obtain ⟨b, s, r, hw, hrun, hcb⟩ := log_follows addr hfits hstream
  obtain ⟨hlog, -, hgoes⟩ := run_texts rfl (cutFrames_texts ht).2 hrun
  exact ⟨b, s, r, hw, hrun, hcb, hlog, hgoes⟩

theorem text_entry {cs : List CutFrame} {k : Nat}
    (hcs : ∀ g ∈ cs, Closed g ∧ g.header.opcode = WS_OPCODE_TEXT)
    (hrun : Run Step .start (cs.flatMap CutFrame.items) log r) (hr : r ≠ none)
    (hk : cs[k]? = some f) :
    ∃ n, entry log k = some n ∧ n.replies = [textReply f.header f.parts] := by
  obtain ⟨fs, gs, rfl, rfl⟩ := getElem?_split hk
  have hafter := after_eq hrun
  rcases entry_of_run hrun with ⟨d, es₁, es, r', hbefore, hparts, hentry⟩ | ⟨hnone, -⟩
  · obtain ⟨hc, hop⟩ := hcs f (List.mem_append_right _ List.mem_cons_self)
    have hskip := (run_texts rfl (fun g hg => hcs g (List.mem_append_left _ hg)) hbefore).2.1 d rfl
    have hunder : (d.under f.header).opcode = WS_OPCODE_TEXT :=
      (under_opcode (by rw [hop]; decide)).trans hop
    exact ⟨_, hentry, (run_text_frame hunder hskip hc hparts).1⟩
  · rw [List.flatMap_append, after_append, hnone] at hafter
    exact absurd hafter.symm hr

/-- Texts are answered as they should be exactly when each comes in one part, or begins with a
part that is longer than the text buffer. -/
theorem textsAnswered_iff (addr : UInt32) (hfits : Fits (Session.start addr) chunks)
    (ht : TextStream chunks frames) :
    TextsAnswered addr chunks frames ↔ ∀ g ∈ cutFrames chunks, FirstPartFits g := by
  obtain ⟨b, s, r, hw, hrun, hcb, hlog, hgoes⟩ := texts_follow addr hfits ht
  obtain ⟨hframes, hcs⟩ := cutFrames_texts ht
  refine ⟨fun ⟨b', s', hw', hsafe, _⟩ => ?_, fun hall => ?_⟩
  · rw [hw] at hw'
    cases hw'
    exact hlog.mp hsafe.null
  · have hnull := hlog.mpr hall
    obtain ⟨d, hd⟩ := Option.ne_none_iff_exists'.mp (hgoes hnull)
    have hfront := hcb d hd
    refine ⟨b, s, hw, ⟨hnull, ?_, by rw [hfront]⟩, fun k f hk => ?_⟩
    · rw [hfront]
      intro recvData h
      cases h
    · rw [← hframes, List.getElem?_map, Option.map_eq_some_iff] at hk
      obtain ⟨g, hg, rfl⟩ := hk
      obtain ⟨n, hentry, hreplies⟩ := text_entry hcs hrun (hgoes hnull) hg
      refine ⟨n, hentry, ?_⟩
      rw [hreplies]
      exact textAnswered_reply (hall g (List.mem_of_getElem? hg))

/-- Two texts, the first cut behind its header and the second in its header. -/
theorem textsAnswered_cut_headers :
    TextsAnswered 0 [[0x81, 0x82, 1, 2, 3, 4], [5, 6, 0x81], [0x81, 7, 8, 9, 0, 7]]
      [⟨⟨true, 0, 1, some [1, 2, 3, 4], 2⟩, [4, 4]⟩,
        ⟨⟨true, 0, 1, some [7, 8, 9, 0], 1⟩, [0]⟩] := by
  have hfits : Fits (Session.start 0)
      [[0x81, 0x82, 1, 2, 3, 4], [5, 6, 0x81], [0x81, 7, 8, 9, 0, 7]] :=
    fits_of_small (rest_start 0) (by decide)
  have ht : TextStream [[0x81, 0x82, 1, 2, 3, 4], [5, 6, 0x81], [0x81, 7, 8, 9, 0, 7]]
      [⟨⟨true, 0, 1, some [1, 2, 3, 4], 2⟩, [4, 4]⟩,
        ⟨⟨true, 0, 1, some [7, 8, 9, 0], 1⟩, [0]⟩] :=
    ⟨by decide, by decide, by decide⟩
  exact (textsAnswered_iff 0 hfits ht).mpr (by decide)

/-- The text that comes in two parts is stored through the null pointer. -/
theorem not_textsAnswered_always :
    ¬ ∀ (addr : UInt32) (chunks : List (List UInt8)) (frames : List Frame),
      Fits (Session.start addr) chunks → TextStream chunks frames →
      TextsAnswered addr chunks frames := by
  intro hall
  have hfits : Fits (Session.start 0) [[0x81, 0x82, 1, 2, 3, 4, 5], [6]] :=
    fits_of_small (rest_start 0) (by decide)
  have ht : TextStream [[0x81, 0x82, 1, 2, 3, 4, 5], [6]]
      [⟨⟨true, 0, 1, some [1, 2, 3, 4], 2⟩, [4, 4]⟩] :=
    ⟨by decide, by decide, by decide⟩
  obtain ⟨b, s, r, hw, -, -, hlog, -⟩ := texts_follow 0 hfits ht
  obtain ⟨b', s', hw', hsafe, -⟩ := hall 0 _ _ hfits ht
  rw [hw] at hw'
  cases hw'
  exact absurd (hlog.mp hsafe.null) (by decide)

end WirelessEsp.WebsocketText
