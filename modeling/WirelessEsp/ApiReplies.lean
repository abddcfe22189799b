import WirelessEsp.ApiOwnership

namespace WirelessEsp.ApiServer

open Programs

variable {τ : Type}

/-- What a client can tell of a request: the replies, the trees that were deleted, and the queues
that were full. -/
@[ext]
structure Outcome (τ : Type) where
  replies : List (Reply τ)
  deleted : List τ
  refused : List Queue

def Outcome.after (x : Outcome τ) : Happening τ → Outcome τ
  | .did (.reply r) _ => { x with replies := r :: x.replies }
  | .did (.deleteOut (some t)) _ => { x with deleted := t :: x.deleted }
  | .gave item false => { x with refused := server.queue item :: x.refused }
  | _ => x

def outcome : List (Happening τ) → Outcome τ
  | [] => ⟨[], [], []⟩
  | e :: es => (outcome es).after e

/-- The answers that the rest of the world gives for a request. -/
def Answers (w : World τ) (o : Op τ) (a : o.Ans) : Prop := o ≠ .poolGet → a = w.answer o

theorem answers_of_told {w : World τ} {o : Op τ} {a : o.Ans} (h : server.Says w o a) :
    Answers w o a := by
  intro ho
  obtain ⟨pool, pool', h⟩ := h
  cases o with
  | poolGet => exact absurd rfl ho
  | poolPut b => rfl
  | _ =>
      cases h
      rfl

def Gives (w : World τ) (P : Outcome τ → Prop) (code : Api τ Unit) : Prop :=
  Every consume (Answers w) (fun es => P (outcome es)) code

section Gives

variable {w : World τ} {P : Outcome τ → Prop}

@[simp]
theorem gives_ret (u : Unit) : Gives w P (.ret u) ↔ P ⟨[], [], []⟩ := every_ret _ _ _ _

@[simp]
theorem gives_op (o : Op τ) (next : o.Ans → Api τ Unit) : Gives w P (.op o next) ↔
    ∀ a, Answers w o a → Gives w (fun x => P (x.after (.did o a))) (next a) :=
  every_op _ _ _ _ _

@[simp]
theorem gives_give (item : Item τ) (refused : Api τ Unit) : Gives w P (.give item refused) ↔
    Gives w P (consume item) ∧
      Gives w (fun x => P { x with refused := server.queue item :: x.refused }) refused :=
  every_give _ _ _ _ _

theorem gives_answer {o : Op τ} (ho : o ≠ .poolGet) (next : o.Ans → Api τ Unit) :
    Gives w P (.op o next) ↔
      Gives w (fun x => P (x.after (.did o (w.answer o)))) (next (w.answer o)) := by
  rw [gives_op]
  exact ⟨fun h => h _ fun _ => rfl, fun h a ha => ha ho ▸ h⟩

end Gives

attribute [local simp] Answers Outcome.after World.answer consume server

section Functions

variable (w : World τ) (m : Msg τ) (P : Outcome τ → Prop)

theorem putBuf_gives :
    Gives w P (UriWs.putBuf m >>= fun _ => .ret ()) ↔ P ⟨[.frame m.payload], [], []⟩ := by
  simp [UriWs.putBuf, UriWs.wsSend]

theorem finish_gives :
    Gives w P (UriWs.finish m >>= fun _ => .ret ()) ↔ P ⟨[.frame m.payload], [], []⟩ := by
  simp [UriWs.finish, UriWs.putBuf, UriWs.wsSend]

/-- The payload of a frame with the tree. -/
def World.text : Option τ → Text τ
  | some t => if w.fits t then .printed t else .constant MSG_SEND_JSON_ERROR
  | none => .constant MSG_SEND_JSON_ERROR

theorem jsonToText_gives (next : Msg τ → Api τ Unit) :
    Gives w P (UriWs.jsonToText m >>= next) ↔
      Gives w (fun x => P { x with deleted := m.out.toList ++ x.deleted })
        (next { m with payload := w.text m.out }) := by
  obtain ⟨front, buf, out, payload⟩ := m
  cases out with
  | none => simp [UriWs.jsonToText, World.text]
  | some t =>
      cases hfits : w.fits t with
      | true => simp [UriWs.jsonToText, World.text, hfits]
      | false => simp [UriWs.jsonToText, World.text, hfits]

theorem wsAsyncResp_gives : Gives w P (UriWs.wsAsyncResp m) ↔ P ⟨[.frame m.payload], [], []⟩ := by
  simp [UriWs.wsAsyncResp, UriWs.wsSend, call, perform]

theorem wsSendOutCb_gives (status : Int) : Gives w P (UriWs.asyncSendOutCb m status) ↔
    if status ≠ API_JSON_OK then P ⟨[.frame (UriWs.wsSetErrMsg status)], [], []⟩
    else P ⟨[.frame (w.text m.out)], m.out.toList, []⟩ ∧ P ⟨[], m.out.toList, [.work]⟩ := by
  rw [UriWs.asyncSendOutCb]
  split
  · simp [UriWs.wsSend, call, perform]
  · simp only [perform_bind, gives_op, Answers]
    simp [jsonToText_gives, wsAsyncResp_gives, call, perform]

/-- The response with the tree, or with what is in the buffer. -/
def World.response (out : Option τ) (err : Int) : Reply τ :=
  match out with
  | some t => if w.fits t then .response .ok (.printed t) else .response .internalError .empty
  | none =>
      if err ≠ 0 then .response .internalError .empty else .response .ok (.received w.strlen)

theorem uriApiSendOut_gives (err : Int) (next : Int → Api τ Unit) :
    Gives w P (UriApi.uriApiSendOut m err >>= next) ↔
      Gives w (fun x => P { x with
        replies := w.response m.out err :: x.replies
        deleted := m.out.toList ++ x.deleted }) (next w.reply) := by
  obtain ⟨front, buf, out, payload⟩ := m
  cases out with
  | none =>
      by_cases herr : err = 0
      · simp [UriApi.uriApiSendOut, call, World.response, herr]
      · simp [UriApi.uriApiSendOut, call, World.response, herr]
  | some t =>
      cases hfits : w.fits t with
      | true =>
          simp [UriApi.uriApiSendOut, call, World.response, hfits]
      | false =>
          simp [UriApi.uriApiSendOut, call, World.response, hfits]

theorem apiFinish_gives (parsed : Bool) (status : HttpStatus) :
    Gives w P (UriApi.finish m parsed status >>= fun _ => .ret ()) ↔
      P ⟨[.response status .empty], [], []⟩ := by
  cases parsed with
  | true => simp [UriApi.finish]
  | false => simp [UriApi.finish]

theorem apiSendOutCb_gives (status : Int) : Gives w P (UriApi.asyncSendOutCb m status) ↔
    P ⟨[w.response m.out status], m.out.toList, []⟩ := by
  rw [UriApi.asyncSendOutCb]
  split
  · simp [uriApiSendOut_gives, call, perform]
  · simp [uriApiSendOut_gives, call, perform]

theorem sendOutCb_gives (status : Int) : Gives w P (sendOutCb m status) ↔
    match m.front with
    | .ws => Gives w P (UriWs.asyncSendOutCb m status)
    | .http => Gives w P (UriApi.asyncSendOutCb m status) := by
  obtain ⟨front, buf, out, payload⟩ := m
  cases front with
  | ws => simp [sendOutCb]
  | http => simp [sendOutCb]

theorem reqLongTask_gives : Gives w P (reqLongTask m) ↔
    Gives w P (sendOutCb { m with out := w.module.2 } w.module.1) ∧
      Gives w (fun x => P { x with refused := .sendOut :: x.refused })
        (sendOutCb { m with out := w.module.2 } (-1)) := by
  simp [reqLongTask]

end Functions

inductive Kind (τ : Type)
  | serialisation (t : τ)
  | acknowledgement
  | error
  | other

/-- `received` is the length of the body of the request. -/
def Reply.kind (received : Int) : Reply τ → Kind τ
  | .frame (.printed t) => .serialisation t
  | .frame .received => .acknowledgement
  | .frame (.constant _) => .error
  | .response .ok (.printed t) => .serialisation t
  | .response .ok .empty => .acknowledgement
  | .response .ok (.received n) =>
      if n = 0 ∨ (n : Int) = received then .acknowledgement else .other
  | .response _ _ => .error

section Kinds

variable (received : Int) (t : τ) (message : String)

@[simp]
theorem kind_printed : Reply.kind received (.frame (.printed t)) = .serialisation t := rfl

@[simp]
theorem kind_received : Reply.kind received (.frame (.received : Text τ)) = .acknowledgement := rfl

@[simp]
theorem kind_constant : Reply.kind received (.frame (.constant message : Text τ)) = .error := rfl

@[simp]
theorem kind_json : Reply.kind received (.response .ok (.printed t)) = .serialisation t := rfl

@[simp]
theorem kind_empty : Reply.kind received (.response .ok (.empty : Body τ)) = .acknowledgement := rfl

@[simp]
theorem kind_refused {status : HttpStatus} (h : status ≠ .ok) :
    Reply.kind received (.response status (.empty : Body τ)) = .error := by
  cases status with
  | ok => exact absurd rfl h
  | _ => rfl

@[simp]
theorem kind_raw (n : Nat) : Reply.kind received (.response .ok (.received n : Body τ)) =
    if n = 0 ∨ (n : Int) = received then .acknowledgement else .other := rfl

end Kinds

def World.result (w : World τ) (refused : List Queue) : Int × Option τ :=
  if w.routed.status ≠ API_JSON_ASYNC then (w.routed.status, w.routed.out)
  else if .longRun ∈ refused then (-1, none)
  else if .sendOut ∈ refused then (-1, w.module.2)
  else w.module

def World.due (w : World τ) (refused : List Queue) : Kind τ :=
  if w.parses then
    if (w.result refused).1 ≠ API_JSON_OK then .error
    else match (w.result refused).2 with
      | some t => if w.fits t then .serialisation t else .error
      | none => .acknowledgement
  else .error

def World.tree (w : World τ) (refused : List Queue) : Option τ :=
  if w.parses then (w.result refused).2 else none

/-- One reply of the kind that is due, and the tree deleted once. -/
structure Agrees (w : World τ) (x : Outcome τ) : Prop where
  reply : x.replies.map (Reply.kind w.recvBody) = [w.due x.refused]
  tree : x.deleted = (w.tree x.refused).toList

/-- The module did not answer, or its answer was not taken. -/
def World.fails (w : World τ) (refused : List Queue) : Prop :=
  .sendOut ∈ refused ∨ w.module.1 ≠ API_JSON_OK

/-- When a request gets the reply it is due. -/
def Answerable (w : World τ) (refused : List Queue) (front : Front) : Prop :=
  w.parses →
    if w.routed.status = API_JSON_ASYNC then
      match front with
      | .ws => .longRun ∉ refused ∧ (w.fails refused ↔ w.module.2 = none) ∧ .work ∉ refused
      | .http => .longRun ∈ refused ∨
          (w.fails refused → ∀ t ∈ w.module.2, w.fits t = false) ∧
          (¬ w.fails refused → w.module.2 = none →
            w.strlen = 0 ∨ (w.strlen : Int) = w.recvBody)
    else w.routed.status = API_JSON_OK ∨ w.routed.out = none

/-- What the handler of a request that is served at once sends in a frame. -/
def World.frame (w : World τ) (payload : Text τ) : Text τ :=
  if w.routed.status ≠ API_JSON_OK then UriWs.wsSetErrMsg w.routed.status
  else if w.routed.out.isNone then payload else w.text w.routed.out

theorem wsOnTextData_gives (w : World τ) (m : Msg τ) (P : Outcome τ → Prop) :
    Gives w P (UriWs.wsOnTextData m >>= fun _ => .ret ()) ↔
      if w.parses then
        if w.routed.status = API_JSON_ASYNC then
          Gives w P (reqLongTask { m with out := w.routed.out }) ∧
            P ⟨[.frame m.payload], [], [.longRun]⟩
        else P ⟨[.frame (w.frame m.payload)],
          if w.routed.status = API_JSON_OK then w.routed.out.toList else [], []⟩
      else P ⟨[.frame (.constant MSG_JSON_ERROR)], [], []⟩ := by
  simp only [UriWs.wsOnTextData, perform_bind, op_bind, ne_eq, reduceCtorEq, not_false_eq_true,
    gives_answer]
  cases hparses : w.parses with
  | false => simp [hparses, putBuf_gives]
  | true =>
      simp only [World.answer, hparses, if_true, op_bind, ne_eq, reduceCtorEq, not_false_eq_true,
        gives_answer, Outcome.after]
      by_cases hasync : w.routed.status = API_JSON_ASYNC
      · simp [hasync, finish_gives]
      simp only [hasync, if_false]
      by_cases hok : w.routed.status = API_JSON_OK
      · by_cases hout : w.routed.out = none
        · simp [hok, hout, finish_gives, World.frame]
        · simp [hok, hout, Programs.bind_assoc, jsonToText_gives, finish_gives, World.frame]
      · simp [hok, finish_gives, World.frame]

/-- What `/api` answers to a request that is served at once. -/
def World.body (w : World τ) : Reply τ :=
  if w.routed.status ≠ API_JSON_OK then .response .badRequest .empty
  else if w.routed.out.isNone then .response .ok .empty
  else w.response w.routed.out 0

theorem apiPostHandler_gives (w : World τ) (contentLen : Nat) (hlen : contentLen ≤ API_BUF_LEN)
    (hbody : 0 < w.recvBody) (P : Outcome τ → Prop)
    (h : ∀ b, if w.parses then
        if w.routed.status = API_JSON_ASYNC then
          Gives w P (reqLongTask ⟨.http, b, w.routed.out, .received⟩) ∧
            P ⟨[.response .busy .empty], [], [.longRun]⟩
        else P ⟨[w.body], if w.routed.status = API_JSON_OK then w.routed.out.toList else [], []⟩
      else P ⟨[.response .badRequest .empty], [], []⟩) :
    Gives w P (UriApi.apiPostHandler contentLen >>= fun _ => .ret ()) := by
  rw [UriApi.apiPostHandler, if_neg (Nat.not_lt.mpr hlen)]
  simp only [perform_bind, op_bind, gives_op .poolGet]
  intro b _
  have hb := h b
  simp only [Outcome.after, ne_eq, reduceCtorEq, not_false_eq_true, gives_answer, World.answer,
    Int.not_le.mpr hbody, if_false, op_bind]
  by_cases hparses : w.parses = true
  · simp only [hparses, if_true, op_bind, ne_eq, reduceCtorEq, not_false_eq_true, gives_answer,
      World.answer, Outcome.after] at hb ⊢
    by_cases hasync : w.routed.status = API_JSON_ASYNC
    · simpa [hasync, apiFinish_gives] using hb
    simp only [hasync, if_false] at hb ⊢
    by_cases hok : w.routed.status = API_JSON_OK
    · by_cases hout : w.routed.out = none
      · simpa [hok, hout, apiFinish_gives, World.body] using hb
      · simpa [hok, hout, Programs.bind_assoc, uriApiSendOut_gives, World.body] using hb
    · simpa [hok, apiFinish_gives, World.body] using hb
  · simp only [hparses] at hb ⊢
    exact (apiFinish_gives w _ P false .badRequest).mpr hb

def Request.front : Request → Front
  | .post _ => .http
  | _ => .ws

/-- A request with a text that the handler reads as JSON. -/
def World.sendsJson (w : World τ) : Request → Prop
  | .frame => w.head.err = ESP_OK ∧ w.head.len ≤ PAYLOAD_LEN ∧ w.head.type = .text ∧
      w.recvFrame = ESP_OK
  | .post contentLen => contentLen ≤ API_BUF_LEN ∧ 0 < w.recvBody
  | .get _ => False

theorem wsReqHandler_gives (w : World τ) (hjson : w.sendsJson .frame) (P : Outcome τ → Prop)
    (h : ∀ b, Gives w P (UriWs.wsOnTextData ⟨.ws, b, none, .received⟩ >>= fun _ => .ret ())) :
    Gives w P (UriWs.wsReqHandler >>= fun _ => .ret ()) := by
  obtain ⟨herr, hlen, htype, hrecv⟩ := hjson
  simp only [UriWs.wsReqHandler, perform_bind, op_bind, gives_op .poolGet]
  intro b _
  simp only [Outcome.after, ne_eq, reduceCtorEq, not_false_eq_true, gives_answer, World.answer, herr,
    htype, Nat.not_lt.mpr hlen, not_true_eq_false, if_false, op_bind, hrecv]
  exact h b

theorem kind_wsSetErrMsg (received status : Int) :
    Reply.kind (τ := τ) received (.frame (UriWs.wsSetErrMsg status)) = .error := by
  simp only [UriWs.wsSetErrMsg]
  split
  · rfl
  split
  · rfl
  split
  · rfl
  split
  · rfl
  · rfl

theorem agrees_iff (w : World τ) (x : Outcome τ) : Agrees w x ↔
    x.replies.map (Reply.kind w.recvBody) = [w.due x.refused] ∧
      x.deleted = (w.tree x.refused).toList :=
  ⟨fun h => ⟨h.reply, h.tree⟩, fun h => ⟨h.1, h.2⟩⟩

section Agreement

attribute [local simp] World.text

variable {w : World τ} {refused : List Queue}

theorem tree_unparsed (hparses : ¬ w.parses = true) : w.tree refused = none := if_neg hparses

theorem tree_parsed (hparses : w.parses = true) : w.tree refused = (w.result refused).2 :=
  if_pos hparses

theorem due_unparsed (hparses : ¬ w.parses = true) : w.due refused = .error := if_neg hparses

theorem due_parsed (hparses : w.parses = true) : w.due refused =
    if (w.result refused).1 ≠ API_JSON_OK then .error
    else match (w.result refused).2 with
      | some t => if w.fits t then .serialisation t else .error
      | none => .acknowledgement := if_pos hparses

theorem result_sync (hasync : w.routed.status ≠ API_JSON_ASYNC) :
    w.result refused = (w.routed.status, w.routed.out) := if_pos hasync

theorem result_async (hasync : w.routed.status = API_JSON_ASYNC) : w.result refused =
    if .longRun ∈ refused then (-1, none)
    else if .sendOut ∈ refused then (-1, w.module.2)
    else w.module := if_neg (not_not.mpr hasync)

theorem answerable_sync (hparses : w.parses = true) (hasync : w.routed.status ≠ API_JSON_ASYNC)
    (front : Front) : Answerable w refused front ↔
      w.routed.status = API_JSON_OK ∨ w.routed.out = none := by
  simp only [Answerable, hparses, forall_const, if_neg hasync]

theorem answerable_async (hparses : w.parses = true) (hasync : w.routed.status = API_JSON_ASYNC)
    (front : Front) : Answerable w refused front ↔
      match front with
      | .ws => .longRun ∉ refused ∧ (w.fails refused ↔ w.module.2 = none) ∧ .work ∉ refused
      | .http => .longRun ∈ refused ∨
          (w.fails refused → ∀ t ∈ w.module.2, w.fits t = false) ∧
          (¬ w.fails refused → w.module.2 = none →
            w.strlen = 0 ∨ (w.strlen : Int) = w.recvBody) := by
  simp only [Answerable, hparses, forall_const, if_pos hasync]

theorem agrees_unparsed (hparses : ¬ w.parses = true) {r : Reply τ} (front : Front)
    (hr : r.kind w.recvBody = .error) :
    Agrees w ⟨[r], [], []⟩ ↔ Answerable w [] front := by
  refine iff_of_true ⟨?_, ?_⟩ fun h => absurd h hparses
  · rw [due_unparsed hparses, List.map_singleton, hr]
  · rw [tree_unparsed hparses]
    rfl

theorem agrees_sync (hparses : w.parses = true) (hasync : w.routed.status ≠ API_JSON_ASYNC)
    {r : Reply τ} (front : Front) (hr : r.kind w.recvBody = w.due []) :
    Agrees w ⟨[r], if w.routed.status = API_JSON_OK then w.routed.out.toList else [], []⟩ ↔
      Answerable w [] front := by
  rw [agrees_iff, answerable_sync hparses hasync, tree_parsed hparses, result_sync hasync]
  by_cases hok : w.routed.status = API_JSON_OK
  · simp [hok, hr]
  · cases hout : w.routed.out with
    | none => simp [hok, hr]
    | some t => simp [hok, hr]

theorem kind_frame (hparses : w.parses = true) (hasync : w.routed.status ≠ API_JSON_ASYNC) :
    (Reply.frame (w.frame .received)).kind w.recvBody = w.due [] := by
  rw [due_parsed hparses, result_sync hasync, World.frame]
  by_cases hok : w.routed.status = API_JSON_OK
  · cases hout : w.routed.out with
    | none => simp [hok]
    | some t => cases hfits : w.fits t <;> simp [hok, hfits]
  · simp [hok, kind_wsSetErrMsg]

theorem kind_response (err : Int) (t : τ) : (w.response (some t) err).kind w.recvBody =
    if w.fits t then .serialisation t else .error := by
  cases hfits : w.fits t <;> simp [World.response, hfits]

theorem kind_body (hparses : w.parses = true) (hasync : w.routed.status ≠ API_JSON_ASYNC) :
    w.body.kind w.recvBody = w.due [] := by
  rw [due_parsed hparses, result_sync hasync, World.body]
  by_cases hok : w.routed.status = API_JSON_OK
  · cases hout : w.routed.out with
    | none => simp [hok]
    | some t => simp [hok, kind_response]
  · simp [hok]

section Async

variable (hparses : w.parses = true) (hasync : w.routed.status = API_JSON_ASYNC)

include hparses hasync

theorem agrees_longRun_ws :
    ¬ Agrees w ⟨[.frame .received], [], [.longRun]⟩ := by
  rw [agrees_iff, due_parsed hparses, result_async hasync]
  simp [API_JSON_OK]

theorem agrees_longRun_http : Agrees w ⟨[.response .busy .empty], [], [.longRun]⟩ := by
  rw [agrees_iff, due_parsed hparses, tree_parsed hparses, result_async hasync]
  simp [API_JSON_OK]

theorem agrees_fails (hnot : .longRun ∉ refused) (hfails : w.fails refused) (rs : List (Reply τ))
    (deleted : List τ) : Agrees w ⟨rs, deleted, refused⟩ ↔
      rs.map (Reply.kind w.recvBody) = [.error] ∧ deleted = w.module.2.toList := by
  rw [agrees_iff, due_parsed hparses, tree_parsed hparses, result_async hasync]
  by_cases hfull : .sendOut ∈ refused
  · simp [hnot, hfull, API_JSON_OK]
  · simp [hnot, hfull, hfails.resolve_left hfull]

theorem agrees_served (hnot : .longRun ∉ refused) (hfails : ¬ w.fails refused)
    (rs : List (Reply τ)) (deleted : List τ) : Agrees w ⟨rs, deleted, refused⟩ ↔
      rs.map (Reply.kind w.recvBody) = [match w.module.2 with
        | some t => if w.fits t then .serialisation t else .error
        | none => .acknowledgement] ∧ deleted = w.module.2.toList := by
  obtain ⟨hfull, hok⟩ := not_or.mp hfails
  rw [agrees_iff, due_parsed hparses, tree_parsed hparses, result_async hasync, if_neg hnot,
    if_neg hfull, if_neg hok]

theorem agrees_error_ws {status : Int} (hnot : .longRun ∉ refused) (hfails : w.fails refused)
    (hwork : .work ∉ refused) : Agrees w ⟨[.frame (UriWs.wsSetErrMsg status)], [], refused⟩ ↔
      Answerable w refused .ws := by
  rw [agrees_fails hparses hasync hnot hfails, answerable_async hparses hasync]
  cases hout : w.module.2 with
  | none => simp [kind_wsSetErrMsg, hnot, hfails, hwork]
  | some t => simp [hfails]

theorem agrees_text_ws (hserved : ¬ w.fails []) :
    Agrees w ⟨[.frame (w.text w.module.2)], w.module.2.toList, []⟩ ↔ Answerable w [] .ws := by
  rw [agrees_served hparses hasync List.not_mem_nil hserved, answerable_async hparses hasync]
  cases hout : w.module.2 with
  | none => simp [hserved]
  | some t => cases hfits : w.fits t <;> simp [hserved, hfits]

theorem agrees_work_ws (hserved : ¬ w.fails [.work]) :
    Agrees w ⟨[], w.module.2.toList, [.work]⟩ ↔ Answerable w [.work] .ws := by
  have hnot : Queue.longRun ∉ [Queue.work] := by decide
  rw [agrees_served hparses hasync hnot hserved, answerable_async hparses hasync]
  simp

theorem agrees_http {err : Int} (hnot : .longRun ∉ refused)
    (herr : err ≠ 0 ↔ w.fails refused) :
    Agrees w ⟨[w.response w.module.2 err], w.module.2.toList, refused⟩ ↔
      Answerable w refused .http := by
  rw [answerable_async hparses hasync]
  by_cases hfails : w.fails refused
  · rw [agrees_fails hparses hasync hnot hfails]
    cases hout : w.module.2 with
    | none => simp [World.response, herr.mpr hfails, hnot, hfails]
    | some t => cases hfits : w.fits t <;> simp [kind_response, hfits, hnot, hfails]
  · rw [agrees_served hparses hasync hnot hfails]
    have hzero : err = 0 := not_not.mp (mt herr.mp hfails)
    cases hout : w.module.2 with
    | none =>
        simpa [World.response, hzero, hnot, hfails] using or_iff_not_imp_left.symm
    | some t => cases hfits : w.fits t <;> simp [kind_response, hfits, hnot, hfails]

end Async

end Agreement

/-- The outcome is the one that the client is due, under the condition and only then. -/
def Exact (w : World τ) (front : Front) (x : Outcome τ) : Prop :=
  Agrees w x ↔ Answerable w x.refused front

section Requests

variable {w : World τ}

theorem reqLongTask_exact (hparses : w.parses = true) (hasync : w.routed.status = API_JSON_ASYNC)
    (m : Msg τ) : Gives w (Exact w m.front) (reqLongTask m) := by
  have hfull : w.fails [.sendOut] := .inl (List.mem_singleton_self _)
  have hlong : Queue.longRun ∉ [Queue.sendOut] := by decide
  have hwork : Queue.work ∉ [Queue.sendOut] := by decide
  have hfails : ∀ refused, .sendOut ∉ refused → (w.fails refused ↔ w.module.1 ≠ API_JSON_OK) :=
    fun refused hnot => or_iff_right hnot
  rw [reqLongTask_gives, sendOutCb_gives, sendOutCb_gives]
  cases hfront : m.front with
  | ws =>
      simp only [wsSendOutCb_gives]
      refine ⟨?_, ?_⟩
      · split
        next hok =>
          exact agrees_error_ws hparses hasync List.not_mem_nil (.inr hok) List.not_mem_nil
        next hok =>
          refine ⟨agrees_text_ws hparses hasync ?_, agrees_work_ws hparses hasync ?_⟩
          · rwa [hfails _ List.not_mem_nil]
          · rwa [hfails _ (by decide)]
      · exact agrees_error_ws hparses hasync hlong hfull hwork
  | http =>
      simp only [apiSendOutCb_gives]
      refine ⟨agrees_http hparses hasync List.not_mem_nil ?_, agrees_http hparses hasync hlong ?_⟩
      · exact (hfails _ List.not_mem_nil).symm
      · exact iff_of_true (by decide) hfull

theorem serve_exact {f : Request} (hjson : w.sendsJson f) :
    Gives w (Exact w f.front) (serve f) := by
  cases f with
  | get uri => exact hjson.elim
  | frame =>
      apply wsReqHandler_gives w hjson
      intro b
      rw [wsOnTextData_gives]
      split
      next hparses =>
        split
        next hasync =>
          refine ⟨reqLongTask_exact hparses hasync _, ?_⟩
          refine iff_of_false (agrees_longRun_ws hparses hasync) fun h => ?_
          exact ((answerable_async hparses hasync .ws).mp h).1 (List.mem_singleton_self _)
        next hasync =>
          exact agrees_sync hparses hasync .ws (kind_frame hparses hasync)
      next hparses => exact agrees_unparsed hparses .ws rfl
  | post contentLen =>
      apply apiPostHandler_gives w contentLen hjson.1 hjson.2
      intro b
      split
      next hparses =>
        split
        next hasync =>
          refine ⟨reqLongTask_exact hparses hasync _, ?_⟩
          refine iff_of_true (agrees_longRun_http hparses hasync) ?_
          exact (answerable_async hparses hasync .http).mpr (.inl (List.mem_singleton_self _))
        next hasync =>
          exact agrees_sync hparses hasync .http (kind_body hparses hasync)
      next hparses => exact agrees_unparsed hparses .http rfl

end Requests

/-- A JSON request gets the one reply it is due, and its tree is deleted once, if and only if the
condition holds. -/
theorem always_agrees_iff (w : World τ) (acts : List (Action Task Queue (World τ) Request)) :
    Transition.Always (step server)
      (fun s => ∀ r, s.Finished r → (s.world r).sendsJson (s.front r) →
      (Agrees (s.world r) (outcome (s.trace r)) ↔
        Answerable (s.world r) (outcome (s.trace r)).refused (s.front r).front))
      (boot w) acts := by
  apply (always_traced w acts).mono
  intro s hs r hfin hjson
  exact serve_exact hjson _ ((hs.finished hfin).mono fun _ _ => answers_of_told)

/-- A frame that finds the long-run queue full is sent back as it came. -/
theorem not_agrees_full : ¬ Transition.Always (step server) (fun s => ∀ r, s.Finished r →
    (s.world r).sendsJson (s.front r) → Agrees (s.world r) (outcome (s.trace r)))
    (boot laterWorld) threeFrames := by
  intro h
  have hrun : ∃ s, Transition.run (step server) (boot laterWorld) threeFrames = some s ∧
      s.Finished 2 ∧ s.front 2 = .frame ∧ s.world 2 = laterWorld ∧
      outcome (s.trace 2) = ⟨[.frame .received], [], [.longRun]⟩ :=
    ⟨_, rfl, ⟨by decide, rfl⟩, rfl, rfl, rfl⟩
  obtain ⟨s, hrun, hfin, hfront, hworld, houtcome⟩ := hrun
  have hagrees := h.of_run hrun 2 hfin
  rw [hfront, hworld, houtcome] at hagrees
  exact agrees_longRun_ws rfl rfl (hagrees ⟨rfl, by decide, rfl, rfl⟩)

end WirelessEsp.ApiServer
