import WirelessEsp.ApiServer
import WirelessEsp.Lifetimes

namespace WirelessEsp.ApiServer

open Programs Lifetimes

variable {τ : Type}

abbrev Happening (τ : Type) := Event (Op τ) Op.Ans (Item τ)

def got : Happening τ → Option Buf
  | .did .poolGet b => some b
  | _ => none

def returned : Happening τ → Option Buf
  | .did (.poolPut b) _ => some b
  | _ => none

def gets (es : List (Happening τ)) : List Buf := es.filterMap got

def puts (es : List (Happening τ)) : List Buf := es.filterMap returned

/-- The buffer of a request. Nothing is done for the request when it is given back. -/
def buffer : Resource (Happening τ) where
  takes e := (got e).isSome
  frees e := (returned e).isSome
  uses _ := true

def jsonIn : Resource (Happening τ) where
  takes
    | .did .parse parsed => parsed
    | _ => false
  frees
    | .did .deleteIn _ => true
    | _ => false
  uses
    | .did .route _ | .did .runModule _ | .gave (.longRun _) true => true
    | _ => false

/-- The call of `send_out.cb` that is due for a request in the long-run queue. -/
def callback : Resource (Happening τ) where
  takes
    | .gave (.longRun _) true => true
    | _ => false
  frees
    | .did (.sendOutCb _) _ => true
    | _ => false
  uses _ := false

structure Ledger where
  buffer : Stage
  jsonIn : Stage
  callback : Stage
  held : List Buf

structure Ledger.Settled (l : Ledger) (es : List (Happening τ)) : Prop where
  buffer : ApiServer.buffer.Closes l.buffer es
  jsonIn : ApiServer.jsonIn.Closes l.jsonIn es
  callback : ApiServer.callback.Closes l.callback es
  puts : puts es = l.held ++ gets es

inductive Op.Neutral : Op τ → Prop
  | recvHead : Neutral .recvHead
  | recvFrame (max : Nat) : Neutral (.recvFrame max)
  | recvBody : Neutral .recvBody
  | print (out : Option τ) : Neutral (.print out)
  | deleteOut (out : Option τ) : Neutral (.deleteOut out)
  | strlen : Neutral .strlen
  | reply (r : Reply τ) : Neutral (.reply r)
  | sendPong : Neutral .sendPong
  | sendClose : Neutral .sendClose
  | rmFd : Neutral .rmFd
  | triggerClose : Neutral .triggerClose
  | asyncBegin : Neutral .asyncBegin
  | asyncComplete : Neutral .asyncComplete
  | sendFile : Neutral .sendFile

attribute [simp] Op.Neutral.recvHead Op.Neutral.recvFrame Op.Neutral.recvBody Op.Neutral.print
  Op.Neutral.deleteOut Op.Neutral.strlen Op.Neutral.reply Op.Neutral.sendPong Op.Neutral.sendClose
  Op.Neutral.rmFd Op.Neutral.triggerClose Op.Neutral.asyncBegin Op.Neutral.asyncComplete
  Op.Neutral.sendFile

section Ledger

variable {es : List (Happening τ)} {s t c : Stage} {held : List Buf} {b : Buf}

theorem settled_cons {e : Happening τ} {l l' : Ledger}
    (hbuffer : buffer.next l.buffer e = some l'.buffer)
    (hjsonIn : jsonIn.next l.jsonIn e = some l'.jsonIn)
    (hcallback : callback.next l.callback e = some l'.callback)
    (hputs : puts (e :: es) = l.held ++ gets (e :: es) ↔ puts es = l'.held ++ gets es) :
    l.Settled (e :: es) ↔ l'.Settled es := by
  constructor
  · rintro ⟨⟨b, hb, hbs⟩, ⟨t, ht, hts⟩, ⟨c, hc, hcs⟩, hheld⟩
    rw [hbuffer, Option.some.injEq] at hb
    rw [hjsonIn, Option.some.injEq] at ht
    rw [hcallback, Option.some.injEq] at hc
    exact ⟨hb ▸ hbs, ht ▸ hts, hc ▸ hcs, hputs.mp hheld⟩
  · rintro ⟨hbs, hts, hcs, hheld⟩
    exact ⟨⟨_, hbuffer, hbs⟩, ⟨_, hjsonIn, hts⟩, ⟨_, hcallback, hcs⟩, hputs.mpr hheld⟩

@[simp]
theorem settled_poolGet :
    Ledger.Settled ⟨.untaken, .untaken, .untaken, []⟩ (.did .poolGet b :: es) ↔
      Ledger.Settled ⟨.held, .untaken, .untaken, [b]⟩ es :=
  settled_cons rfl rfl rfl Iff.rfl

@[simp]
theorem settled_did {o : Op τ} {a : o.Ans} (hs : s ≠ .freed) (ho : o.Neutral) :
    Ledger.Settled ⟨s, t, c, held⟩ (.did o a :: es) ↔ Ledger.Settled ⟨s, t, c, held⟩ es := by
  have hbuffer : buffer.next s (.did o a) = some s := by
    cases s with
    | freed => exact absurd rfl hs
    | untaken | held => cases ho <;> rfl
  have hjsonIn : jsonIn.next t (.did o a) = some t := by cases t <;> cases ho <;> rfl
  have hcallback : callback.next c (.did o a) = some c := by cases c <;> cases ho <;> rfl
  apply settled_cons hbuffer hjsonIn hcallback
  cases ho <;> rfl

@[simp]
theorem settled_refused {item : Item τ} :
    Ledger.Settled ⟨.held, t, c, held⟩ (.gave item false :: es) ↔
      Ledger.Settled ⟨.held, t, c, held⟩ es := by
  have hjsonIn : jsonIn.next t (.gave item false) = some t := by cases t <;> cases item <;> rfl
  have hcallback : callback.next c (.gave item false) = some c := by
    cases c <;> cases item <;> rfl
  exact settled_cons rfl hjsonIn hcallback Iff.rfl

@[simp]
theorem settled_sendOut {m : Msg τ} {status : Int} :
    Ledger.Settled ⟨.held, t, c, held⟩ (.gave (.sendOut m status) true :: es) ↔
      Ledger.Settled ⟨.held, t, c, held⟩ es := by
  cases t <;> cases c <;> exact settled_cons rfl rfl rfl Iff.rfl

@[simp]
theorem settled_work {m : Msg τ} :
    Ledger.Settled ⟨.held, t, c, held⟩ (.gave (.work m) true :: es) ↔
      Ledger.Settled ⟨.held, t, c, held⟩ es := by
  cases t <;> cases c <;> exact settled_cons rfl rfl rfl Iff.rfl

@[simp]
theorem settled_parse {parsed : Bool} :
    Ledger.Settled ⟨.held, .untaken, c, held⟩ (.did .parse parsed :: es) ↔
      Ledger.Settled ⟨.held, if parsed then .held else .untaken, c, held⟩ es := by
  cases parsed <;> cases c <;> exact settled_cons rfl rfl rfl Iff.rfl

@[simp]
theorem settled_route {r : Routed τ} :
    Ledger.Settled ⟨.held, .held, c, held⟩ (.did .route r :: es) ↔
      Ledger.Settled ⟨.held, .held, c, held⟩ es := by
  cases c <;> exact settled_cons rfl rfl rfl Iff.rfl

@[simp]
theorem settled_runModule {r : Int × Option τ} :
    Ledger.Settled ⟨.held, .held, c, held⟩ (.did .runModule r :: es) ↔
      Ledger.Settled ⟨.held, .held, c, held⟩ es := by
  cases c <;> exact settled_cons rfl rfl rfl Iff.rfl

@[simp]
theorem settled_deleteIn {u : Unit} :
    Ledger.Settled ⟨.held, .held, c, held⟩ (.did .deleteIn u :: es) ↔
      Ledger.Settled ⟨.held, .freed, c, held⟩ es := by
  cases c <;> exact settled_cons rfl rfl rfl Iff.rfl

@[simp]
theorem settled_longRun {m : Msg τ} :
    Ledger.Settled ⟨.held, .held, .untaken, held⟩ (.gave (.longRun m) true :: es) ↔
      Ledger.Settled ⟨.held, .held, .held, held⟩ es :=
  settled_cons rfl rfl rfl Iff.rfl

@[simp]
theorem settled_sendOutCb {status : Int} {u : Unit} :
    Ledger.Settled ⟨.held, t, .held, held⟩ (.did (.sendOutCb status) u :: es) ↔
      Ledger.Settled ⟨.held, t, .freed, held⟩ es := by
  cases t <;> exact settled_cons rfl rfl rfl Iff.rfl

@[simp]
theorem settled_poolPut {u : Unit} (ht : t ≠ .held) (hc : c ≠ .held) :
    Ledger.Settled ⟨.held, t, c, [b]⟩ ([.did (.poolPut b) u] : List (Happening τ)) := by
  refine ⟨⟨.freed, rfl, ?_⟩, ⟨t, ?_, ht⟩, ⟨c, ?_, hc⟩, rfl⟩
  · exact Stage.noConfusion
  · cases t <;> rfl
  · cases c <;> rfl

end Ledger

/-- Every end that a request can come to is as `Q` says, whatever is answered. -/
abbrev Always (Q : List (Happening τ) → Prop) (code : Api τ Unit) : Prop :=
  Every consume (fun _ _ => True) Q code

section WebSocket

variable (m : Msg τ)

theorem wsOnClose_settled : Always (Ledger.Settled ⟨.held, .untaken, .untaken, [m.buf]⟩)
    (UriWs.wsOnClose m >>= fun _ => .ret ()) := by
  simp [UriWs.wsOnClose]

theorem putBuf_settled {t : Stage} (ht : t ≠ .held) :
    Always (Ledger.Settled ⟨.held, t, .untaken, [m.buf]⟩) (UriWs.putBuf m >>= fun _ => .ret ()) := by
  simp [UriWs.putBuf, UriWs.wsSend, ht]

theorem finish_settled : Always (Ledger.Settled ⟨.held, .held, .untaken, [m.buf]⟩)
    (UriWs.finish m >>= fun _ => .ret ()) := by
  simp [UriWs.finish, UriWs.putBuf, UriWs.wsSend]

theorem wsAsyncResp_settled :
    Always (Ledger.Settled ⟨.held, .freed, .freed, [m.buf]⟩) (UriWs.wsAsyncResp m) := by
  simp [UriWs.wsAsyncResp, UriWs.wsSend, call, perform]

theorem jsonToText_settled {t c : Stage} {held : List Buf} {next : Msg τ → Api τ Unit}
    (hnext : ∀ payload, Always (Ledger.Settled ⟨.held, t, c, held⟩) (next { m with payload })) :
    Always (Ledger.Settled ⟨.held, t, c, held⟩) (UriWs.jsonToText m >>= next) := by
  simp only [UriWs.jsonToText, perform_bind, op_bind, every_op]
  intro printed _ u _
  simp only [ne_eq, reduceCtorEq, not_false_eq_true, Op.Neutral.print, Op.Neutral.deleteOut,
    settled_did]
  split
  · exact hnext _
  · exact hnext _

theorem asyncSendOutCb_settled (status : Int) :
    Always (Ledger.Settled ⟨.held, .held, .freed, [m.buf]⟩) (UriWs.asyncSendOutCb m status) := by
  simp only [UriWs.asyncSendOutCb, perform_bind, every_op]
  intro u _
  split
  · simp [UriWs.wsSend, call, perform]
  · simp only [settled_deleteIn]
    apply jsonToText_settled m
    intro payload
    simp only [handOver_bind, every_give, settled_work, settled_refused]
    refine ⟨wsAsyncResp_settled _, ?_⟩
    simp [call, perform]

end WebSocket

section Api

variable (m : Msg τ)

theorem uriApiSendOut_settled {c : Stage} {held : List Buf} {err : Int} {next : Int → Api τ Unit}
    (hnext : ∀ res, Always (Ledger.Settled ⟨.held, .freed, c, held⟩) (next res)) :
    Always (Ledger.Settled ⟨.held, .held, c, held⟩) (UriApi.uriApiSendOut m err >>= next) := by
  simp only [UriApi.uriApiSendOut, perform_bind, op_bind, every_op, settled_deleteIn]
  intro u _
  split
  next tree hout =>
    simp only [op_bind, every_op]
    intro printed _ u _
    cases printed with
    | true => simp [call, hnext]
    | false => simp [call, hnext]
  next hout =>
    split
    · simp [call, hnext]
    · simp [call, hnext]

theorem apiFinish_settled (parsed : Bool) {status : HttpStatus} :
    Always (Ledger.Settled ⟨.held, if parsed then .held else .untaken, .untaken, [m.buf]⟩)
      (UriApi.finish m parsed status >>= fun _ => .ret ()) := by
  cases parsed with
  | true => simp [UriApi.finish, call]
  | false => simp [UriApi.finish, call]

theorem apiSendOutCb_settled (status : Int) :
    Always (Ledger.Settled ⟨.held, .held, .freed, [m.buf]⟩) (UriApi.asyncSendOutCb m status) := by
  rw [UriApi.asyncSendOutCb]
  split
  · simp only [perform_bind, every_op, ne_eq, reduceCtorEq, not_false_eq_true,
      Op.Neutral.triggerClose, settled_did]
    intro u _
    apply uriApiSendOut_settled m
    intro res
    simp [call, perform]
  · apply uriApiSendOut_settled m
    intro res
    simp [call, perform]

end Api

section Runner

variable (m : Msg τ)

theorem sendOutCb_settled (status : Int) :
    Always (Ledger.Settled ⟨.held, .held, .held, [m.buf]⟩) (sendOutCb m status) := by
  simp only [sendOutCb, perform_bind, every_op, settled_sendOutCb]
  intro u _
  split
  · exact asyncSendOutCb_settled m status
  · exact apiSendOutCb_settled m status

theorem reqLongTask_settled :
    Always (Ledger.Settled ⟨.held, .held, .held, [m.buf]⟩) (reqLongTask m) := by
  simp only [reqLongTask, perform_bind, every_op, settled_runModule, handOver_bind, every_give,
    settled_sendOut, settled_refused]
  exact fun r _ => ⟨sendOutCb_settled _ _, sendOutCb_settled _ _⟩

end Runner

theorem wsOnTextData_settled (m : Msg τ) :
    Always (Ledger.Settled ⟨.held, .untaken, .untaken, [m.buf]⟩)
      (UriWs.wsOnTextData m >>= fun _ => .ret ()) := by
  simp only [UriWs.wsOnTextData, perform_bind, op_bind, every_op, settled_parse]
  intro parsed _
  cases parsed with
  | false => exact putBuf_settled _ Stage.untaken_ne_held
  | true =>
      simp only [if_true, op_bind, every_op, settled_route]
      intro routed _
      split
      · simp only [handOver_bind, give_bind, every_give, settled_longRun, settled_refused]
        exact ⟨reqLongTask_settled _, finish_settled _⟩
      split
      · exact finish_settled _
      split
      · exact finish_settled _
      · rw [Programs.bind_assoc]
        exact jsonToText_settled _ fun payload => finish_settled { m with out := _, payload }

theorem wsReqHandler_settled : Always (τ := τ) (Ledger.Settled ⟨.untaken, .untaken, .untaken, []⟩)
    (UriWs.wsReqHandler >>= fun _ => .ret ()) := by
  simp only [UriWs.wsReqHandler, perform_bind, op_bind, every_op, settled_poolGet, ne_eq,
    reduceCtorEq, not_false_eq_true, Op.Neutral.recvHead, settled_did]
  intro b _ head _
  split
  · exact wsOnClose_settled ⟨.ws, b, none, .received⟩
  split
  · exact wsOnClose_settled ⟨.ws, b, none, .received⟩
  split
  · simp
  · simp
  · simp only [op_bind, every_op, ne_eq, reduceCtorEq, not_false_eq_true, Op.Neutral.recvFrame,
      settled_did]
    intro err _
    split
    · exact wsOnClose_settled ⟨.ws, b, none, .received⟩
    · exact wsOnTextData_settled ⟨.ws, b, none, .received⟩
  · simp [UriWs.wsOnBinaryData, call]
  · simp only [op_bind, every_op, ne_eq, reduceCtorEq, not_false_eq_true, Op.Neutral.recvFrame,
      settled_did]
    exact fun err _ => wsOnClose_settled ⟨.ws, b, none, .received⟩
  · simp only [op_bind, every_op, ne_eq, reduceCtorEq, not_false_eq_true, Op.Neutral.recvFrame,
      settled_did]
    intro err _
    split
    · exact wsOnClose_settled ⟨.ws, b, none, .received⟩
    simp only [op_bind, every_op, ne_eq, reduceCtorEq, not_false_eq_true, Op.Neutral.sendPong,
      settled_did]
    intro err _
    split
    · exact wsOnClose_settled ⟨.ws, b, none, .received⟩
    · simp
  · simp

theorem settled_nil {s t c : Stage} (hs : s ≠ .held) (ht : t ≠ .held) (hc : c ≠ .held) :
    Ledger.Settled ⟨s, t, c, []⟩ ([] : List (Happening τ)) :=
  ⟨hs, ht, hc, rfl⟩

theorem apiPostHandler_settled (contentLen : Nat) :
    Always (τ := τ) (Ledger.Settled ⟨.untaken, .untaken, .untaken, []⟩)
      (UriApi.apiPostHandler contentLen >>= fun _ => .ret ()) := by
  rw [UriApi.apiPostHandler]
  split
  · simp only [pure_eq, ret_bind, every_ret]
    exact settled_nil Stage.untaken_ne_held Stage.untaken_ne_held Stage.untaken_ne_held
  simp only [perform_bind, op_bind, every_op, settled_poolGet, ne_eq, reduceCtorEq,
    not_false_eq_true, Op.Neutral.recvBody, settled_did]
  intro b _ dataLen _
  split
  · simp
  simp only [op_bind, every_op, settled_parse]
  intro parsed _
  cases parsed with
  | false => exact apiFinish_settled ⟨.http, b, none, .received⟩ false
  | true =>
      simp only [if_true, op_bind, every_op, settled_route]
      intro routed _
      split
      · simp only [op_bind, every_op, ne_eq, reduceCtorEq, not_false_eq_true,
          Op.Neutral.asyncBegin, settled_did, handOver_bind, give_bind, every_give,
          settled_longRun, settled_refused, Op.Neutral.asyncComplete]
        intro _ _
        refine ⟨reqLongTask_settled _, fun _ _ => ?_⟩
        exact apiFinish_settled ⟨.http, b, routed.out, .received⟩ true
      split
      · exact apiFinish_settled ⟨.http, b, routed.out, .received⟩ true
      split
      · exact apiFinish_settled ⟨.http, b, routed.out, .received⟩ true
      · rw [Programs.bind_assoc]
        apply uriApiSendOut_settled
        intro res
        simp

namespace UriHtmlBase

/-- The requests for the schema, which are those for a URI that begins with "/SSD". -/
def AsksForSchema : Request → Prop
  | .get uri => uriHash uri = URI_SSDP
  | _ => False

end UriHtmlBase

theorem serve_settled (f : Request) (hf : ¬ UriHtmlBase.AsksForSchema f) :
    Always (τ := τ) (Ledger.Settled ⟨.untaken, .untaken, .untaken, []⟩) (serve f) := by
  cases f with
  | frame => exact wsReqHandler_settled
  | post contentLen => exact apiPostHandler_settled contentLen
  | get uri =>
      rw [UriHtmlBase.AsksForSchema] at hf
      simp only [serve, handler, UriHtmlBase.htmlBaseGetHandler, if_neg hf]
      split
      · simp [call, settled_nil]
      · simp [call, settled_nil]

theorem exists_told (w : World τ) (o : Op τ) : ∃ a, server.Says w o a := by
  cases o with
  | poolGet => exact ⟨0, [0], [], rfl⟩
  | poolPut b => exact ⟨(), [], [b], rfl⟩
  | _ => exact ⟨_, [], [], rfl⟩

theorem Always.lives {Q : List (Happening τ) → Prop} {code : Api τ Unit} (h : Always Q code)
    {w : World τ} {es : List (Happening τ)} (hes : server.Lives w code es) : Q es :=
  h es (hes.mono fun _ _ _ => trivial)

theorem always_traced (w : World τ) (acts : List (Action Task Queue (World τ) Request)) :
    Transition.Always (step server) (Traced server) (boot w) acts := by
  apply Transition.always_of_invariant fun s a t hs hstep => step_traced hs hstep
  exact ⟨fun r hr => absurd hr (Nat.not_lt_zero r), fun r hr => absurd hr (Nat.not_lt_zero r),
    fun _ _ hr => absurd hr nofun, fun _ _ hr => absurd hr List.not_mem_nil⟩

theorem gets_length (es : List (Happening τ)) : (gets es).length = es.countP buffer.takes :=
  List.length_filterMap_eq_countP

/-- What a request that is served from a buffer does with it, with its tree and with its callback,
up to any time and when it is finished. -/
structure Kept (s : System τ) (r : Nat) : Prop where
  buffer : buffer.Safe (s.trace r)
  jsonIn : jsonIn.Safe (s.trace r)
  callback : callback.Safe (s.trace r)
  held : s.Finished r ∨ s.Held r
  returned : s.Finished r → ∃ b, gets (s.trace r) = [b] ∧ puts (s.trace r) = [b]
  deleted : s.Finished r →
    (s.trace r).countP ApiServer.jsonIn.frees = (s.trace r).countP ApiServer.jsonIn.takes
  calledBack : s.Finished r →
    (s.trace r).countP ApiServer.callback.frees = (s.trace r).countP ApiServer.callback.takes

theorem frame_gets {w : World τ} {es : List (Happening τ)}
    (hes : server.Lives w (serve .frame) es) : ∃ b, gets es = [b] := by
  have hsettled := (serve_settled .frame nofun).lives hes
  cases hes with
  | @op o next b es hb hes =>
      have hnone := (Resource.closes_held (settled_poolGet.mp hsettled).buffer).1
      rw [← gets_length, List.length_eq_zero_iff] at hnone
      exact ⟨b, congrArg (b :: ·) hnone⟩

/-- A frame gives its buffer back once, has its tree deleted once and, when the long-run queue takes
it, `send_out.cb` called once. -/
theorem always_framesKept (w : World τ) (acts : List (Action Task Queue (World τ) Request)) :
    Transition.Always (step server) (fun s => ∀ r < s.made, s.front r = .frame → Kept s r) (boot w)
      acts := by
  apply (always_traced w acts).mono
  intro s hs r hr hframe
  obtain ⟨es, hes⟩ := hs.extends exists_told hr
  rw [hframe] at hes
  have hfront := (serve_settled .frame nofun).lives hes
  have hlives : s.Finished r → server.Lives (s.world r) (serve .frame) (s.trace r) := fun hfin =>
    hframe ▸ hs.finished hfin
  refine ⟨hfront.buffer.safe, hfront.jsonIn.safe, hfront.callback.safe, ?_, ?_, ?_, ?_⟩
  · exact (hs.held r hr).imp_left fun hrest => ⟨hr, hrest⟩
  · intro hfin
    obtain ⟨b, hb⟩ := frame_gets (hlives hfin)
    have hputs := ((serve_settled .frame nofun).lives (hlives hfin)).puts
    exact ⟨b, hb, hputs.trans hb⟩
  · exact fun hfin => ((serve_settled .frame nofun).lives (hlives hfin)).jsonIn.frees_eq
  · exact fun hfin => ((serve_settled .frame nofun).lives (hlives hfin)).callback.frees_eq

def Asynchronous (es : List (Happening τ)) : Prop :=
  ∃ routed : Routed τ, .did .route routed ∈ es ∧ routed.status = API_JSON_ASYNC

/-- The world of the text frame {"module":1,"cmd":2}, whose module asks to run it later. -/
def laterWorld : World Unit where
  head := ⟨ESP_OK, 20, .text⟩
  recvFrame := ESP_OK
  recvBody := 20
  parses := true
  routed := ⟨API_JSON_ASYNC, none, fun _ => rfl⟩
  module := (API_JSON_OK, some ())
  fits := fun _ => true
  strlen := 20
  reply := ESP_OK
  sendPong := ESP_OK
  sendClose := ESP_OK
  queueWork := ESP_OK

def threeFrames : List (Action Task Queue (World Unit) Request) :=
  (.start laterWorld .frame :: .replicate 6 (.run .httpd)) ++
    (.start laterWorld .frame :: .replicate 6 (.run .httpd)) ++
    (.start laterWorld .frame :: .replicate 9 (.run .httpd))

/-- `send_out.cb` is not called for the third one, which is answered at once. -/
theorem not_calledBack_full : ¬ Transition.Always (step server) (fun s => ∀ r, s.Finished r →
    s.front r = .frame → Asynchronous (s.trace r) → (s.trace r).countP callback.frees = 1)
    (boot laterWorld) threeFrames := by
  intro h
  have hrun : ∃ s, Transition.run (step server) (boot laterWorld) threeFrames = some s ∧
      s.Finished 2 ∧ s.front 2 = .frame ∧
      .did .route laterWorld.routed ∈ s.trace 2 ∧ (s.trace 2).countP callback.frees = 0 :=
    ⟨_, rfl, ⟨by decide, rfl⟩, rfl, List.mem_of_getElem? (i := 4) rfl, rfl⟩
  obtain ⟨s, hrun, hfin, hfront, hroute, hcount⟩ := hrun
  have hone := h.of_run hrun 2 hfin hfront ⟨_, hroute, rfl⟩
  rw [hcount] at hone
  exact absurd hone nofun

end WirelessEsp.ApiServer
