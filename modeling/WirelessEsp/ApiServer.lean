import WirelessEsp.LeWords
import WirelessEsp.Programs

namespace WirelessEsp.ApiServer

open Programs

def BUFFER_NR : Nat := 7
def BUFFER_SZ : Nat := 2048

/-- `PAYLOAD_LEN` of the WebSocket, whose `ws_msg_t` has 64 bytes. -/
def PAYLOAD_LEN : Nat := BUFFER_SZ - 64

/-- `buf_len` of `/api`, whose `post_request_t` has 44 bytes. -/
def API_BUF_LEN : Nat := BUFFER_SZ - 44

def API_JSON_OK : Int := 0
def API_JSON_ASYNC : Int := 1
def API_JSON_BAD_REQUEST : Int := 2
def API_JSON_UNSUPPORTED_CMD : Int := 4
def API_JSON_PROPERTY_ERR : Int := 5
def API_JSON_BUSY : Int := 6

def ESP_OK : Int := 0
def ESP_FAIL : Int := -1

def errorMsg (msg code : String) : String :=
  "\x7b\"error\":\"" ++ msg ++ "\", \"code\":" ++ code ++ "\x7d"

def MSG_BAD_REQUEST_ERROR : String := errorMsg "Bad json request" "2"
def MSG_JSON_ERROR : String := errorMsg "JSON parse error" "3"
def MSG_SEND_JSON_ERROR : String := errorMsg "JSON generation error" "3"
def MSG_INTERNAL_ERROR : String := errorMsg "Internal error" "3"
def MSG_UNSUPPORTED_CMD : String := errorMsg "Unsupported cmd" "4"
def MSG_PROPERTY_ERROR : String := errorMsg "Property error" "5"
def MSG_BUSY_ERROR : String := errorMsg "Resource busy" "6"

abbrev Buf := Nat

inductive FrameType
  | cont
  | text
  | binary
  | close
  | ping
  | pong
  | other
  deriving DecidableEq

/-- What `httpd_ws_recv_frame` says of a frame without reading its data. -/
structure Head where
  err : Int
  len : Nat
  type : FrameType

/-- What `api_json_route` returns and leaves in `json.out`. A module that asks to be run later does
not answer yet. -/
structure Routed (τ : Type) where
  status : Int
  out : Option τ
  async : status = API_JSON_ASYNC → out = none

inductive Text (τ : Type)
  | received
  | printed (t : τ)
  | constant (message : String)

inductive HttpStatus
  | ok
  | badRequest
  | internalError
  | busy
  deriving DecidableEq

/-- The body of a response: nothing, a printed tree, or `length` bytes from the start of the
received request. -/
inductive Body (τ : Type)
  | empty
  | printed (t : τ)
  | received (length : Nat)

inductive Reply (τ : Type)
  | frame (payload : Text τ)
  | response (status : HttpStatus) (body : Body τ)

/-- What the handlers do. `memory_pool_get` asserts that it has a buffer, and the branches for a
null pointer are left out. -/
inductive Op (τ : Type)
  | poolGet
  | poolPut (b : Buf)
  | recvHead
  | recvFrame (max : Nat)
  | recvBody
  | parse
  | route
  | runModule
  | sendOutCb (status : Int)
  | print (out : Option τ)
  | deleteIn
  | deleteOut (out : Option τ)
  | strlen
  | reply (r : Reply τ)
  | sendPong
  | sendClose
  | rmFd
  | triggerClose
  | asyncBegin
  | asyncComplete
  | sendFile
  | sendSchema

variable {τ : Type}

@[reducible]
def Op.Ans : Op τ → Type
  | .poolGet => Buf
  | .recvHead => Head
  | .recvFrame _ | .recvBody | .reply _ | .sendPong | .sendClose => Int
  | .parse | .print _ => Bool
  | .route => Routed τ
  | .runModule => Int × Option τ
  | .strlen => Nat
  | .poolPut _ | .sendOutCb _ | .deleteIn | .deleteOut _ | .rmFd | .triggerClose | .asyncBegin
  | .asyncComplete | .sendFile | .sendSchema => Unit

inductive Front
  | ws
  | http
  deriving DecidableEq

/-- `ws_msg_t` or `post_request_t`. `payload` is that of `ws_pkt`. -/
structure Msg (τ : Type) where
  front : Front
  buf : Buf
  out : Option τ
  payload : Text τ

inductive Item (τ : Type)
  | longRun (m : Msg τ)
  | sendOut (m : Msg τ) (status : Int)
  | work (m : Msg τ)

abbrev Api (τ α : Type) := Code (Op τ) Op.Ans (Item τ) α

abbrev call (o : Op τ) : Api τ o.Ans := perform o

namespace UriWs

def wsSetErrMsg (status : Int) : Text τ :=
  if status = API_JSON_BAD_REQUEST then .constant MSG_BAD_REQUEST_ERROR
  else if status = API_JSON_BUSY then .constant MSG_BUSY_ERROR
  else if status = API_JSON_UNSUPPORTED_CMD then .constant MSG_UNSUPPORTED_CMD
  else if status = API_JSON_PROPERTY_ERR then .constant MSG_PROPERTY_ERROR
  else .constant MSG_INTERNAL_ERROR

def wsSend (m : Msg τ) : Api τ Int := call (.reply (.frame m.payload))

def jsonToText (m : Msg τ) : Api τ (Msg τ) := do
  let printed ← call (.print m.out)
  call (.deleteOut m.out)
  match m.out, printed with
  | some t, true => pure { m with payload := .printed t }
  | _, _ => pure { m with payload := .constant MSG_SEND_JSON_ERROR }

def wsOnClose (m : Msg τ) : Api τ Int := do
  call .rmFd
  let err ← call .sendClose
  call .triggerClose
  call (.poolPut m.buf)
  pure err

def putBuf (m : Msg τ) : Api τ Int := do
  let _ ← wsSend m
  call (.poolPut m.buf)
  pure ESP_OK

def finish (m : Msg τ) : Api τ Int := do
  call .deleteIn
  putBuf m

def wsOnTextData (m : Msg τ) : Api τ Int := do
  let parsed ← call .parse
  if parsed then
    let routed ← call .route
    let m := { m with out := routed.out }
    if routed.status = API_JSON_ASYNC then
      handOver (.longRun m)
      finish m
    else if routed.status ≠ API_JSON_OK then finish { m with payload := wsSetErrMsg routed.status }
    else if routed.out.isNone then finish m
    else
      let m ← jsonToText m
      finish m
  else putBuf { m with payload := .constant MSG_JSON_ERROR }

def wsOnBinaryData (m : Msg τ) : Api τ Int := do
  call (.poolPut m.buf)
  pure 0

def wsReqHandler : Api τ Int := do
  let buf ← call .poolGet
  let m : Msg τ := ⟨.ws, buf, none, .received⟩
  let head ← call .recvHead
  if head.err ≠ ESP_OK then wsOnClose m
  else if head.len > PAYLOAD_LEN then wsOnClose m
  else match head.type with
    | .cont | .pong => do
        call (.poolPut buf)
        pure ESP_OK
    | .text => do
        let err ← call (.recvFrame head.len)
        if err ≠ ESP_OK then wsOnClose m else wsOnTextData m
    | .binary => wsOnBinaryData m
    | .close => do
        let _ ← call (.recvFrame 126)
        wsOnClose m
    | .ping => do
        let err ← call (.recvFrame 126)
        if err ≠ ESP_OK then wsOnClose m
        else
          let err ← call .sendPong
          if err ≠ ESP_OK then wsOnClose m
          else
            call (.poolPut buf)
            pure err
    | .other => do
        call (.poolPut buf)
        pure ESP_FAIL

def wsAsyncResp (m : Msg τ) : Api τ Unit := do
  let _ ← wsSend m
  call (.poolPut m.buf)

def asyncSendOutCb (m : Msg τ) (status : Int) : Api τ Unit := do
  call .deleteIn
  if status ≠ API_JSON_OK then
    let _ ← wsSend { m with payload := wsSetErrMsg status }
    call (.poolPut m.buf)
  else
    let m ← jsonToText m
    handOver (.work m)
    call (.poolPut m.buf)

end UriWs

namespace UriApi

def uriApiSendOut (m : Msg τ) (err : Int) : Api τ Int := do
  call .deleteIn
  match m.out with
  | some t => do
      let printed ← call (.print m.out)
      call (.deleteOut m.out)
      if printed then call (.reply (.response .ok (.printed t)))
      else call (.reply (.response .internalError .empty))
  | none =>
      if err ≠ 0 then call (.reply (.response .internalError .empty))
      else do
        let length ← call .strlen
        call (.reply (.response .ok (.received length)))

def finish (m : Msg τ) (parsed : Bool) (status : HttpStatus) : Api τ Int := do
  if parsed then call .deleteIn
  let err ← call (.reply (.response status .empty))
  call (.poolPut m.buf)
  pure err

def apiPostHandler (contentLen : Nat) : Api τ Int :=
  if API_BUF_LEN < contentLen then pure ESP_FAIL
  else do
    let buf ← call .poolGet
    let m : Msg τ := ⟨.http, buf, none, .received⟩
    let dataLen ← call .recvBody
    if dataLen ≤ 0 then
      call (.poolPut buf)
      pure ESP_FAIL
    else
      let parsed ← call .parse
      if parsed then
        let routed ← call .route
        let m := { m with out := routed.out }
        if routed.status = API_JSON_ASYNC then
          call .asyncBegin
          handOver (.longRun m)
          call .asyncComplete
          finish m true .busy
        else if routed.status ≠ API_JSON_OK then finish m true .badRequest
        else if routed.out.isNone then finish m true .ok
        else
          let err ← uriApiSendOut m 0
          call (.poolPut buf)
          pure err
      else finish m false .badRequest

def asyncSendOutCb (m : Msg τ) (status : Int) : Api τ Unit := do
  if status ≠ API_JSON_OK then call .triggerClose
  let _ ← uriApiSendOut m status
  call .asyncComplete
  call (.poolPut m.buf)

end UriApi

namespace UriHtmlBase

def URI_WS_DOT : UInt32 := LeWords.ofBytes 0x2F 0x77 0x73 0x2E
def URI_SSDP : UInt32 := LeWords.ofBytes 0x2F 0x53 0x53 0x44

def uriHash (uri : Nat → UInt8) : UInt32 := LeWords.ofBytes (uri 0) (uri 1) (uri 2) (uri 3)

def htmlBaseGetHandler (uri : Nat → UInt8) : Api τ Int := do
  if uriHash uri = URI_WS_DOT then call .sendFile
  else if uriHash uri = URI_SSDP then
    let _ ← call .poolGet
    call .sendSchema
  else call .sendFile
  pure ESP_OK

end UriHtmlBase

def sendOutCb (m : Msg τ) (status : Int) : Api τ Unit := do
  call (.sendOutCb status)
  match m.front with
  | .ws => UriWs.asyncSendOutCb m status
  | .http => UriApi.asyncSendOutCb m status

def reqLongTask (m : Msg τ) : Api τ Unit := do
  let (status, out) ← call .runModule
  let m := { m with out }
  handOver (.sendOut m status)
  sendOutCb m (-1)

/-- What a task does with an item: a round of `req_long_task` or of `req_send_out_task`, or the
work that is queued for the server. -/
def consume : Item τ → Api τ Unit
  | .longRun m => reqLongTask m
  | .sendOut m status => sendOutCb m status
  | .work m => UriWs.wsAsyncResp m

/-- A frame of a WebSocket, a POST to `/api`, or a GET of a page. -/
inductive Request
  | frame
  | post (contentLen : Nat)
  | get (uri : Nat → UInt8)

def handler : Request → Api τ Int
  | .frame => UriWs.wsReqHandler
  | .post contentLen => UriApi.apiPostHandler contentLen
  | .get uri => UriHtmlBase.htmlBaseGetHandler uri

def serve (f : Request) : Api τ Unit := do
  let _ ← handler f
  pure ()

/-- What the rest of the world answers for one request. `fits` tells whether a tree can be printed
into the buffer, and `strlen` how far the first NUL of the buffer with the request is. -/
structure World (τ : Type) where
  head : Head
  recvFrame : Int
  recvBody : Int
  parses : Bool
  routed : Routed τ
  module : Int × Option τ
  fits : τ → Bool
  strlen : Nat
  reply : Int
  sendPong : Int
  sendClose : Int
  queueWork : Int

def World.answer (w : World τ) : (o : Op τ) → o.Ans
  | .poolGet => 0
  | .recvHead => w.head
  | .recvFrame _ => w.recvFrame
  | .recvBody => w.recvBody
  | .parse => w.parses
  | .route => w.routed
  | .runModule => w.module
  | .print none => false
  | .print (some t) => w.fits t
  | .strlen => w.strlen
  | .reply _ => w.reply
  | .sendPong => w.sendPong
  | .sendClose => w.sendClose
  | .poolPut _ | .sendOutCb _ | .deleteIn | .deleteOut _ | .rmFd | .triggerClose | .asyncBegin
  | .asyncComplete | .sendFile | .sendSchema => ()

/-- The pool is a queue of its own; both of its functions assert that they can be done. -/
def answer (w : World τ) (pool : List Buf) : (o : Op τ) → Option (o.Ans × List Buf)
  | .poolGet => match pool with
      | [] => none
      | b :: pool => some (b, pool)
  | .poolPut b => if pool.length < BUFFER_NR then some ((), pool ++ [b]) else none
  | o => some (w.answer o, pool)

inductive Task
  | httpd
  | longTask
  | sendOutTask
  deriving DecidableEq

inductive Queue
  | longRun
  | sendOut
  | work
  deriving DecidableEq

def server : Machine (Op τ) Op.Ans (Item τ) Task Queue (List Buf) (World τ) Request where
  starter := .httpd
  entry := serve
  consume := consume
  queue
    | .longRun _ => .longRun
    | .sendOut _ _ => .sendOut
    | .work _ => .work
  takes
    | _, .longRun _, n => n < 2
    | _, .sendOut _ _, n => n < 4
    | w, .work _, _ => w.queueWork = ESP_OK
  serves
    | .longTask, .longRun | .sendOutTask, .sendOut | .httpd, .work => true
    | _, _ => false
  answer := answer

abbrev System (τ : Type) := State (Op τ) Op.Ans (Item τ) Task Queue (List Buf) (World τ) Request

def boot (w : World τ) : System τ where
  shared := List.range BUFFER_NR
  running := fun _ => none
  queued := fun _ => []
  made := 0
  world := fun _ => w
  front := fun _ => .frame
  rest := fun _ => .ret ()
  trace := fun _ => []

end WirelessEsp.ApiServer
