import WirelessEsp.EventRuns
import WirelessEsp.FrameParts
import WirelessEsp.WebsocketServer

namespace WirelessEsp.WebsocketAnswers

open EventRuns Rfc6455 FrameParts WebsocketServer

/-- The headers that the protocol defines, with a length that a `size_t` holds. -/
structure Known (h : Header) : Prop where
  rsv : h.rsv = 0
  opcode : h.opcode ∈ [WS_OPCODE_CONTINUATION, WS_OPCODE_TEXT, WS_OPCODE_BINARY, WS_OPCODE_CLOSE,
    WS_OPCODE_PING, WS_OPCODE_PONG]
  length : h.length < 2 ^ 32

instance (h : Header) : Decidable (Known h) :=
  decidable_of_iff (h.rsv = 0 ∧ h.opcode ∈ [WS_OPCODE_CONTINUATION, WS_OPCODE_TEXT,
      WS_OPCODE_BINARY, WS_OPCODE_CLOSE, WS_OPCODE_PING, WS_OPCODE_PONG] ∧ h.length < 2 ^ 32)
    ⟨fun ⟨h1, h2, h3⟩ => ⟨h1, h2, h3⟩, fun h => ⟨h.rsv, h.opcode, h.length⟩⟩

/-- What is left of the frames before: the opcode the last one was handled under, and whether
the rest of a text is skipped. -/
structure Dispatch where
  opcode : UInt8
  skip : Bool
deriving DecidableEq, Repr

def Dispatch.start : Dispatch := ⟨0, false⟩

def resolve (last own : UInt8) : UInt8 := if own = WS_OPCODE_CONTINUATION then last else own

def left (f : CutFrame) : Nat := f.header.length - f.earlier.flatten.length

def textPart (d : Dispatch) (data : List UInt8) (left : Nat) : List Event × Option Dispatch :=
  if d.skip then ([], some { d with skip := data.length != left })
  else if data.length = left then ([.processText data], some d)
  else if data.length > CONFIG_CO_WS_TEXT_BUFFER_SIZE then
    ([.sendMsgWithCode 3 "request too long"], some { d with skip := true })
  else if 0 < data.length then ([.nullWrite], none)
  else ([], some d)

def partAnswer (d : Dispatch) (f : CutFrame) (pong : List UInt8) : List Event × Option Dispatch :=
  if d.opcode = WS_OPCODE_TEXT then textPart d f.data (left f)
  else if d.opcode = WS_OPCODE_BINARY then ([.processBinary f.data], some d)
  else if d.opcode = WS_OPCODE_PING then ([.send pong], some d)
  else if d.opcode = WS_OPCODE_PONG then ([], some d)
  else if d.opcode = WS_OPCODE_CLOSE then
    ([.send [WS_FIN ||| WS_OPCODE_CLOSE, 0x02, 0x03, 0xe8]], none)
  else ([], some d)

def Whole (f : CutFrame) : Prop := f.earlier = [] ∧ f.header.length ≤ f.last.length

instance (f : CutFrame) : Decidable (Whole f) := inferInstanceAs (Decidable (_ ∧ _))

def pongOf (f : CutFrame) : List UInt8 :=
  ((WS_FIN ||| WS_OPCODE_PONG) :: (f.head ++ f.last).tail).take
    (2 + f.header.length + if f.header.key.isSome then 4 else 0)

def handedOn (d : Dispatch) (f : CutFrame) : List UInt8 :=
  if d.opcode = WS_OPCODE_PING then f.last else f.data

def Dispatch.under (d : Dispatch) (h : Header) : Dispatch :=
  { d with opcode := resolve d.opcode h.opcode }

theorem under_opcode {d : Dispatch} {h : Header} (hop : h.opcode ≠ WS_OPCODE_CONTINUATION) :
    (d.under h).opcode = h.opcode := if_neg hop

def headerEvent (d : Dispatch) (h : Header) : Event :=
  .header h.fin (resolve d.opcode h.opcode) h.key.isSome h.length

inductive Step : Dispatch → Item → List Event → Option Dispatch → Prop
  | header (d : Dispatch) (bs : List UInt8) :
      Step d (.header bs) [headerEvent d (headerOf bs)] (some (d.under (headerOf bs)))
  | part (d : Dispatch) (f : CutFrame) (pong : List UInt8)
      (whole : d.opcode = WS_OPCODE_PING → Whole f → pong = pongOf f) :
      Step d (.part f) (.payload (handedOn d f) :: (partAnswer d f pong).1) (partAnswer d f pong).2

/-- The state after an item; `none` where the session ends. -/
def Dispatch.next (d : Dispatch) : Item → Option Dispatch
  | .header bs => some (d.under (headerOf bs))
  | .part f => (partAnswer d f []).2

theorem partAnswer_result (d : Dispatch) (f : CutFrame) (pong : List UInt8) :
    (partAnswer d f pong).2 = (partAnswer d f []).2 := by
  rw [partAnswer, partAnswer]
  repeat' split
  all_goals rfl

theorem step_part {d : Dispatch} {f : CutFrame} {es : List Event} {r : Option Dispatch}
    (h : Step d (.part f) es r) :
    ∃ pong, (d.opcode = WS_OPCODE_PING → Whole f → pong = pongOf f) ∧
      es = .payload (handedOn d f) :: (partAnswer d f pong).1 ∧ r = (partAnswer d f pong).2 := by
  cases h with
  | part _ pong whole => exact ⟨pong, whole, rfl, rfl⟩

theorem step_result (d : Dispatch) (i : Item) (es : List Event) (r : Option Dispatch)
    (h : Step d i es r) : r = d.next i := by
  cases h with
  | header bs => rfl
  | part f pong _ => exact partAnswer_result d f pong

theorem textPart_opcode {d d' : Dispatch} {data : List UInt8} {n : Nat}
    (h : (textPart d data n).2 = some d') : d'.opcode = d.opcode := by
  rw [textPart] at h
  repeat' split at h
  all_goals cases h <;> rfl

theorem partAnswer_opcode {d d' : Dispatch} {f : CutFrame} {pong : List UInt8}
    (h : (partAnswer d f pong).2 = some d') : d'.opcode = d.opcode := by
  rw [partAnswer] at h
  split at h
  next => exact textPart_opcode h
  next =>
    repeat' split at h
    all_goals cases h <;> rfl

end WirelessEsp.WebsocketAnswers
