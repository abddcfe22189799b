import Mathlib.Data.List.TakeWhile
import Mathlib.Data.Nat.Digits.Lemmas
import WirelessEsp.UartBridge

namespace WirelessEsp.UartBridge

def digitChar (d : Nat) : UInt8 := UInt8.ofNat (0x30 + d)

def digitValue (b : UInt8) : Nat := b.toNat - 0x30

def decimalText (n : Nat) : List UInt8 := (Nat.digits 10 n).reverse.map digitChar

structure Canonical (n : Nat) (part : List UInt8) : Prop where
  text : part = decimalText n
  lower : 2 ≤ part.length
  upper : part.length ≤ 7
  bound : n < 2000000

section Digits

variable {b : UInt8} {bs : List UInt8} {n d : Nat}

theorem digitChar_toNat (hd : d < 10) : (digitChar d).toNat = 0x30 + d := by
  rw [digitChar, UInt8.toNat_ofNat']
  apply Nat.mod_eq_of_lt
  omega

theorem isDigit_iff : isDigit b = true ↔ 0x30 ≤ b.toNat ∧ b.toNat ≤ 0x39 := by
  rw [isDigit, Bool.and_eq_true, decide_eq_true_iff, decide_eq_true_iff, UInt8.le_iff_toNat_le,
    UInt8.le_iff_toNat_le]
  rfl

theorem isDigit_digitChar (hd : d < 10) : isDigit (digitChar d) = true := by
  rw [isDigit_iff, digitChar_toNat hd]
  omega

theorem digitValue_digitChar (hd : d < 10) : digitValue (digitChar d) = d := by
  rw [digitValue, digitChar_toNat hd, Nat.add_sub_cancel_left]

theorem digitValue_lt (h : isDigit b = true) : digitValue b < 10 := by
  rw [isDigit_iff] at h
  rw [digitValue]
  omega

theorem digitChar_digitValue (h : isDigit b = true) : digitChar (digitValue b) = b := by
  apply UInt8.toNat_inj.mp
  rw [digitChar_toNat (digitValue_lt h), digitValue]
  rw [isDigit_iff] at h
  omega

theorem not_isSpace_of_isDigit (h : isDigit b = true) : isSpace b = false := by
  rw [isDigit_iff] at h
  rw [isSpace, Bool.or_eq_false_iff, Bool.and_eq_false_iff, beq_eq_false_iff_ne]
  refine ⟨?_, .inr ?_⟩
  · rintro rfl
    exact absurd h.1 (by decide)
  · rw [decide_eq_false_iff_not, UInt8.le_iff_toNat_le]
    exact fun hle => absurd (h.1.trans hle) (by decide)

def digitValues (bs : List UInt8) : List Nat := ((bs.takeWhile isDigit).map digitValue).reverse

theorem digitValues_lt (bs : List UInt8) : ∀ d ∈ digitValues bs, d < 10 := by
  intro d hd
  obtain ⟨b, hb, rfl⟩ := List.mem_map.mp (List.mem_reverse.mp hd)
  exact digitValue_lt (List.mem_takeWhile_imp hb)

theorem digits_eq (n : Nat) (bs : List UInt8) :
    digits n bs = Nat.ofDigits 10 (digitValues bs) + 10 ^ (digitValues bs).length * n := by
  induction bs generalizing n with
  | nil => simp [digits, digitValues]
  | cons b bs ih =>
      by_cases hb : isDigit b = true
      · have hvalues : digitValues (b :: bs) = digitValues bs ++ [digitValue b] := by
          rw [digitValues, List.takeWhile_cons_of_pos hb, List.map_cons, List.reverse_cons]
          rfl
        rw [digits, if_pos hb, ih, hvalues, Nat.ofDigits_append, Nat.ofDigits_singleton,
          List.length_append, List.length_singleton, pow_succ, digitValue]
        ring
      · have hvalues : digitValues (b :: bs) = [] := by
          rw [digitValues, List.takeWhile_cons_of_neg hb]
          rfl
        rw [digits, if_neg hb, hvalues]
        simp

theorem digits_zero (bs : List UInt8) : digits 0 bs = Nat.ofDigits 10 (digitValues bs) := by
  rw [digits_eq, Nat.mul_zero, Nat.add_zero]

theorem digitValues_decimalText (n : Nat) : digitValues (decimalText n) = Nat.digits 10 n := by
  have hlt : ∀ d ∈ (Nat.digits 10 n).reverse, d < 10 :=
    fun d hd => Nat.digits_lt_base (by decide) (List.mem_reverse.mp hd)
  have htake : (decimalText n).takeWhile isDigit = decimalText n := by
    apply List.takeWhile_eq_self_iff.mpr
    intro b hb
    obtain ⟨d, hd, rfl⟩ := List.mem_map.mp hb
    exact isDigit_digitChar (hlt d hd)
  have hmap : (decimalText n).map digitValue = (Nat.digits 10 n).reverse := by
    rw [decimalText, List.map_map]
    apply (List.map_congr_left _).trans (List.map_id _)
    exact fun d hd => digitValue_digitChar (hlt d hd)
  rw [digitValues, htake, hmap, List.reverse_reverse]

theorem decimalText_length (n : Nat) : (decimalText n).length = (Nat.digits 10 n).length := by
  rw [decimalText, List.length_map, List.length_reverse]

theorem digitValues_length_le (bs : List UInt8) : (digitValues bs).length ≤ bs.length := by
  rw [digitValues, List.length_reverse, List.length_map]
  exact (List.takeWhile_sublist _).length_le

theorem digits_length_le (bs : List UInt8) :
    (Nat.digits 10 (digits 0 bs)).length ≤ (digitValues bs).length := by
  rw [Nat.digits_length_le_iff (by decide), digits_zero]
  exact Nat.ofDigits_lt_base_pow_length (by decide) (digitValues_lt bs)

theorem eq_decimalText (h : (Nat.digits 10 (digits 0 bs)).length = bs.length) :
    bs = decimalText (digits 0 bs) := by
  have hlen := digits_length_le bs
  have hle := digitValues_length_le bs
  have hvalues : digitValues bs = Nat.digits 10 (digits 0 bs) := by
    apply Nat.ofDigits_inj_of_len_eq (b := 10) (by decide) (by omega) (digitValues_lt bs)
    · exact fun d hd => Nat.digits_lt_base (by decide) hd
    · rw [Nat.ofDigits_digits, digits_zero]
  have htake : bs.takeWhile isDigit = bs := by
    apply (List.takeWhile_prefix isDigit).eq_of_length
    rw [digitValues, List.length_reverse, List.length_map] at hlen hle
    omega
  have hchars : bs.map (digitChar ∘ digitValue) = bs := by
    apply (List.map_congr_left _).trans (List.map_id _)
    intro b hb
    exact digitChar_digitValue (List.takeWhile_eq_self_iff.mp htake b hb)
  rw [decimalText, ← hvalues, digitValues, htake, List.reverse_reverse, List.map_map, hchars]

theorem numDigits_eq (hpos : 0 < n) (hn : n < 2000000) :
    numDigits n = (Nat.digits 10 n).length := by
  have hlen : ∀ k, 10 ^ k ≤ n → n < 10 ^ (k + 1) → (Nat.digits 10 n).length = k + 1 := by
    intro k hle hlt
    apply Nat.le_antisymm
    · exact (Nat.digits_length_le_iff (by decide) n).mpr hlt
    · exact (Nat.lt_digits_length_iff (by decide) n).mpr hle
  unfold numDigits
  split_ifs
  · exact (hlen 0 (by omega) (by omega)).symm
  · exact (hlen 1 (by omega) (by omega)).symm
  · exact (hlen 2 (by omega) (by omega)).symm
  · exact (hlen 3 (by omega) (by omega)).symm
  · exact (hlen 4 (by omega) (by omega)).symm
  · exact (hlen 5 (by omega) (by omega)).symm
  · exact (hlen 6 (by omega) (by omega)).symm

end Digits

section Part

variable {part : List UInt8} {n : Nat}

theorem atoi_digit {b : UInt8} {bs : List UInt8} (h : isDigit b = true) :
    atoi (b :: bs) = digits 0 (b :: bs) := by
  have hminus : b ≠ 0x2D := by
    rintro rfl
    exact absurd h (by decide)
  have hplus : b ≠ 0x2B := by
    rintro rfl
    exact absurd h (by decide)
  rw [atoi, List.dropWhile_cons_of_neg (Bool.eq_false_iff.mp (not_isSpace_of_isDigit h))]
  simp only [hminus, hplus, if_false]

theorem atoi_decimalText (h : 0 < n) : atoi (decimalText n) = n := by
  have hvalues := digitValues_decimalText n
  have hdigits : digits 0 (decimalText n) = n := by
    rw [digits_zero, hvalues, Nat.ofDigits_digits]
  cases htext : decimalText n with
  | nil =>
      rw [htext] at hdigits
      exact absurd hdigits h.ne
  | cons b bs =>
      have hb : isDigit b = true := by
        by_contra hb
        rw [htext, digits, if_neg hb] at hdigits
        exact h.ne hdigits
      rw [atoi_digit hb, ← htext, hdigits]

theorem atoi_eq_decimalText (hpos : 0 < atoi part) (hlt : atoi part < 2000000)
    (hlen : numDigits (atoi part) = part.length) :
    ∃ n : Nat, atoi part = n ∧ part = decimalText n := by
  have hdrop := (List.dropWhile_suffix (l := part) isSpace).length_le
  have hshort : ∀ bs : List UInt8, atoi part = digits 0 bs → part.length ≤ bs.length := by
    intro bs hbs
    rw [hbs] at hpos hlt hlen
    rw [← hlen, numDigits_eq (by omega) (by omega)]
    exact (digits_length_le bs).trans (digitValues_length_le bs)
  cases htext : part.dropWhile isSpace with
  | nil =>
      rw [atoi, htext] at hpos
      exact absurd hpos (by decide)
  | cons b bs =>
      rw [htext, List.length_cons] at hdrop
      by_cases hminus : b = 0x2D
      · have hatoi : atoi part = -(digits 0 bs) := by
          simp only [atoi, htext, hminus, if_true]
        omega
      by_cases hplus : b = 0x2B
      · have hatoi : atoi part = digits 0 bs := by
          simp only [atoi, htext, hplus]
          rfl
        have := hshort bs hatoi
        omega
      have hatoi : atoi part = digits 0 (b :: bs) := by
        simp only [atoi, htext, hminus, hplus, if_false]
      have hpart : part.dropWhile isSpace = part := by
        apply (List.dropWhile_suffix isSpace).eq_of_length
        have := hshort _ hatoi
        rw [htext, List.length_cons]
        rw [List.length_cons] at this
        omega
      rw [← htext, hpart] at hatoi
      refine ⟨digits 0 part, hatoi, eq_decimalText ?_⟩
      rw [hatoi] at hpos hlt hlen
      exact (numDigits_eq (by omega) (by omega)).symm.trans hlen

theorem canonical_iff : Canonical n part ↔ atoi part = n ∧ 1 < part.length ∧ part.length < 8 ∧
    0 < atoi part ∧ atoi part < 2000000 ∧ numDigits (atoi part) = part.length := by
  constructor
  · rintro ⟨htext, hlower, hupper, hbound⟩
    have hpos : 0 < n := by
      apply Nat.pos_of_ne_zero
      rintro rfl
      rw [htext] at hlower
      exact absurd hlower (by decide)
    have hatoi : atoi part = n := htext ▸ atoi_decimalText hpos
    have hdigits : numDigits n = part.length := by
      rw [numDigits_eq hpos hbound, htext, decimalText_length]
    rw [hatoi]
    exact ⟨rfl, by omega, by omega, by omega, by omega, hdigits⟩
  · rintro ⟨hatoi, hlower, hupper, hpos, hlt, hlen⟩
    obtain ⟨n', hn', htext⟩ := atoi_eq_decimalText hpos hlt hlen
    have heq : n' = n := by omega
    exact ⟨heq ▸ htext, by omega, by omega, by omega⟩

theorem recvPart_canonical (h : Canonical n part) (uart : Uart) :
    recvPart part (true, uart) = (false, { uart with baudrate := n }) := by
  obtain ⟨hatoi, hlower, hupper, hpos, hlt, hlen⟩ := canonical_iff.mp h
  rw [hatoi] at hpos hlt hlen
  simp only [recvPart, hlower, hupper, hatoi, hpos, hlt, hlen, decide_true, Bool.and_true,
    beq_self_eq_true, if_true]

theorem recvPart_other (h : ∀ n, ¬ Canonical n part) (uart : Uart) :
    recvPart part (true, uart) = (false, { uart with written := uart.written ++ part }) := by
  simp only [recvPart]
  split
  next htest =>
    simp only [Bool.and_eq_true, Bool.true_and, decide_eq_true_eq, beq_iff_eq] at htest
    obtain ⟨⟨⟨⟨hlower, hupper⟩, hpos⟩, hlt⟩, hlen⟩ := htest
    refine absurd (canonical_iff.mpr ⟨?_, hlower, hupper, hpos, hlt, hlen⟩) (h (atoi part).toNat)
    omega
  · rfl

theorem recvPart_later (parts : List (List UInt8)) (uart : Uart) :
    parts.foldl (fun x part => recvPart part x) (false, uart) =
      (false, { uart with written := uart.written ++ parts.flatten }) := by
  induction parts generalizing uart with
  | nil => simp
  | cons part parts ih =>
      have hpart : recvPart part (false, uart) =
          (false, { uart with written := uart.written ++ part }) := by
        simp [recvPart]
      rw [List.foldl_cons, hpart, ih, List.flatten_cons, List.append_assoc]

/-- What becomes of the parts of a client. -/
structure Forwards (parts : List (List UInt8)) (uart uart' : Uart) : Prop where
  nothing : parts = [] → uart' = uart
  command : ∀ n part later, parts = part :: later → Canonical n part →
    uart' = ⟨n, uart.written ++ later.flatten⟩
  other : ∀ part later, parts = part :: later → (∀ n, ¬ Canonical n part) →
    uart' = ⟨uart.baudrate, uart.written ++ parts.flatten⟩

theorem forwards_foldl (parts : List (List UInt8)) (uart : Uart) :
    Forwards parts uart (parts.foldl (fun x part => recvPart part x) (true, uart)).2 := by
  refine ⟨?_, ?_, ?_⟩
  · rintro rfl
    rfl
  · rintro n part later rfl hpart
    rw [List.foldl_cons, recvPart_canonical hpart, recvPart_later]
  · rintro part later rfl hpart
    rw [List.foldl_cons, recvPart_other hpart, recvPart_later, List.flatten_cons,
      List.append_assoc]

end Part

/-- The client that the next turn of the task accepts. -/
def acceptsClient (o : Answers) (s : State) : Option Nc :=
  match s.events with
  | [] => none
  | .wifiDisconnected :: _ => none
  | .netconn nc :: _ => (s.netconns nc).bind fun conn =>
      if conn.listens && !s.isConnValid && o.accepts then s.acceptMbox.head? else none

def receives (o : Answers) (s : State) : List (List UInt8) :=
  match s.events with
  | [] => []
  | .wifiDisconnected :: _ => []
  | .netconn nc :: _ => match s.netconns nc with
      | none => []
      | some conn =>
          if conn.listens then []
          else match o.recv with
            | none => []
            | some netbuf => netbuf.data :: netbuf.next

def Action.receives (a : Action) (s : State) : List (List UInt8) :=
  match a with
  | .task o => UartBridge.receives o s
  | _ => []

/-- The parts that are received in a run. -/
def received : State → List Action → List (List UInt8)
  | _, [] => []
  | s, a :: as => match step s a with
      | none => []
      | some t => a.receives s ++ received t as

def KeepsClient (s : State) : Action → Prop
  | .task o => acceptsClient o s = none
  | _ => True

def State.forward (s : State) : Bool × Uart := (s.isFirstTimeRecv, s.uart)

section Runs

variable {s t u : State} {a : Action} {o : Answers} {nc : Nc} {as : List Action}

@[simp] theorem State.faulty_forward (s : State) : s.faulty.forward = s.forward := rfl

@[simp] theorem uartBridgeReset_forward (s : State) : (uartBridgeReset s).forward = s.forward := rfl

theorem xQueueSend_forward (e : Event) (s : State) : (xQueueSend e s).forward = s.forward := by
  rw [xQueueSend]
  split <;> rfl

theorem netCallback_forward (nc : Nc) (s : State) : (netCallback nc s).forward = s.forward := by
  rw [netCallback]
  split
  · rfl
  · split
    · exact xQueueSend_forward _ s
    · rfl

theorem follow_forward {f : Nc → Netconn → State} {nc : Option Nc}
    (h : ∀ nc conn, (f nc conn).forward = s.forward) : (s.follow nc f).forward = s.forward := by
  unfold State.follow
  split
  · rfl
  · split
    · rfl
    · exact h _ _

theorem closeTcpNetconn_forward (nc : Option Nc) (s : State) :
    (closeTcpNetconn nc s).forward = s.forward := follow_forward fun _ _ => rfl

theorem onListen_forward {accepts : Bool}
    (h : s.isConnValid = false → accepts = true → s.acceptMbox = []) :
    (onListen accepts s).forward = s.forward := by
  rw [onListen, netconnAccept]
  cases hmbox : s.acceptMbox with
  | nil => rfl
  | cons nc mbox =>
      cases accepts with
      | false => rfl
      | true =>
          dsimp only
          rw [if_pos rfl]
          dsimp only
          split
          · exact closeTcpNetconn_forward _ _
          next hvalid =>
            rw [h (Bool.eq_false_iff.mpr hvalid) rfl] at hmbox
            cases hmbox

theorem onReceive_forward (nc : Nc) (conn : Netconn) (recv : Option Netbuf) (s : State) :
    (onReceive nc conn recv s).forward = match recv with
      | none => s.forward
      | some netbuf => recvNetbuf netbuf s.forward := by
  cases recv with
  | some netbuf => rfl
  | none =>
      simp only [onReceive]
      split
      · rfl
      · exact closeTcpNetconn_forward _ _

theorem uartBridgeTask_forward (h : acceptsClient o s = none) : (uartBridgeTask o s).forward =
    (receives o s).foldl (fun x part => recvPart part x) s.forward := by
  rw [uartBridgeTask]
  cases hevents : s.events with
  | nil =>
      rw [receives, hevents]
      dsimp only
      split
      · exact follow_forward fun _ _ => rfl
      · rfl
  | cons e events =>
      cases e with
      | wifiDisconnected =>
          rw [receives, hevents]
          simp only [onEvent]
          split
          · exact closeTcpNetconn_forward _ _
          · rfl
      | netconn nc =>
          rw [receives, hevents]
          simp only [onEvent]
          cases hconn : s.netconns nc with
          | none =>
              simp only [State.follow, hconn]
              rfl
          | some conn =>
              simp only [State.follow, hconn]
              simp only [acceptsClient, hevents, hconn, Option.bind_some] at h
              cases hlistens : conn.listens with
              | true =>
                  rw [if_pos rfl, if_pos rfl]
                  apply onListen_forward
                  intro hvalid haccepts
                  have hvalid' : s.isConnValid = false := hvalid
                  simp only [hlistens, hvalid', haccepts] at h
                  exact List.head?_eq_none_iff.mp h
              | false =>
                  rw [if_neg Bool.false_ne_true, if_neg Bool.false_ne_true, onReceive_forward]
                  cases o.recv with
                  | none => rfl
                  | some netbuf => rfl

theorem step_forward (h : KeepsClient s a) (hstep : step s a = some t) :
    t.forward = (a.receives s).foldl (fun x part => recvPart part x) s.forward := by
  unfold step at hstep
  split at hstep
  · cases hstep
  · cases hstep
    cases a with
    | connect => rfl
    | callback nc => exact netCallback_forward nc s
    | lwipError nc err => rfl
    | wifiDisconnect => exact xQueueSend_forward _ s
    | task o => exact uartBridgeTask_forward h

theorem run_forward (h : Transition.Meets step KeepsClient s as)
    (hrun : Transition.run step s as = some t) :
    t.forward = (received s as).foldl (fun x part => recvPart part x) s.forward := by
  induction as generalizing s with
  | nil =>
      cases hrun
      rfl
  | cons a as ih =>
      rw [Transition.run] at hrun
      rw [Transition.Meets] at h
      rw [received]
      cases hstep : step s a with
      | none =>
          rw [hstep] at hrun
          cases hrun
      | some r =>
          rw [hstep] at hrun h
          rw [List.foldl_append, ← step_forward h.1 hstep]
          exact ih h.2 hrun

theorem accept_forward (h : acceptsClient o s = some nc) : (uartBridgeTask o s).uart = s.uart ∧
    ((uartBridgeTask o s).fault = true ∨ (uartBridgeTask o s).isFirstTimeRecv = true) := by
  rw [uartBridgeTask]
  rw [acceptsClient] at h
  cases hevents : s.events with
  | nil =>
      rw [hevents] at h
      cases h
  | cons e events =>
      rw [hevents] at h
      cases e with
      | wifiDisconnected => cases h
      | netconn k =>
          obtain ⟨conn, hconn, h⟩ := Option.bind_eq_some_iff.mp h
          split at h
          next htest =>
            simp only [Bool.and_eq_true, Bool.not_eq_true'] at htest
            obtain ⟨⟨hlistens, hvalid⟩, haccepts⟩ := htest
            obtain ⟨mbox, hmbox⟩ := List.head?_eq_some_iff.mp h
            simp only [onEvent, State.follow, hconn, hlistens, if_true, onListen, netconnAccept,
              hmbox, haccepts, hvalid]
            cases hclient : s.netconns nc with
            | none => exact ⟨rfl, .inl rfl⟩
            | some _ => exact ⟨rfl, .inr rfl⟩
          · cases h

theorem step_task (hstep : step s (.task o) = some t) : t = uartBridgeTask o s := by
  unfold step at hstep
  split at hstep
  · cases hstep
  · exact (Option.some.inj hstep).symm

theorem run_faulty (h : s.fault = true) (hrun : Transition.run step s as = some t) :
    as = [] ∧ t = s := by
  cases as with
  | nil =>
      cases hrun
      exact ⟨rfl, rfl⟩
  | cons a as =>
      simp only [Transition.run, step, h, if_true] at hrun
      cases hrun

/-- From the accept of a client to that of the next one, only a first part that is the canonical
text of a number sets the baud rate, and all else is written. -/
theorem forwards_of_accept (haccept : acceptsClient o s = some nc)
    (hstep : step s (.task o) = some t) (has : Transition.Meets step KeepsClient t as)
    (hrun : Transition.run step t as = some u) : Forwards (received t as) s.uart u.uart := by
  have ht := step_task hstep
  obtain ⟨huart, hfault | hfirst⟩ := accept_forward haccept
  · obtain ⟨rfl, rfl⟩ := run_faulty (ht ▸ hfault) hrun
    rw [ht, huart]
    exact ⟨fun _ => rfl, fun _ _ _ h => (by cases h), fun _ _ h => (by cases h)⟩
  · have hforward : t.forward = (true, s.uart) := by
      rw [ht, State.forward, hfirst, huart]
    have hu : u.uart = _ := congrArg Prod.snd (run_forward has hrun)
    rw [hu, hforward]
    exact forwards_foldl _ _

/-- A client is about to be accepted. -/
def waiting : State := netCallback 0 (connect boot)

/-- It asks for 115200 baud, and sends 9600 after that. -/
def baudParts : List Action :=
  [.callback 1, .task ⟨true, some ⟨[0x31, 0x31, 0x35, 0x32, 0x30, 0x30], []⟩⟩,
    .callback 1, .task ⟨true, some ⟨[0x39, 0x36, 0x30, 0x30], []⟩⟩]

theorem forwards_baudParts : ∃ u,
    Transition.run step waiting (.task accepting :: baudParts) = some u ∧
      Forwards [[0x31, 0x31, 0x35, 0x32, 0x30, 0x30], [0x39, 0x36, 0x30, 0x30]] boot.uart
        u.uart := by
  have hstep : step waiting (.task accepting) = some (uartBridgeTask accepting waiting) := rfl
  have has : Transition.Meets step KeepsClient (uartBridgeTask accepting waiting) baudParts :=
    ⟨trivial, rfl, trivial, rfl, trivial⟩
  have haccept : acceptsClient accepting waiting = some 1 := rfl
  exact ⟨_, rfl, forwards_of_accept haccept hstep has rfl⟩

end Runs
end WirelessEsp.UartBridge
