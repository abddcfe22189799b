import WirelessEsp.WebsocketResponse

namespace WirelessEsp.SsdpService

open MemoryBlock WebsocketResponse

def BUFFER_SZ : Nat := 2048

def memoryPoolGetBufSize : Nat := BUFFER_SZ

abbrev PoolBuffer := Vector UInt8 BUFFER_SZ

structure SsdpCtx where
  ip : Vector UInt8 4
  uuidEnd : Vector UInt8 3

def SSDP_UUID_BASE : List UInt8 := text "9079d7e9-92c6-45b3-aa28-77cdcc"

def HEADER_SEARCH : List UInt8 := text "M-SEARCH"

def hexDigit (d : UInt8) : UInt8 := if d < 10 then 48 + d else 87 + d

def hex (b : UInt8) : List UInt8 := [hexDigit (b >>> 4), hexDigit (b &&& 15)]

def ip4addrNtoa (ip : Vector UInt8 4) : List UInt8 :=
  decimal (ip.get 0).toNat ++ text "." ++ decimal (ip.get 1).toNat ++ text "." ++
    decimal (ip.get 2).toNat ++ text "." ++ decimal (ip.get 3).toNat

def responseText (ctx : SsdpCtx) : List UInt8 :=
  text "HTTP/1.1 200 OK\r\n" ++
  text "EXT:\r\n" ++
  text "ST: upnp:rootdevice\r\n" ++
  text "CACHE-CONTROL: max-age=3600\r\n" ++
  text "SERVER: FreeRTOS/v10 UPnP/1.1 product/version\r\n" ++
  text "USN: uuid:" ++ SSDP_UUID_BASE ++
    hex (ctx.uuidEnd.get 0) ++ hex (ctx.uuidEnd.get 1) ++ hex (ctx.uuidEnd.get 2) ++
    text "::upnp:rootdevice\r\n" ++
  text "LOCATION: http://" ++ ip4addrNtoa ctx.ip ++ text ":" ++ decimal 80 ++
    text "/SSDP.xml\r\n" ++
  text "\r\n"

structure Response where
  remoteAddr : UInt32
  remotePort : UInt16
  msg : List UInt8
  deriving DecidableEq

/-- The buffer and what is sent; `none` is an access outside of the buffer. -/
def ssdpSendResponse (ctx : SsdpCtx) (remoteAddr : UInt32) (remotePort : UInt16)
    (buf : List UInt8) (bufLen : Nat) : Option (List UInt8 × Response) := do
  let msgLen := (responseText ctx).length
  let buf ← snprintf buf 0 bufLen (responseText ctx)
  let buf ← store buf msgLen [0]
  let msg ← fetch buf 0 msgLen
  pure (buf, { remoteAddr := remoteAddr, remotePort := remotePort, msg := msg })

def ssdpHandleData (ctx : SsdpCtx) (remoteAddr : UInt32) (remotePort : UInt16)
    (buf : List UInt8) (len : Nat) : Option (List UInt8 × Option Response) := do
  let header ← fetch buf 0 HEADER_SEARCH.length
  if header ≠ HEADER_SEARCH then pure (buf, none)
  else do
    let (buf, response) ← ssdpSendResponse ctx remoteAddr remotePort buf len
    pure (buf, some response)

structure Datagram where
  remoteAddr : UInt32
  remotePort : UInt16
  data : List UInt8

/-- What `recvfrom` finds, with the context at that moment. An error is `none`. -/
abbrev Received := SsdpCtx × Option Datagram

def recvfrom (buf : List UInt8) (size : Nat) (data : List UInt8) : Option (List UInt8 × Nat) := do
  let buf ← store buf 0 (data.take size)
  pure (buf, (data.take size).length)

def handleDatagram (ctx : SsdpCtx) (d : Datagram) (buf : List UInt8) :
    Option (List UInt8 × Option Response) := do
  let (buf, len) ← recvfrom buf memoryPoolGetBufSize d.data
  if len = 0 then pure (buf, none)
  else do
    let buf ← store buf len [0]
    ssdpHandleData ctx d.remoteAddr d.remotePort buf memoryPoolGetBufSize

def handleLoop : List UInt8 → List Received → Option (List (Option Response))
  | _, [] => some []
  | _, (_, none) :: _ => some []
  | buf, (ctx, some d) :: received => do
      let (buf, response) ← handleDatagram ctx d buf
      let responses ← handleLoop buf received
      pure (response :: responses)

/-- `buf` is what the buffer has when it comes from the pool. -/
def ssdpServiceHandleSocket (buf : PoolBuffer) (received : List Received) :
    Option (List (Option Response)) :=
  handleLoop buf.toList received

/-- After an error the task goes on with a new socket and a buffer from the pool. -/
def ssdpServiceTask : List (PoolBuffer × List Received) → Option (List (List (Option Response)))
  | [] => some []
  | (buf, received) :: sockets => do
      let responses ← ssdpServiceHandleSocket buf received
      let later ← ssdpServiceTask sockets
      pure (responses :: later)

theorem decimal_length_le (b : UInt8) : (decimal b.toNat).length ≤ 3 := by
  rw [decimal, List.length_map]
  exact (Nat.length_toDigits_le_iff (by omega) (by omega)).mpr (Nat.lt_trans b.toNat_lt (by omega))

theorem ip4addrNtoa_length_le (ip : Vector UInt8 4) : (ip4addrNtoa ip).length ≤ 15 := by
  have h0 := decimal_length_le (ip.get 0)
  have h1 := decimal_length_le (ip.get 1)
  have h2 := decimal_length_le (ip.get 2)
  have h3 := decimal_length_le (ip.get 3)
  have hdot : (text ".").length = 1 := rfl
  simp only [ip4addrNtoa, List.length_append, hdot]
  omega

theorem responseText_length (ctx : SsdpCtx) :
    (responseText ctx).length = 218 + (ip4addrNtoa ctx.ip).length := by
  have hhex : ∀ b, (hex b).length = 2 := fun _ => rfl
  have hstatus : (text "HTTP/1.1 200 OK\r\n").length = 17 := rfl
  have hext : (text "EXT:\r\n").length = 6 := rfl
  have hst : (text "ST: upnp:rootdevice\r\n").length = 21 := rfl
  have hcache : (text "CACHE-CONTROL: max-age=3600\r\n").length = 29 := rfl
  have hserver : (text "SERVER: FreeRTOS/v10 UPnP/1.1 product/version\r\n").length = 47 := rfl
  have husn : (text "USN: uuid:").length = 10 := rfl
  have hbase : SSDP_UUID_BASE.length = 30 := rfl
  have hroot : (text "::upnp:rootdevice\r\n").length = 19 := rfl
  have hlocation : (text "LOCATION: http://").length = 17 := rfl
  have hport : (text ":").length = 1 ∧ (decimal 80).length = 2 := ⟨rfl, rfl⟩
  have hschema : (text "/SSDP.xml\r\n").length = 11 := rfl
  have hend : (text "\r\n").length = 2 := rfl
  simp only [responseText, List.length_append, hhex, hstatus, hext, hst, hcache, hserver, husn,
    hbase, hroot, hlocation, hport, hschema, hend]
  omega

theorem responseText_fits (ctx : SsdpCtx) : (responseText ctx).length + 1 ≤ BUFFER_SZ := by
  have hip := ip4addrNtoa_length_le ctx.ip
  rw [responseText_length, BUFFER_SZ]
  omega

/-- The datagrams up to the first error. -/
def datagrams : List Received → List (SsdpCtx × Datagram)
  | [] => []
  | (_, none) :: _ => []
  | (ctx, some d) :: received => (ctx, d) :: datagrams received

def answer (x : SsdpCtx × Datagram) : Option Response :=
  if HEADER_SEARCH <+: x.2.data then
    some { remoteAddr := x.2.remoteAddr, remotePort := x.2.remotePort, msg := responseText x.1 }
  else none

/-- Nothing is accessed outside of the buffers, and each datagram is answered as it should be. -/
def Served (sockets : List (PoolBuffer × List Received)) : Prop :=
  ssdpServiceTask sockets = some (sockets.map fun s => (datagrams s.2).map answer)

variable {buf : List UInt8} {ctx : SsdpCtx} {d : Datagram}

theorem ssdpSendResponse_sends (ctx : SsdpCtx) (remoteAddr : UInt32) (remotePort : UInt16)
    (hbuf : buf.length = BUFFER_SZ) : ∃ buf', buf'.length = BUFFER_SZ ∧
      ssdpSendResponse ctx remoteAddr remotePort buf memoryPoolGetBufSize =
        some (buf', ⟨remoteAddr, remotePort, responseText ctx⟩) := by
  have hfits := responseText_fits ctx
  let rest := buf.drop ((responseText ctx).length + 1)
  have hprint : snprintf buf 0 memoryPoolGetBufSize (responseText ctx) =
      some (responseText ctx ++ [0] ++ rest) := by
    have hcut : (responseText ctx).take (memoryPoolGetBufSize - 1) = responseText ctx :=
      List.take_of_length_le (Nat.le_sub_of_add_le hfits)
    have hlen : (responseText ctx ++ [0]).length = (responseText ctx).length + 1 :=
      List.length_append
    rw [snprintf, if_neg (by decide), hcut, store_start (by omega), hlen]
  have hend : store (responseText ctx ++ [0] ++ rest) (responseText ctx).length [0] =
      some (responseText ctx ++ [0] ++ rest) := store_segment rfl rfl rfl
  have hsent : fetch (responseText ctx ++ [0] ++ rest) 0 (responseText ctx).length =
      some (responseText ctx) := by
    have hblock : responseText ctx ++ [0] ++ rest = [] ++ responseText ctx ++ ([0] ++ rest) :=
      List.append_assoc _ _ _
    exact fetch_segment hblock rfl rfl
  refine ⟨responseText ctx ++ [0] ++ rest, ?_, ?_⟩
  · simp only [List.length_append, List.length_singleton, rest, List.length_drop]
    omega
  · simp only [ssdpSendResponse, hprint, hend, hsent, Option.bind_eq_bind, Option.bind_some]
    rfl

theorem prefix_terminated {xs data rest : List UInt8} (h : 0 ∉ xs) :
    xs <+: data ++ 0 :: rest ↔ xs <+: data := by
  constructor
  · intro hpre
    rcases List.prefix_or_prefix_of_prefix hpre (List.prefix_append data (0 :: rest)) with hx | hx
    · exact hx
    · obtain ⟨tail, rfl⟩ := hx
      cases tail with
      | nil => exact ⟨[], by rw [List.append_nil, List.append_nil]⟩
      | cons z zs =>
          have hz : z :: zs <+: 0 :: rest := (List.prefix_append_right_inj data).mp hpre
          have hzero : z = 0 := (List.cons_prefix_cons.mp hz).1
          exact absurd (List.mem_append_right data (hzero ▸ List.mem_cons_self)) h
  · intro hpre
    exact hpre.trans (List.prefix_append data (0 :: rest))

theorem search_iff {data rest : List UInt8} :
    (data ++ 0 :: rest).take HEADER_SEARCH.length = HEADER_SEARCH ↔ HEADER_SEARCH <+: data := by
  have hzero : 0 ∉ HEADER_SEARCH := by decide
  rw [← @prefix_terminated HEADER_SEARCH data rest hzero, List.prefix_iff_eq_take]
  exact eq_comm

theorem store_terminator {data : List UInt8} (hbuf : buf.length = BUFFER_SZ)
    (hlen : data.length < BUFFER_SZ) :
    ∃ rest, store (data ++ buf.drop data.length) data.length [0] = some (data ++ 0 :: rest) ∧
      (data ++ 0 :: rest).length = BUFFER_SZ := by
  obtain ⟨old, rest, hdrop⟩ : ∃ old rest, buf.drop data.length = old :: rest :=
    List.exists_cons_of_length_pos (by rw [List.length_drop]; omega)
  have hblock : data ++ buf.drop data.length = data ++ [old] ++ rest := by
    rw [hdrop, List.append_assoc]; rfl
  have hstore : store (data ++ buf.drop data.length) data.length [0] =
      some (data ++ [0] ++ rest) := store_segment hblock rfl rfl
  refine ⟨rest, ?_, ?_⟩
  · rw [hstore, List.append_assoc]; rfl
  · have h := congrArg List.length hdrop
    rw [List.length_drop, List.length_cons] at h
    rw [List.length_append, List.length_cons]
    omega

theorem answer_empty (ctx : SsdpCtx) (hnil : d.data = []) : answer (ctx, d) = none := by
  rw [answer, if_neg]
  intro hpre
  rw [hnil] at hpre
  exact absurd (List.prefix_nil.mp hpre) (by decide)

theorem handleDatagram_answers (ctx : SsdpCtx) (hbuf : buf.length = BUFFER_SZ)
    (hlen : d.data.length < BUFFER_SZ) :
    ∃ buf', buf'.length = BUFFER_SZ ∧ handleDatagram ctx d buf = some (buf', answer (ctx, d)) := by
  have hcut : d.data.take memoryPoolGetBufSize = d.data :=
    List.take_of_length_le (Nat.le_of_lt hlen)
  have hrecv : recvfrom buf memoryPoolGetBufSize d.data =
      some (d.data ++ buf.drop d.data.length, d.data.length) := by
    rw [recvfrom, hcut, store_start (by omega)]; rfl
  by_cases hzero : d.data.length = 0
  · have hanswer : answer (ctx, d) = none := answer_empty ctx (List.length_eq_zero_iff.mp hzero)
    refine ⟨d.data ++ buf.drop d.data.length, ?_, ?_⟩
    · rw [List.length_append, List.length_drop]; omega
    · simp only [handleDatagram, hrecv, Option.bind_eq_bind, Option.bind_some, if_pos hzero,
        hanswer]
      rfl
  · obtain ⟨rest, hend, hlength⟩ := store_terminator hbuf hlen
    have hfetch : fetch (d.data ++ 0 :: rest) 0 HEADER_SEARCH.length =
        some ((d.data ++ 0 :: rest).take HEADER_SEARCH.length) :=
      fetch_start (by rw [hlength]; decide)
    by_cases hsearch : HEADER_SEARCH <+: d.data
    · obtain ⟨buf', hbuf', hsend⟩ :=
        ssdpSendResponse_sends ctx d.remoteAddr d.remotePort hlength
      refine ⟨buf', hbuf', ?_⟩
      simp only [handleDatagram, hrecv, Option.bind_eq_bind, Option.bind_some, if_neg hzero, hend,
        ssdpHandleData, hfetch, search_iff.mpr hsearch, ne_eq, not_true_eq_false, if_false, hsend,
        answer, if_pos hsearch]
      rfl
    · refine ⟨d.data ++ 0 :: rest, hlength, ?_⟩
      have hne : (d.data ++ 0 :: rest).take HEADER_SEARCH.length ≠ HEADER_SEARCH :=
        fun h => hsearch (search_iff.mp h)
      simp only [handleDatagram, hrecv, Option.bind_eq_bind, Option.bind_some, if_neg hzero, hend,
        ssdpHandleData, hfetch, if_pos hne, answer, if_neg hsearch]
      rfl

theorem handleDatagram_overflows (ctx : SsdpCtx) (hbuf : buf.length = BUFFER_SZ)
    (hlen : BUFFER_SZ ≤ d.data.length) : handleDatagram ctx d buf = none := by
  have hcut : (d.data.take memoryPoolGetBufSize).length = BUFFER_SZ :=
    List.length_take_of_le hlen
  have hrecv : recvfrom buf memoryPoolGetBufSize d.data =
      some (d.data.take memoryPoolGetBufSize, BUFFER_SZ) := by
    rw [recvfrom, store_start (by omega), hcut, List.drop_of_length_le (by omega),
      List.append_nil]
    rfl
  have hend : store (d.data.take memoryPoolGetBufSize) BUFFER_SZ [0] = none :=
    store_outside (by rw [hcut]; exact Nat.lt_succ_self _)
  have hne : BUFFER_SZ ≠ 0 := by decide
  simp only [handleDatagram, hrecv, Option.bind_eq_bind, Option.bind_some, if_neg hne, hend,
    Option.bind_none]

variable {received : List Received}

theorem handleLoop_answers (hbuf : buf.length = BUFFER_SZ)
    (h : ∀ x ∈ datagrams received, x.2.data.length < BUFFER_SZ) :
    handleLoop buf received = some ((datagrams received).map answer) := by
  induction received generalizing buf with
  | nil => rfl
  | cons r received ih =>
      obtain ⟨ctx, _ | d⟩ := r
      · rfl
      · obtain ⟨buf', hbuf', hturn⟩ := handleDatagram_answers ctx hbuf
          (h (ctx, d) List.mem_cons_self)
        have hrest := ih hbuf' fun x hx => h x (List.mem_cons_of_mem _ hx)
        simp only [handleLoop, hturn, hrest, Option.bind_eq_bind, Option.bind_some]
        rfl

theorem handleLoop_overflows (hbuf : buf.length = BUFFER_SZ) {x : SsdpCtx × Datagram}
    (hx : x ∈ datagrams received) (hlen : BUFFER_SZ ≤ x.2.data.length) :
    handleLoop buf received = none := by
  induction received generalizing buf with
  | nil => cases hx
  | cons r received ih =>
      obtain ⟨ctx, _ | d⟩ := r
      · cases hx
      · by_cases hfits : d.data.length < BUFFER_SZ
        · obtain ⟨buf', hbuf', hturn⟩ := handleDatagram_answers ctx hbuf hfits
          rcases List.mem_cons.mp hx with rfl | hx
          · exact absurd hfits (Nat.not_lt_of_le hlen)
          · simp only [handleLoop, hturn, ih hbuf' hx, Option.bind_eq_bind, Option.bind_some,
              Option.bind_none]
        · have hturn := handleDatagram_overflows ctx hbuf (Nat.le_of_not_lt hfits)
          simp only [handleLoop, hturn, Option.bind_eq_bind, Option.bind_none]

theorem ssdpServiceHandleSocket_iff (buf : PoolBuffer) (received : List Received) :
    ssdpServiceHandleSocket buf received = some ((datagrams received).map answer) ↔
      ∀ x ∈ datagrams received, x.2.data.length < BUFFER_SZ := by
  constructor
  · intro h x hx
    by_contra hlong
    have hnone := handleLoop_overflows buf.length_toList hx (Nat.le_of_not_lt hlong)
    exact absurd (h.symm.trans hnone) (Option.some_ne_none _)
  · exact handleLoop_answers buf.length_toList

theorem served_cons (s : PoolBuffer × List Received) (sockets : List (PoolBuffer × List Received)) :
    Served (s :: sockets) ↔
      ssdpServiceHandleSocket s.1 s.2 = some ((datagrams s.2).map answer) ∧ Served sockets := by
  simp only [Served, ssdpServiceTask, List.map_cons, Option.bind_eq_bind, Option.bind_eq_some_iff,
    Option.pure_def, Option.some.injEq, List.cons.injEq]
  constructor
  · rintro ⟨responses, hs, later, hl, rfl, rfl⟩
    exact ⟨hs, hl⟩
  · rintro ⟨hs, hl⟩
    exact ⟨_, hs, _, hl, rfl, rfl⟩

/-- The service keeps to its buffers and answers the searches, and only them, exactly when no
datagram fills a buffer. -/
theorem ssdpServiceTask_served_iff (sockets : List (PoolBuffer × List Received)) :
    Served sockets ↔ ∀ s ∈ sockets, ∀ x ∈ datagrams s.2, x.2.data.length < BUFFER_SZ := by
  induction sockets with
  | nil => exact ⟨fun _ s hs => absurd hs List.not_mem_nil, fun _ => rfl⟩
  | cons s sockets ih => rw [served_cons, ssdpServiceHandleSocket_iff, ih, List.forall_mem_cons]

/-- A search of 2048 characters, to a service that has just started. -/
def longSearch : List Received :=
  [(⟨#v[0, 0, 0, 0], #v[0, 0, 0]⟩, some ⟨0, 0, HEADER_SEARCH ++ List.replicate 2040 32⟩)]

theorem longSearch_overflows :
    ssdpServiceTask [(Vector.replicate BUFFER_SZ 0, longSearch)] = none ∧
      ¬ Served [(Vector.replicate BUFFER_SZ 0, longSearch)] := by
  have hnone : ssdpServiceTask [(Vector.replicate BUFFER_SZ 0, longSearch)] = none := by
    have hlong : BUFFER_SZ ≤ (HEADER_SEARCH ++ List.replicate 2040 32).length := by
      rw [List.length_append, List.length_replicate]
      exact Nat.le_refl _
    have hloop : ssdpServiceHandleSocket (Vector.replicate BUFFER_SZ 0) longSearch = none :=
      handleLoop_overflows Vector.length_toList List.mem_cons_self hlong
    rw [ssdpServiceTask, hloop]
    rfl
  exact ⟨hnone, fun h => absurd (h.symm.trans hnone) (Option.some_ne_none _)⟩

end WirelessEsp.SsdpService
