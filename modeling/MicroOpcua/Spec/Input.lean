import MicroOpcua.Core.Script
import MicroOpcua.Lib.Frames

namespace MicroOpcua

open Relation Lib.StateRun Lib.LittleEndian Lib.Frames

variable {W A : Type} {b : Build} {c : Config W} {app : Application W A} {s t : Server W A}

def messageSize (rx : Bytes) : Nat := (u32At rx 4).toNat

theorem minChunkSize_le_rxLimit (h : configValidate b c = .ok ()) : minChunkSize ≤ rxLimit b c := by
  simp only [configValidate, guard_eq_ok] at h
  have hconnection := b.connectionRxBufferSize_ge
  unfold rxLimit
  split <;> omega

section Size

def ackReceiveBufferSize (ack : Bytes) : Nat := (u32At ack 12).toNat

def Server.holding (s : Server W A) (i : Nat) (rx : Bytes) : Server W A :=
  { s with conns := s.conns.modify i (fun conn => { conn with rx := rx }) }

variable (b c app) in
/-- A message of this size at the front of the receive buffer of connection `i` is waited for and then
processed, whatever else the buffer holds, and its header is not rejected for the size. An abort chunk
is rejected with the error it carries. -/
def AcceptsSize (s : Server W A) (i : Nat) (conn : Connection) (size : Nat) : Prop :=
  ∀ rx n, 8 ≤ rx.length → messageSize rx = size →
    (rx.length < size → processBuffer b c app i (n + 1) (s.holding i rx) = s.holding i rx) ∧
    (size ≤ rx.length → processBuffer b c app i (n + 1) (s.holding i rx) =
      processBuffer b c app i n
      (((s.holding i rx).record (.message conn.id (rx.take size) (s.holding i rx).snapshot)).onConn
        i (processOne b c app (rx.take size) (rx.drop size))) ∧
      (chunkType (rx.take size) ≠ 65 → parseMessageHeader (rx.take size) ≠ .error .tcpMessageTooLarge))

theorem u32At_append {pre rest : Bytes} {v : UInt32} {offset : Nat} (h : pre.length = offset) :
    u32At (pre ++ (put 4 v.toNat ++ rest)) offset = v := by
  subst h
  have htake : ((pre ++ (put 4 v.toNat ++ rest)).drop pre.length).take 4 = put 4 v.toNat := by
    rw [List.drop_left]
    exact List.take_left' (put_length 4 _)
  apply UInt32.toNat_inj.mp
  have hlt := v.toNat_lt
  rw [u32At, htake, get_put, UInt32.toNat_ofNat']
  omega

theorem ackReceiveBufferSize_ackMessage (tcp : TcpConnection) :
    ackReceiveBufferSize (ackMessage tcp) = tcp.sendBufferSize.toNat := by
  have hpre : (utf8 "ACKF" ++ put 4 28 ++ put 4 0).length = 12 := by
    simp only [List.length_append, put_length]
    rfl
  have hack : ackMessage tcp = utf8 "ACKF" ++ put 4 28 ++ put 4 0 ++ (put 4 tcp.sendBufferSize.toNat ++
      (put 4 tcp.receiveBufferSize.toNat ++
        (put 4 tcp.maxMessageSize.toNat ++ put 4 tcp.maxChunkCount.toNat))) := by
    simp only [ackMessage, List.append_assoc]
  rw [ackReceiveBufferSize, hack, u32At_append hpre]

theorem processHello_sendBufferSize {message : Bytes} {h : Hello} {tcp : TcpConnection}
    (hok : processHello c message = .ok (h, tcp)) : tcp.sendBufferSize.toNat ≤ c.receiveBufferSize := by
  simp only [processHello, guard_eq_ok, bind_eq_ok, pure_eq_ok, Prod.mk.injEq] at hok
  obtain ⟨-, -, h', -, -, -, -, rfl, rfl⟩ := hok
  have hmin :
      min h'.sendBufferSize (UInt32.ofNat c.receiveBufferSize) ≤ UInt32.ofNat c.receiveBufferSize :=
    Std.min_le_right
  calc (negotiate c h').sendBufferSize.toNat
      ≤ (UInt32.ofNat c.receiveBufferSize).toNat := UInt32.le_iff_toNat_le.mp hmin
    _ = c.receiveBufferSize % 2 ^ 32 := UInt32.toNat_ofNat'
    _ ≤ c.receiveBufferSize := Nat.mod_le _ _

variable (c) in
/-- What a connection with an Acknowledge was promised is at most the configured receive buffer. -/
def Promised (conn : Connection) : Prop :=
  conn.tcp.established = true → conn.tcp.sendBufferSize.toNat ≤ c.receiveBufferSize

theorem Act.promised {k : Cause b W A} {u v : Ctx W A} (h : Act b c app k u v) (hu : Promised c u.conn) :
    Promised c v.conn := by
  cases h with
  | quiet h =>
    rw [h.conn]
    exact hu
  | accept => exact fun hestablished => nomatch hestablished
  | hello _ _ decoded => exact fun _ => processHello_sendBufferSize decoded
  | transport | send =>
    rw [Ctx.written_conn]
    exact hu
  | _ => exact hu

theorem Steps.promised {a : A} {w : W} (h : Steps b c app (Server.init b a w) s) :
    ∀ conn ∈ s.conns, Promised c conn := by
  refine (Steps.invariant (C := fun _ => True) (I := fun s => ∀ conn ∈ s.conns, Promised c conn) ?_
    (.init b a w) h (fun _ _ => trivial) (Server.init_conns (fun _ => ?_) a w)).2
  · exact fun s t _ _ hstep hs => hstep.conns (fun k i conn u _ _ hact => hact.promised) hs
  · exact fun hestablished => nomatch hestablished

section Loop

variable {i : Nat} {conn : Connection} {rx : Bytes} {n : Nat}

theorem Server.holding_found (found : s.conns[i]? = some conn) (rx : Bytes) :
    (s.holding i rx).conns[i]? = some { conn with rx := rx } := by
  simp [Server.holding, found]

theorem processBuffer_too_large (found : s.conns[i]? = some conn)
    (connected : conn.clientHandle.isSome = true) (hheader : 8 ≤ rx.length)
    (hsize : rxLimit b c < messageSize rx) :
    ∃ conn', (processBuffer b c app i (n + 1) (s.holding i rx)).conns[i]? = some conn' ∧
      conn'.clientHandle = none := by
  have hnext : nextMessage b c rx = .malformed := by
    simp only [nextMessage, if_neg (Nat.not_lt.mpr hheader)]
    exact if_pos (.inr hsize)
  have hnone : conn.clientHandle.isNone = false := by
    rw [← Option.not_isSome, connected]
    rfl
  have hloop :
      processBuffer b c app i (n + 1) (s.holding i rx) =
        (s.holding i rx).onConn i (dropConnection c) := by
    simp only [processBuffer, Server.holding_found found, hnone, hnext]
    rfl
  have hfound := Server.holding_found found rx
  refine ⟨((dropConnection c).run ((s.holding i rx).ctx { conn with rx := rx })).2.conn, ?_, rfl⟩
  rw [hloop, Server.onConn, hfound]
  exact Server.put_found hfound _

theorem parseMessageHeader_complete {message : Bytes} (hsize : messageSize message = message.length)
    (habort : chunkType message ≠ 65) : parseMessageHeader message ≠ .error .tcpMessageTooLarge := by
  have hsmall : ¬ (u32At message 4).toNat > message.length := by
    rw [← messageSize, hsize]
    exact lt_irrefl _
  unfold parseMessageHeader
  apply guard_ne_error (by decide)
  intro _
  split
  · apply guard_ne_error (by decide)
    intro _
    apply guard_ne_error (by decide)
    intro _
    rw [if_neg hsmall]
    apply guard_ne_error (by decide)
    intro _
    split
    · exact nofun
    · apply guard_ne_error (by decide)
      exact fun _ => nofun
  · exact fun h => absurd (Except.error.inj h) (by decide)

theorem acceptsSize_of_le (found : s.conns[i]? = some conn) (connected : conn.clientHandle.isSome = true)
    {size : Nat} (hmin : 8 ≤ size) (hsize : size ≤ rxLimit b c) : AcceptsSize b c app s i conn size := by
  intro rx n hheader hfield
  have hfound := Server.holding_found found rx
  have hnone : conn.clientHandle.isNone = false := by
    rw [← Option.not_isSome, connected]
    rfl
  refine ⟨fun hwait => ?_, fun hcomplete => ⟨?_, fun habort => ?_⟩⟩
  · have hnext : nextMessage b c rx = .wait := by
      simp only [nextMessage, if_neg (Nat.not_lt.mpr hheader)]
      rw [← messageSize, hfield, if_neg (by omega), if_pos hwait]
    simp only [processBuffer, hfound, hnone, hnext]
    rfl
  · have hnext : nextMessage b c rx = .complete (rx.take size) (rx.drop size) := by
      simp only [nextMessage, if_neg (Nat.not_lt.mpr hheader)]
      rw [← messageSize, hfield, if_neg (by omega), if_neg (by omega)]
    rw [processBuffer]
    simp only [hfound, hnone, hnext]
    rfl
  · apply parseMessageHeader_complete _ habort
    have hlength : (rx.take size).length = size := by
      rw [List.length_take]
      omega
    have hfield' : u32At (rx.take size) 4 = u32At rx 4 := by
      rw [u32At, List.drop_take, List.take_take, Nat.min_eq_left (by omega), ← u32At]
    rw [hlength, messageSize, hfield', ← messageSize, hfield]

theorem not_acceptsSize (found : s.conns[i]? = some conn) (connected : conn.clientHandle.isSome = true)
    (size : UInt32) (hmin : 8 < size.toNat) (hsize : rxLimit b c < size.toNat) :
    ¬ AcceptsSize b c app s i conn size.toNat := by
  intro haccepts
  have hheader : (List.replicate 4 0 ++ (put 4 size.toNat ++ [])).length = 8 := by simp
  have hfield : messageSize (List.replicate 4 0 ++ (put 4 size.toNat ++ [])) = size.toNat := by
    rw [messageSize, u32At_append List.length_replicate]
  have hwaits := (haccepts _ 0 hheader.ge hfield).1 (by omega)
  obtain ⟨conn', hconn', hclosed⟩ :=
    processBuffer_too_large (b := b) (c := c) (n := 0) found connected hheader.ge
      (by rw [hfield]; exact hsize)
  rw [hwaits, Server.holding_found found] at hconn'
  obtain rfl := Option.some.inj hconn'
  rw [hclosed] at connected
  cases connected

end Loop

theorem acknowledged_size_accepted (hvalid : configValidate b c = .ok ()) {a : A} {w : W}
    (h : Steps b c app (Server.init b a w) s) {i : Nat} {conn : Connection}
    (found : s.conns[i]? = some conn)
    (connected : conn.clientHandle.isSome = true) (established : conn.tcp.established = true) :
    (∀ size, 8 ≤ size → size ≤ ackReceiveBufferSize (ackMessage conn.tcp) →
      AcceptsSize b c app s i conn size) ↔
        (b.multipleConnections = true →
          ackReceiveBufferSize (ackMessage conn.tcp) ≤ b.connectionRxBufferSize) := by
  have hpromised := h.promised conn (List.mem_of_getElem? found) established
  rw [ackReceiveBufferSize_ackMessage]
  constructor
  · intro haccepts hmultiple
    by_contra hlarge
    have hlimit : rxLimit b c = b.connectionRxBufferSize := if_pos hmultiple
    have hmin : 8192 ≤ rxLimit b c := minChunkSize_le_rxLimit hvalid
    exact not_acceptsSize found connected _ (by omega) (by omega) (haccepts _ (by omega) le_rfl)
  · intro hfits size hmin hsize
    apply acceptsSize_of_le found connected hmin
    unfold rxLimit
    split
    · rename_i hmultiple
      exact hsize.trans (hfits hmultiple)
    · exact hsize.trans hpromised

namespace Script

def acknowledged (c : Config Script) : Server Script Unit := play c [connect 10, deliver 10 (hello 8192)]

def acknowledgedConn (c : Config Script) : Connection := (acknowledged c).conns.getD 0 (.empty 0)

theorem acknowledged_size_accepted_equal_buffers :
    (acknowledgedConn (config 4 8192 none)).tcp.established = true ∧ ∀ size, 8 ≤ size → size ≤ 8192 →
      AcceptsSize build (config 4 8192 none) application (acknowledged (config 4 8192 none)) 0
        (acknowledgedConn (config 4 8192 none)) size := by
  have hconn : (acknowledgedConn (config 4 8192 none)).clientHandle.isSome = true ∧
      (acknowledgedConn (config 4 8192 none)).tcp.established = true ∧
      ackReceiveBufferSize (ackMessage (acknowledgedConn (config 4 8192 none)).tcp) = 8192 := by decide
  obtain ⟨hconnected, hestablished, hack⟩ := hconn
  have hreachable :
      Reachable build (config 4 8192 none) application (acknowledged (config 4 8192 none)) :=
    play_reachable (by decide) _
  obtain ⟨a, w, hrun⟩ := hreachable.run
  have hfound :
      (acknowledged (config 4 8192 none)).conns[0]? = some (acknowledgedConn (config 4 8192 none)) := by
    decide
  have hiff :=
    acknowledged_size_accepted hreachable.valid (hrun.steps hreachable.valid) hfound
      hconnected hestablished
  rw [hack] at hiff
  exact ⟨hestablished, hiff.mpr (fun _ => by decide)⟩

def largeReceiveBuffer : Config Script := { config 4 8192 none with receiveBufferSize := 65536 }

theorem acknowledged_size_rejected :
    Reachable build largeReceiveBuffer application (acknowledged largeReceiveBuffer) ∧
      (acknowledgedConn largeReceiveBuffer).tcp.established = true ∧
      ¬ ∀ size, 8 ≤ size →
        size ≤ ackReceiveBufferSize (ackMessage (acknowledgedConn largeReceiveBuffer).tcp) →
        AcceptsSize build largeReceiveBuffer application (acknowledged largeReceiveBuffer) 0
          (acknowledgedConn largeReceiveBuffer) size := by
  have hconn : (acknowledgedConn largeReceiveBuffer).clientHandle.isSome = true ∧
      (acknowledgedConn largeReceiveBuffer).tcp.established = true ∧
      ackReceiveBufferSize (ackMessage (acknowledgedConn largeReceiveBuffer).tcp) = 65536 := by decide
  obtain ⟨hconnected, hestablished, hack⟩ := hconn
  refine ⟨play_reachable (by decide) _, hestablished, fun haccepts => ?_⟩
  rw [hack] at haccepts
  exact not_acceptsSize (by decide) hconnected 8193 (by decide) (by decide)
    (haccepts 8193 (by decide) (by decide))

end Script

end Size

section Stream

def Event.message? (id : ConnId) : Event W A → Option Bytes
  | .message conn bytes _ => if conn = id then some bytes else none
  | _ => none

def handed (id : ConnId) (trace : List (Event W A)) : List Bytes :=
  (trace.filterMap (Event.message? id)).reverse

section Framing

variable {l : Bytes} {n : Nat}

section

variable (h : (if 8 ≤ l.length ∧ 8 ≤ messageSize l ∧ messageSize l ≤ rxLimit b c ∧
    messageSize l ≤ l.length then some (messageSize l) else none) = some n)

include h

theorem messageSize_complete :
    n = messageSize l ∧ 8 ≤ l.length ∧ 8 ≤ n ∧ n ≤ rxLimit b c ∧ n ≤ l.length := by
  split at h
  · rename_i hcomplete
    obtain rfl := Option.some.inj h
    exact ⟨rfl, hcomplete⟩
  · cases h

theorem messageSize_stable (r : Bytes) :
    (if 8 ≤ (l ++ r).length ∧ 8 ≤ messageSize (l ++ r) ∧ messageSize (l ++ r) ≤ rxLimit b c ∧
      messageSize (l ++ r) ≤ (l ++ r).length then some (messageSize (l ++ r)) else none) = some n := by
  obtain ⟨rfl, hlong, hsize, hlimit, hle⟩ := messageSize_complete h
  have hfield : messageSize (l ++ r) = messageSize l := by
    rw [messageSize, messageSize, u32At, u32At, List.drop_append_of_le_length (by omega),
      List.take_append_of_le_length (by rw [List.length_drop]; omega)]
  rw [hfield, List.length_append, if_pos (by omega)]

end

end Framing

variable (b c) in
/-- Cutting a stream into messages by their MessageSize field, up to the size of the receive buffer. -/
def messageFraming : Framing UInt8 where
  next rx :=
    if 8 ≤ rx.length ∧ 8 ≤ messageSize rx ∧ messageSize rx ≤ rxLimit b c ∧ messageSize rx ≤ rx.length
    then some (messageSize rx) else none
  pos h := Nat.lt_of_lt_of_le (Nat.succ_pos 7) (messageSize_complete h).2.2.1
  le h := (messageSize_complete h).2.2.2.2
  stable := messageSize_stable

variable (b c) in
def readPiece (conn : Connection) (w : W) : Bytes :=
  match conn.clientHandle with
  | none => []
  | some h =>
    if conn.rx.length < rxLimit b c then
      match ((c.platform.read h (rxLimit b c - conn.rx.length)).run.run w).1 with
      | .ok bs => bs.1
      | .error _ => []
    else []

def stream (id : ConnId) (reads : List (ConnId × Bytes)) : Bytes :=
  ((reads.filter (fun p => p.1 = id)).map Prod.snd).flatten

def Connection.Beside (conn conn' : Connection) : Prop :=
  conn'.id = conn.id ∧ (conn'.clientHandle.isSome = true → conn.clientHandle.isSome = true ∧
    conn'.rx = conn.rx) ∨ conn'.id = ⟨conn.id.slot, conn.id.epoch + 1⟩ ∧ conn'.rx = []

structure Beside (s t : Server W A) : Prop where
  handed : ∀ id, handed id t.trace = handed id s.trace
  conns : ∀ (i : Nat) (conn' : Connection), t.conns[i]? = some conn' → ∃ conn,
    s.conns[i]? = some conn ∧ conn.Beside conn'

variable (b c app) in
/-- A run of the server with the reads of its connections: each read is followed by the message loop
of its connection. -/
inductive Reads : Server W A → List (ConnId × Bytes) → Server W A → Prop where
  | refl (s : Server W A) : Reads s [] s
  | serve {s l t} (i : Nat) (conn : Connection) (h : Reads s l t) (found : t.conns[i]? = some conn)
      (connected : conn.clientHandle.isSome = true) :
      Reads s (l ++ [(conn.id, readPiece b c conn t.world)]) (serveConnection b c app i t)
  | beside {s l t u} (h : Reads s l t) (hbeside : Beside t u) : Reads s l u

theorem nextMessage_cases (b : Build) (c : Config W) (rx : Bytes) :
    (nextMessage b c rx = .wait ∨ nextMessage b c rx = .malformed) ∧
      (messageFraming b c).next rx = none ∨ ∃ n, (messageFraming b c).next rx = some n ∧
      nextMessage b c rx = .complete (rx.take n) (rx.drop n) := by
  simp only [nextMessage, messageFraming, messageSize]
  by_cases hheader : rx.length < 8
  · exact .inl ⟨.inl (if_pos hheader), if_neg (by omega)⟩
  · rw [if_neg hheader]
    by_cases hsize : (u32At rx 4).toNat < 8 ∨ (u32At rx 4).toNat > rxLimit b c
    · exact .inl ⟨.inr (if_pos hsize), if_neg (by omega)⟩
    · rw [if_neg hsize]
      by_cases hcomplete : (u32At rx 4).toNat > rx.length
      · exact .inl ⟨.inl (if_pos hcomplete), if_neg (by omega)⟩
      · exact .inr ⟨(u32At rx 4).toNat, if_pos (by omega), if_neg hcomplete⟩

theorem nextMessage_wait (hlimit : minChunkSize ≤ rxLimit b c) {rx : Bytes}
    (h : nextMessage b c rx = .wait) : rx.length < rxLimit b c := by
  have hmin : 8192 ≤ rxLimit b c := hlimit
  simp only [nextMessage] at h
  split at h
  · omega
  · split at h
    · cases h
    · split at h
      · omega
      · cases h

theorem handed_cons (id : ConnId) (e : Event W A) (l : List (Event W A)) :
    handed id (e :: l) = handed id l ++ (e.message? id).toList := by
  cases he : e.message? id <;> simp [handed, he]

structure Kept (u v : Ctx W A) : Prop where
  id : v.conn.id = u.conn.id
  handed : ∀ id, handed id v.trace = handed id u.trace
  rx : v.conn.clientHandle.isSome = true → u.conn.clientHandle.isSome = true ∧ v.conn.rx = u.conn.rx

variable (u : Ctx W A)

theorem Kept.refl : Kept u u := ⟨rfl, fun _ => rfl, fun h => ⟨h, rfl⟩⟩

theorem Kept.world (w : W) : Kept u { u with world := w } := ⟨rfl, fun _ => rfl, fun h => ⟨h, rfl⟩⟩

theorem Kept.trans {u v w : Ctx W A} (h : Kept u v) (h' : Kept v w) : Kept u w := by
  refine ⟨h'.id.trans h.id, fun id => (h'.handed id).trans (h.handed id), fun hw => ?_⟩
  obtain ⟨hv, hrx⟩ := h'.rx hw
  exact ⟨(h.rx hv).1, hrx.trans (h.rx hv).2⟩

theorem handed_silent {id : ConnId} {e : Event W A} {l : List (Event W A)} (h : e.message? id = none) :
    handed id (e :: l) = handed id l := by
  rw [handed_cons, h, Option.toList_none, List.append_nil]

theorem Ctx.written_handed (content : Content) (bytes : Bytes) (id : ConnId) :
    handed id (u.written content bytes).trace = handed id u.trace := by
  obtain heq | ⟨h, -, heq⟩ := u.written_trace content bytes
  · rw [heq]
  · rw [heq, handed_silent rfl]

theorem Act.kept {k : Cause b W A} {u v : Ctx W A} (h : Act b c app k u v)
    (hk : k ≠ .housekeeping) : Kept u v := by
  cases h with
  | quiet h =>
    refine ⟨by rw [h.conn], fun id => by rw [h.trace], fun hopen => ?_⟩
    rw [h.conn] at hopen ⊢
    exact ⟨hopen, rfl⟩
  | buffer | accept => exact absurd rfl hk
  | close | shut => exact ⟨rfl, fun _ => handed_silent rfl, fun hopen => nomatch hopen⟩
  | transport bytes =>
    refine ⟨by rw [Ctx.written_conn], Ctx.written_handed _ _ _, fun hopen => ?_⟩
    rw [Ctx.written_conn] at hopen ⊢
    exact ⟨hopen, rfl⟩
  | send requestId payload publish bytes =>
    refine ⟨by rw [Ctx.written_conn]; rfl, Ctx.written_handed _ _ _, fun hopen => ?_⟩
    rw [Ctx.written_conn] at hopen ⊢
    exact ⟨hopen, rfl⟩
  | hello | dispatch => exact ⟨rfl, fun _ => handed_silent rfl, fun hopen => ⟨hopen, rfl⟩⟩
  | _ => exact ⟨rfl, fun _ => rfl, fun hopen => ⟨hopen, rfl⟩⟩

theorem Acts.kept {k : Cause b W A} {u v : Ctx W A} (h : Acts b c app k u v)
    (hk : k ≠ .housekeeping) : Kept u v := by
  induction h with
  | refl => exact .refl u
  | tail _ hact ih => exact ih.trans (hact.kept hk)

theorem dropConnection_kept : Kept u ((dropConnection c).run u).2 :=
  ⟨rfl, fun _ => handed_silent rfl, fun hopen => nomatch hopen⟩

theorem checkTimeout_kept : Kept u ((checkTimeout c).run u).2 := by
  simp only [checkTimeout, run_bind, run_get, onWorld_run, run_ite]
  split
  · exact (Kept.world u _).trans (dropConnection_kept _)
  · exact .world u _

theorem receive_run : Kept u ((receive b c).run u).2 ∧ ((receive b c).run u).2.conn.clientHandle = none ∧
        ((receive b c).run u).2.conn.rx = [] ∨
      ((receive b c).run u).2.conn.id = u.conn.id ∧
        (∀ id, handed id ((receive b c).run u).2.trace = handed id u.trace) ∧
      ((receive b c).run u).2.conn.clientHandle = u.conn.clientHandle ∧
      ((receive b c).run u).2.conn.rx = u.conn.rx ++ readPiece b c u.conn u.world := by
  unfold receive
  rw [run_bind, run_get]
  cases hhandle : u.conn.clientHandle with
  | none =>
    have hpiece : readPiece b c u.conn u.world = [] := by simp only [readPiece, hhandle]
    rw [hpiece, List.append_nil]
    dsimp only
    rw [hhandle]
    exact .inr ⟨rfl, fun _ => rfl, hhandle, rfl⟩
  | some h =>
    dsimp only
    rw [hhandle]
    dsimp only
    by_cases hroom : u.conn.rx.length < rxLimit b c
    · rw [if_pos hroom, run_bind, onWorld_run]
      dsimp only
      cases hread : ((c.platform.read h (rxLimit b c - u.conn.rx.length)).run.run u.world).1 with
      | error e => exact .inl ⟨(Kept.world u _).trans (dropConnection_kept _), rfl, rfl⟩
      | ok bs =>
        have hpiece :
          readPiece b c u.conn u.world = bs.1 := by simp only [readPiece, hhandle, hroom, if_true, hread]
        rw [hpiece]
        refine .inr ?_
        dsimp only
        split
        · exact ⟨rfl, fun _ => rfl, hhandle, rfl⟩
        · rename_i hempty
          have hnil : bs.1 = [] := List.length_eq_zero_iff.mp (by omega)
          rw [hnil, List.append_nil]
          exact ⟨rfl, fun _ => rfl, hhandle, rfl⟩
    · have hpiece :
        readPiece b c u.conn u.world = [] := by simp only [readPiece, hhandle, hroom, if_false]
      rw [if_neg hroom, hpiece, List.append_nil]
      exact .inr ⟨rfl, fun _ => rfl, hhandle, rfl⟩

/-- What the message loop does to connection `i`, which was `conn`: it hands over messages from the front
of the receive buffer, all of them unless the connection is closed. -/
structure Drained (b : Build) (c : Config W) (i : Nat) (conn : Connection)
    (s t : Server W A) : Prop where
  others : ∀ j, j ≠ i → t.conns[j]? = s.conns[j]?
  elsewhere : ∀ id, id ≠ conn.id → handed id t.trace = handed id s.trace
  slot : ∃ conn', t.conns[i]? = some conn' ∧ conn'.id = conn.id ∧ ∃ messages,
    messages <+: ((messageFraming b c).parse conn.rx).1 ∧
    handed conn.id t.trace = handed conn.id s.trace ++ messages ∧
    (conn'.clientHandle.isSome = true → conn.clientHandle.isSome = true ∧
      messages = ((messageFraming b c).parse conn.rx).1 ∧
      conn'.rx = ((messageFraming b c).parse conn.rx).2 ∧
      nextMessage b c conn'.rx = .wait)

section Drain

variable {i : Nat} {conn : Connection}

theorem Drained.refl (found : s.conns[i]? = some conn) (hnext : conn.clientHandle.isSome = true →
    nextMessage b c conn.rx = .wait ∧ (messageFraming b c).next conn.rx = none) :
      Drained b c i conn s s := by
  refine ⟨fun _ _ => rfl, fun _ _ => rfl, conn, found, rfl, [], List.nil_prefix,
    (List.append_nil _).symm, ?_⟩
  intro hopen
  obtain ⟨hwait, hnone⟩ := hnext hopen
  rw [Framing.parse_none hnone]
  exact ⟨hopen, rfl, rfl, hwait⟩

theorem Server.onConn_found (found : s.conns[i]? = some conn) (m : ConnM W A Unit) :
    s.onConn i m = s.put i (m.run (s.ctx conn)).2 := by
  rw [Server.onConn, found]

theorem Drained.dropped (found : s.conns[i]? = some conn) :
    Drained b c i conn s (s.onConn i (dropConnection c)) := by
  rw [Server.onConn_found found]
  have hkept : Kept (s.ctx conn) ((dropConnection c).run (s.ctx conn)).2 := dropConnection_kept _
  refine ⟨fun j hj => List.getElem?_set_ne hj.symm, fun id _ =>
    hkept.handed id, _, Server.put_found found _, rfl, [], List.nil_prefix, ?_,
      fun hopen => nomatch hopen⟩
  rw [List.append_nil]
  exact hkept.handed conn.id

theorem Drained.message {conn' : Connection} {s' : Server W A} {n : Nat} {message : Bytes}
    (hnext : (messageFraming b c).next conn.rx = some n) (hmessage : message = conn.rx.take n)
    (hid : conn'.id = conn.id)
    (hopen : conn'.clientHandle.isSome = true → conn.clientHandle.isSome = true)
    (hrx : conn'.rx = if conn'.clientHandle.isNone then [] else conn.rx.drop n)
    (hothers : ∀ j, j ≠ i → s'.conns[j]? = s.conns[j]?)
    (hhanded : ∀ id, handed id s'.trace = handed id s.trace ++ if conn.id = id then [message] else [])
    (h : Drained b c i conn' s' t) : Drained b c i conn s t := by
  obtain ⟨conn'', hfound, hid', messages, hmessages, hhanded', hrest⟩ := h.slot
  have hparse := Framing.parse_some hnext
  have hnil : ((messageFraming b c).parse []).1 = [] := by rw [Framing.parse_none (by rfl)]
  refine ⟨fun j hj => (h.others j hj).trans (hothers j hj), fun id hne => ?_, conn'',
    hfound, hid'.trans hid, message :: messages, ?_, ?_, fun hopen'' => ?_⟩
  · rw [h.elsewhere id (hid ▸ hne), hhanded, if_neg hne.symm, List.append_nil]
  · rw [hparse, hmessage]
    apply List.cons_prefix_cons.mpr
    refine ⟨rfl, hmessages.trans ?_⟩
    rw [hrx]
    split
    · rw [hnil]
      exact List.nil_prefix
    · exact List.prefix_rfl
  · rw [hid] at hhanded'
    rw [hhanded', hhanded, if_pos rfl, List.append_assoc, List.singleton_append]
  · obtain ⟨hopen', hall, hleft, hwait⟩ := hrest hopen''
    have hrx : conn'.rx = conn.rx.drop n := by
      rw [hrx, if_neg (by simpa [Option.isSome_iff_ne_none] using hopen')]
    rw [hrx] at hall hleft
    refine ⟨hopen hopen', ?_, ?_, hwait⟩
    · rw [hparse, hmessage, hall]
    · rw [hparse, hleft]

theorem handed_message (id id' : ConnId) (message : Bytes) (before : Snapshot W A)
    (l : List (Event W A)) :
    handed id' (.message id message before :: l) = handed id' l ++ if id = id' then
      [message] else [] := by
  rw [handed_cons]
  congr 1
  simp only [Event.message?]
  split <;> rfl

theorem processMessage_kept (app : Application W A) {message rest : Bytes}
    (found : s.conns[i]? = some conn) (connected : conn.clientHandle.isSome = true)
    (hcomplete : nextMessage b c conn.rx = .complete message rest) :
    Kept ((s.record (.message conn.id message s.snapshot)).ctx conn)
      ((processMessage b c app message).run
        ((s.record (.message conn.id message s.snapshot)).ctx conn)).2 := by
  let a : Arrival W A :=
    ⟨(s.record (.message conn.id message s.snapshot)).ctx conn, message, s.conns, s.trace, rfl,
      List.mem_of_getElem? found, connected, nextMessage_complete hcomplete⟩
  exact Acts.kept (k := .message a) (processMessage_acts a) nofun

theorem messageFraming_next {rx : Bytes} {size : Nat} (h : (messageFraming b c).next rx = some size) :
    8 ≤ rx.length ∧ 8 ≤ size := by
  simp only [messageFraming] at h
  split at h
  · obtain rfl := Option.some.inj h
    omega
  · cases h

theorem processBuffer_drained (fuel : Nat) (s : Server W A) (conn : Connection)
    (found : s.conns[i]? = some conn) (hfuel : conn.rx.length ≤ fuel) :
    Drained b c i conn s (processBuffer b c app i fuel s) := by
  induction fuel generalizing s conn with
  | zero =>
    have hnil : conn.rx = [] := List.length_eq_zero_iff.mp (Nat.le_zero.mp hfuel)
    apply Drained.refl found
    rw [hnil]
    exact fun _ => ⟨rfl, rfl⟩
  | succ n ih =>
    unfold processBuffer
    rw [found]
    dsimp only
    by_cases hclosed : conn.clientHandle.isNone = true
    · rw [if_pos hclosed]
      apply Drained.refl found
      intro hopen
      rw [Option.isNone_iff_eq_none.mp hclosed] at hopen
      cases hopen
    · rw [if_neg hclosed]
      have hopen : conn.clientHandle.isSome = true := by simpa [Option.isSome_iff_ne_none] using hclosed
      obtain ⟨hwait | hmalformed, hnone⟩ | ⟨size, hsome, hcomplete⟩ := nextMessage_cases b c conn.rx
      · rw [hwait]
        exact .refl found (fun _ => ⟨hwait, hnone⟩)
      · rw [hmalformed]
        exact .dropped found
      · rw [hcomplete]
        have hsize := messageFraming_next hsome
        have hkept := processMessage_kept app found hopen hcomplete
        have hfound :
          (s.record (.message conn.id (conn.rx.take size) s.snapshot)).conns[i]? = some conn := found
        dsimp only
        rw [Server.onConn_found hfound]
        refine .message hsome rfl ?_ (fun _ => hopen) ?_ (fun j hj => List.getElem?_set_ne hj.symm) ?_
          (ih _ _ (Server.put_found hfound _) ?_)
        · exact hkept.id
        · rfl
        · exact fun id => (hkept.handed id).trans (handed_message ..)
        · simp only [processOne, run_bind, run_modify]
          split
          · exact Nat.zero_le n
          · rw [List.length_drop]
            omega

/-- How the message loop comes to leave connection `i` closed: its last step processes the last message
handed over, or all messages are handed over and a malformed header follows. -/
def ClosedByLoop (b : Build) (c : Config W) (app : Application W A) (i : Nat) (conn : Connection)
    (s t : Server W A) : Prop :=
  ∃ messages, handed conn.id t.trace = handed conn.id s.trace ++ messages ∧
    ((∃ (s' : Server W A) (message rest : Bytes), messages.getLast? = some message ∧
      s'.connected i = true ∧
        t = (s'.record (.message conn.id message s'.snapshot)).onConn i
        (processOne b c app message rest)) ∨
      messages = ((messageFraming b c).parse conn.rx).1 ∧
        nextMessage b c ((messageFraming b c).parse conn.rx).2 = .malformed)

theorem processBuffer_none (fuel : Nat) (found : s.conns[i]? = some conn)
    (hclosed : conn.clientHandle = none) : processBuffer b c app i fuel s = s := by
  cases fuel with
  | zero => rfl
  | succ n =>
    unfold processBuffer
    rw [found]
    dsimp only
    rw [if_pos (by rw [hclosed]; rfl)]

theorem processBuffer_closed (fuel : Nat) (s : Server W A) (conn : Connection)
    (found : s.conns[i]? = some conn) (connected : s.connected i = true) (hfuel : conn.rx.length ≤ fuel)
    (hclosed : (processBuffer b c app i fuel s).connected i = false) :
    ClosedByLoop b c app i conn s (processBuffer b c app i fuel s) := by
  induction fuel generalizing s conn with
  | zero =>
    exact absurd connected (by rw [show s.connected i = false from hclosed]; exact Bool.false_ne_true)
  | succ n ih =>
    have hopen : conn.clientHandle.isSome = true := by
      simpa [Server.connected, found] using connected
    have hhandle : ¬ conn.clientHandle.isNone = true := by
      rw [Option.isNone_iff_eq_none]
      exact Option.isSome_iff_ne_none.mp hopen
    unfold processBuffer at hclosed ⊢
    rw [found] at hclosed ⊢
    dsimp only at hclosed ⊢
    rw [if_neg hhandle] at hclosed ⊢
    obtain ⟨hwait | hmalformed, hnone⟩ | ⟨size, hsome, hcomplete⟩ := nextMessage_cases b c conn.rx
    · rw [hwait] at hclosed
      cases connected.symm.trans hclosed
    · rw [hmalformed]
      refine ⟨[], ?_, .inr ?_⟩
      · rw [Server.onConn_found found, List.append_nil]
        exact (dropConnection_kept (s.ctx conn)).handed conn.id
      · rw [Framing.parse_none hnone]
        exact ⟨rfl, hmalformed⟩
    · rw [hcomplete] at hclosed ⊢
      dsimp only at hclosed ⊢
      have hkept := processMessage_kept app found hopen hcomplete
      have hfound : (s.record (.message conn.id (conn.rx.take size) s.snapshot)).conns[i]? = some conn :=
        found
      obtain ⟨conn', hconn', hid, hrx, hhanded⟩ :
        ∃ conn', ((s.record (.message conn.id (conn.rx.take size)
          s.snapshot)).onConn i (processOne b c app (conn.rx.take size) (conn.rx.drop size))).conns[i]? =
            some conn' ∧ conn'.id = conn.id ∧
            (conn'.clientHandle.isSome = true → conn'.rx = conn.rx.drop size) ∧
            handed conn.id ((s.record (.message conn.id (conn.rx.take size) s.snapshot)).onConn i
              (processOne b c app (conn.rx.take size) (conn.rx.drop size))).trace =
                handed conn.id s.trace ++ [conn.rx.take size] := by
        rw [Server.onConn_found hfound]
        refine ⟨_, Server.put_found hfound _, hkept.id, fun hstill => ?_, ?_⟩
        · simp only [processOne, run_bind, run_modify] at hstill ⊢
          exact if_neg (by simpa [Option.isSome_iff_ne_none] using hstill)
        · refine ((hkept.handed conn.id).trans (handed_message ..)).trans ?_
          rw [if_pos rfl]
      generalize hnext : (s.record (.message conn.id (conn.rx.take size) s.snapshot)).onConn i
        (processOne b c app (conn.rx.take size) (conn.rx.drop size)) = t at hclosed hconn' hhanded ⊢
      cases hhandle' : conn'.clientHandle with
      | none =>
        rw [processBuffer_none n hconn' hhandle']
        exact ⟨[conn.rx.take size], hhanded, .inl ⟨s, _, _, rfl, connected, hnext.symm⟩⟩
      | some h =>
        have hopen' : conn'.clientHandle.isSome = true := by rw [hhandle']; rfl
        have hrx := hrx hopen'
        have hshorter : conn'.rx.length ≤ n := by
          have hsize := messageFraming_next hsome
          rw [hrx, List.length_drop]
          omega
        obtain ⟨messages, hlater, hreason⟩ :=
          ih t conn' hconn' (by rw [Server.connected, hconn']; exact hopen') hshorter hclosed
        rw [hid, hhanded, List.append_assoc] at hlater
        refine ⟨conn.rx.take size :: messages, hlater, ?_⟩
        obtain ⟨s', message, rest, hlast, hconnected, hstep⟩ | ⟨hall, hmalformed⟩ := hreason
        · rw [hid] at hstep
          refine .inl ⟨s', message, rest, ?_, hconnected, hstep⟩
          cases messages with
          | nil => cases hlast
          | cons x xs => exact hlast
        · rw [hrx] at hall hmalformed
          rw [Framing.parse_some hsome, hall]
          exact .inr ⟨rfl, hmalformed⟩

theorem serveConnection_drained (found : s.conns[i]? = some conn)
    (connected : conn.clientHandle.isSome = true) :
    Drained b c i { conn with rx := conn.rx ++ readPiece b c conn s.world } s
      (serveConnection b c app i s) := by
  have hconnected : s.connected i = true := by
    rw [Server.connected, found]
    exact connected
  have hs : (s.onConn i (receive b c)).conns[i]? = some ((receive b c).run (s.ctx conn)).2.conn := by
    rw [Server.onConn_found found]
    exact Server.put_found found _
  have hothers (j : Nat) (hj : j ≠ i) : (s.onConn i (receive b c)).conns[j]? = s.conns[j]? := by
    rw [Server.onConn_found found]
    exact List.getElem?_set_ne hj.symm
  have htrace : (s.onConn i (receive b c)).trace = ((receive b c).run (s.ctx conn)).2.trace := by
    rw [Server.onConn_found found]
    rfl
  have hserve : serveConnection b c app i s =
      processBuffer b c app i ((receive b c).run (s.ctx conn)).2.conn.rx.length
      (s.onConn i (receive b c)) := by
    simp only [serveConnection, hconnected, hs]
    rfl
  have hdrained : Drained b c i ((receive b c).run (s.ctx conn)).2.conn (s.onConn i (receive b c))
      (serveConnection b c app i s) := hserve ▸ processBuffer_drained _ _ _ hs le_rfl
  obtain ⟨conn', hfound, hid, messages, hmessages, hhanded, hrest⟩ := hdrained.slot
  rw [htrace] at hhanded
  obtain ⟨hkept, hclosed, hempty⟩ | ⟨hid', hhanded', hhandle, hrx⟩ :=
    receive_run (b := b) (c := c) (s.ctx conn)
  · have hnone : messages = [] := by
      rw [hempty, Framing.parse_none (by rfl)] at hmessages
      exact List.prefix_nil.mp hmessages
    refine ⟨fun j hj => (hdrained.others j hj).trans (hothers j hj), fun id hne => ?_, conn', hfound,
      hid.trans hkept.id, [], List.nil_prefix, ?_, fun hopen => ?_⟩
    · rw [hdrained.elsewhere id (hkept.id ▸ hne), htrace, hkept.handed]
      rfl
    · rw [hkept.id, hkept.handed, hnone] at hhanded
      exact hhanded
    · have hopen' := (hrest hopen).1
      rw [hclosed] at hopen'
      cases hopen'
  · rw [hid', hhanded'] at hhanded
    rw [hrx] at hmessages
    refine ⟨fun j hj => (hdrained.others j hj).trans (hothers j hj), fun id hne => ?_, conn',
      hfound, hid.trans hid', messages, hmessages, hhanded, fun hopen => ?_⟩
    · rw [hdrained.elsewhere id (hid' ▸ hne), htrace, hhanded']
      rfl
    · obtain ⟨-, hall, hleft, hwait⟩ := hrest hopen
      rw [hrx] at hall hleft
      exact ⟨connected, hall, hleft, hwait⟩

end Drain

theorem stream_concat (id id' : ConnId) (l : List (ConnId × Bytes)) (piece : Bytes) :
    stream id (l ++ [(id', piece)]) = stream id l ++ if id' = id then piece else [] := by
  by_cases h : id' = id <;> simp [stream, h]

variable (b c) in
structure Reassembled (l : List (ConnId × Bytes)) (s : Server W A) : Prop where
  slots : ∀ (i : Nat) (conn : Connection), s.conns[i]? = some conn → conn.id.slot = i
  fresh : ∀ id, stream id l ≠ [] ∨ handed id s.trace ≠ [] → ∀ conn, s.conns[id.slot]? = some conn →
    id.epoch ≤ conn.id.epoch
  handed : ∀ id, handed id s.trace <+: ((messageFraming b c).parse (stream id l)).1
  buffered : ∀ (i : Nat) (conn : Connection), s.conns[i]? = some conn → conn.clientHandle.isSome = true →
    MicroOpcua.handed conn.id s.trace = ((messageFraming b c).parse (stream conn.id l)).1 ∧
      conn.rx = ((messageFraming b c).parse (stream conn.id l)).2 ∧ nextMessage b c conn.rx = .wait

namespace Reassembled

variable {l : List (ConnId × Bytes)}

theorem parse_nil : (messageFraming b c).parse [] = ([], []) := Framing.parse_none rfl

theorem init (a : A) (w : W) : Reassembled b c [] (Server.init b a w) := by
  refine ⟨(WellFormed.init b a w).slots, fun id h => ?_, fun id =>
    List.nil_prefix, fun i conn found hopen => ?_⟩
  · exact absurd h (by simp [stream, MicroOpcua.handed, Server.init])
  · obtain ⟨slot, -, rfl⟩ := List.mem_map.mp (List.mem_of_getElem? found)
    cases hopen

theorem beside (h : Reassembled b c l s) (hbeside : Beside s t) : Reassembled b c l t := by
  refine ⟨fun i conn' found => ?_, fun id hid conn' found => ?_, fun id =>
    hbeside.handed id ▸ h.handed id, fun i conn' found hopen => ?_⟩
  · obtain ⟨conn, hconn, ⟨hid, -⟩ | ⟨hid, -⟩⟩ := hbeside.conns i conn' found
    · rw [hid]
      exact h.slots i conn hconn
    · rw [hid]
      exact h.slots i conn hconn
  · rw [hbeside.handed] at hid
    obtain ⟨conn, hconn, ⟨hid', -⟩ | ⟨hid', -⟩⟩ := hbeside.conns _ conn' found
    · rw [hid']
      exact h.fresh id hid conn hconn
    · rw [hid']
      exact (h.fresh id hid conn hconn).trans (Nat.le_succ _)
  · rw [hbeside.handed]
    obtain ⟨conn, hconn, ⟨hid, hrx⟩ | ⟨hid, hrx⟩⟩ := hbeside.conns i conn' found
    · obtain ⟨hopen', hrx⟩ := hrx hopen
      rw [hid, hrx]
      exact h.buffered i conn hconn hopen'
    · have hunused : ¬ (stream conn'.id l ≠ [] ∨ MicroOpcua.handed conn'.id s.trace ≠ []) := by
        intro hused
        have hslot : conn'.id.slot = i := by
          rw [hid]
          exact h.slots i conn hconn
        have hle := h.fresh conn'.id hused conn (hslot ▸ hconn)
        rw [hid] at hle
        exact absurd hle (Nat.not_succ_le_self _)
      simp only [ne_eq, not_or, not_not] at hunused
      rw [hunused.1, hunused.2, hrx, parse_nil]
      exact ⟨rfl, rfl, rfl⟩

theorem serve {i : Nat} {conn : Connection} (h : Reassembled b c l s) (found : s.conns[i]? = some conn)
    (connected : conn.clientHandle.isSome = true) :
    Reassembled b c (l ++ [(conn.id, readPiece b c conn s.world)]) (serveConnection b c app i s) := by
  have hdrained : Drained b c i { conn with rx := conn.rx ++ readPiece b c conn s.world } s
      (serveConnection b c app i s) := serveConnection_drained found connected
  obtain ⟨conn', hfound, hid, messages, hmessages, hhanded, hrest⟩ := hdrained.slot
  obtain ⟨hbefore, hrx, -⟩ := h.buffered i conn found connected
  generalize serveConnection b c app i s = t at hdrained hfound hhanded
  generalize readPiece b c conn s.world = piece at *
  have hparse := Framing.parse_append (F := messageFraming b c) (stream conn.id l) piece
  rw [← hrx] at hparse
  have hsame (id : ConnId) (hne : id ≠ conn.id) : stream id (l ++ [(conn.id, piece)]) = stream id l := by
    rw [stream_concat, if_neg hne.symm, List.append_nil]
  have hown : stream conn.id (l ++ [(conn.id, piece)]) = stream conn.id l ++ piece := by
    rw [stream_concat, if_pos rfl]
  have hslot (j : Nat) (conn'' : Connection) (hj : t.conns[j]? = some conn'') :
      j = i ∧ conn'' = conn' ∨ j ≠ i ∧ s.conns[j]? = some conn'' := by
    by_cases hji : j = i
    · subst hji
      exact .inl ⟨rfl, Option.some.inj (hj.symm.trans hfound)⟩
    · exact .inr ⟨hji, (hdrained.others j hji) ▸ hj⟩
  refine ⟨fun j conn'' hj => ?_, fun id hused conn'' hj => ?_, fun id => ?_, fun j conn'' hj hopen => ?_⟩
  · obtain ⟨rfl, rfl⟩ | ⟨-, hj⟩ := hslot j conn'' hj
    · rw [hid]
      exact h.slots j conn found
    · exact h.slots j conn'' hj
  · by_cases hne : id = conn.id
    · subst hne
      rw [h.slots i conn found] at hj
      obtain ⟨-, rfl⟩ | ⟨hne, -⟩ := hslot i conn'' hj
      · rw [hid]
      · exact absurd rfl hne
    · rw [hsame id hne, hdrained.elsewhere id hne] at hused
      obtain ⟨hi, rfl⟩ | ⟨-, hj⟩ := hslot _ conn'' hj
      · rw [hid]
        exact h.fresh id hused conn (hi ▸ found)
      · exact h.fresh id hused conn'' hj
  · by_cases hne : id = conn.id
    · subst hne
      rw [hown, hparse, hhanded, hbefore]
      exact (List.prefix_append_right_inj _).mpr hmessages
    · rw [hsame id hne, hdrained.elsewhere id hne]
      exact h.handed id
  · obtain ⟨rfl, rfl⟩ | ⟨hji, hj⟩ := hslot j conn'' hj
    · obtain ⟨-, hall, hleft, hwait⟩ := hrest hopen
      rw [hid, hown, hparse, hhanded, hbefore, hall]
      exact ⟨rfl, hleft, hwait⟩
    · have hne : conn''.id ≠ conn.id := by
        intro heq
        have hslots := h.slots j conn'' hj
        rw [heq, h.slots i conn found] at hslots
        exact hji hslots.symm
      rw [hsame _ hne, hdrained.elsewhere _ hne]
      exact h.buffered j conn'' hj hopen

end Reassembled

theorem Reads.reassembled {a : A} {w : W} {l : List (ConnId × Bytes)}
    (h : Reads b c app (Server.init b a w) l s) : Reassembled b c l s := by
  induction h with
  | refl => exact .init a w
  | serve i conn _ found connected ih => exact ih.serve found connected
  | beside _ hbeside ih => exact ih.beside hbeside

section Coverage

variable (b c app) in
def ReadsOn (s t : Server W A) : Prop := ∃ l, Reads b c app s l t

theorem Reads.trans {u : Server W A} {l l' : List (ConnId × Bytes)} (h : Reads b c app s l t)
    (h' : Reads b c app t l' u) : Reads b c app s (l ++ l') u := by
  induction h' with
  | refl =>
    rw [List.append_nil]
    exact h
  | serve j conn _ found connected ih =>
    rw [← List.append_assoc]
    exact .serve j conn ih found connected
  | beside _ hbeside ih => exact .beside ih hbeside

instance : Std.Refl (ReadsOn b c app) := ⟨fun s => ⟨[], .refl s⟩⟩

instance : IsTrans (Server W A) (ReadsOn b c app) := ⟨fun _ _ _ ⟨_, h⟩ ⟨_, h'⟩ => ⟨_, h.trans h'⟩⟩

theorem ReadsOn.beside (h : Beside s t) : ReadsOn b c app s t := ⟨[], .beside (.refl s) h⟩

theorem Connection.Beside.refl (conn : Connection) : conn.Beside conn := .inl ⟨rfl, fun h => ⟨h, rfl⟩⟩

theorem ReadsOn.of_frame (hconns : t.conns = s.conns)
    (hhanded : ∀ id, handed id t.trace = handed id s.trace) : ReadsOn b c app s t :=
  .beside ⟨hhanded, fun _ conn found => ⟨conn, hconns ▸ found, .refl conn⟩⟩

theorem ReadsOn.onConn {i : Nat} {m : ConnM W A Unit}
    (h : ∀ conn, s.conns[i]? = some conn → conn.Beside (m.run (s.ctx conn)).2.conn ∧
      ∀ id, handed id (m.run (s.ctx conn)).2.trace = handed id s.trace) :
        ReadsOn b c app s (s.onConn i m) := by
  cases found : s.conns[i]? with
  | none =>
    rw [Server.onConn, found]
    exact refl s
  | some conn =>
    rw [Server.onConn_found found]
    refine .beside ⟨(h conn found).2, fun j conn' found' => ?_⟩
    by_cases hji : j = i
    · subst hji
      rw [Server.put_found found] at found'
      exact ⟨conn, found, Option.some.inj found' ▸ (h conn found).1⟩
    · exact ⟨conn', by simpa only [Server.put, List.getElem?_set_ne (Ne.symm hji)] using found',
        .refl conn'⟩

theorem Kept.beside {u v : Ctx W A} (h : Kept u v) : u.conn.Beside v.conn := .inl ⟨h.id, h.rx⟩

theorem ReadsOn.kept {i : Nat} {m : ConnM W A Unit}
    (h : ∀ conn, s.conns[i]? = some conn → Kept (s.ctx conn) (m.run (s.ctx conn)).2) :
    ReadsOn b c app s (s.onConn i m) :=
  .onConn (fun conn found => ⟨(h conn found).beside, (h conn found).handed⟩)

theorem ReadsOn.call {α : Type} (m : StateM W α) (s : Server W A) : ReadsOn b c app s (s.call m).2 :=
  .of_frame rfl (fun _ => rfl)

theorem serveConnection_reads (i : Nat) (s : Server W A) :
    ReadsOn b c app s (serveConnection b c app i s) := by
  by_cases hconnected : s.connected i = true
  · obtain ⟨conn, found, hopen⟩ : ∃ conn, s.conns[i]? = some conn ∧ conn.clientHandle.isSome = true := by
      simpa [Server.connected, Option.any_eq_true] using hconnected
    exact ⟨_, .serve i conn (.refl s) found hopen⟩
  · have hnone : serveConnection b c app i s = s := by
      rw [serveConnection, if_pos (by simpa using hconnected)]
    rw [hnone]
    exact refl s

theorem pollConnection_reads (i : Nat) (s : Server W A) :
    ReadsOn b c app s (pollConnection b c app i s) := by
  unfold pollConnection
  split
  · exact refl s
  · exact IsTrans.trans _ _ _ (.kept (fun _ _ => checkTimeout_kept _)) (serveConnection_reads _ _)

theorem publishOne_reads (hsend : symmetricHeaderSize ≤ c.sendBufferSize) (nowMs : UInt64)
    (s : Server W A) (i : Nat) : ReadsOn b c app s (publishOne b c nowMs s i) := by
  unfold publishOne
  split
  · exact refl s
  · rename_i sub hsub
    split
    · exact refl s
    · split
      · exact refl s
      · rename_i k hk
        have hrecord : ReadsOn b c app s (s.record (.turn i s.snapshot)) :=
          .of_frame rfl (fun _ => handed_silent rfl)
        refine IsTrans.trans _ _ _ hrecord (.kept (fun conn found => ?_))
        let turn : Turn b W A :=
          ⟨(s.record (.turn i s.snapshot)).ctx conn, i, sub, s.conns, s.trace, rfl, hsub,
            List.mem_of_getElem? found, publishConnection_eq_some hk found⟩
        exact Acts.kept (publishTurn_acts app nowMs hsend turn) nofun

theorem pollBackground_reads (hsend : symmetricHeaderSize ≤ c.sendBufferSize) (s : Server W A) :
    ReadsOn b c app s (pollBackground b c app s) := by
  unfold pollBackground
  obtain ⟨r, a, w⟩ := app.pubsubPoll.run (s.shared.app, s.world)
  have hpubsub : ReadsOn b c app s { s with shared := { s.shared with app := a }, world := w } :=
    .of_frame rfl (fun _ => rfl)
  cases r with
  | error e => exact hpubsub
  | ok =>
    dsimp only
    split
    · refine IsTrans.trans _ _ _ hpubsub ?_
      generalize ({ s with shared := { s.shared with app := a }, world := w } : Server W A) = t
      have htick :
          ReadsOn b c app t
          (sampleAll b (t.call c.platform.getTickMs).1 (t.call c.platform.getTickMs).2) :=
        .of_frame rfl (fun _ => rfl)
      exact IsTrans.trans _ _ _ htick (Lib.Table.foldl_rel (publishOne_reads hsend _) _ _)
    · exact hpubsub

theorem acceptConnection_reads (h : Handle) (i : Nat) (s : Server W A) :
    ReadsOn b c app s (s.onConn i (acceptConnection c h)) :=
  .onConn (fun _ _ => ⟨.inr ⟨rfl, rfl⟩, fun _ => handed_silent rfl⟩)

theorem ReadsOn.of_call {α : Type} {m : StateM W α} {r : α} (h : s.call m = (r, t)) :
    ReadsOn b c app s t := by
  have hcall : ReadsOn b c app s (s.call m).2 := .call m s
  rwa [h] at hcall

theorem pollMultiple_reads (s : Server W A) : ReadsOn b c app s (pollMultiple b c app s) := by
  simp only [pollMultiple]
  cases hcall : s.call c.platform.accept with
  | mk accepted t =>
    refine IsTrans.trans _ _ _ (.of_call hcall) ?_
    cases accepted with
    | none => exact Lib.Table.foldl_rel (fun s i => pollConnection_reads i s) _ t
    | some h =>
      dsimp only
      split
      · exact acceptConnection_reads h _ t
      · exact .call _ t

theorem resetShared_reads (s : Server W A) : ReadsOn b c app s (resetShared b s) := by
  unfold resetShared
  split
  · exact refl s
  · exact .of_frame rfl (fun _ => rfl)

theorem pollSingle_reads (s : Server W A) : ReadsOn b c app s (pollSingle b c app s) := by
  simp only [pollSingle]
  split
  · refine IsTrans.trans _ _ _ (.kept (i := 0) (fun _ _ => checkTimeout_kept (c := c) _)) ?_
    generalize s.onConn 0 (checkTimeout c) = t
    split
    · exact refl t
    · cases hcall : t.call c.platform.accept with
      | mk accepted u =>
        refine IsTrans.trans _ _ _ (.of_call hcall) ?_
        cases accepted with
        | none => exact serveConnection_reads 0 u
        | some h =>
          exact IsTrans.trans _ _ _ (.call (refuseAfterHello c h) u) (serveConnection_reads 0 _)
  · cases hcall : s.call c.platform.accept with
    | mk accepted t =>
      refine IsTrans.trans _ _ _ (.of_call hcall) ?_
      cases accepted with
      | none => exact refl t
      | some h => exact IsTrans.trans _ _ _ (resetShared_reads t) (acceptConnection_reads h 0 _)

theorem poll_reads (hsend : symmetricHeaderSize ≤ c.sendBufferSize) (s : Server W A) :
    ReadsOn b c app s (poll b c app s) := by
  unfold poll
  split
  · refine IsTrans.trans _ _ _ ?_ (pollBackground_reads hsend _)
    split
    · exact pollMultiple_reads s
    · exact pollSingle_reads s
  · exact refl s

theorem serverClose_reads (s : Server W A) : ReadsOn b c app s (serverClose b c s) := by
  unfold serverClose
  have hstop : ReadsOn b c app s { s with isRunning := false } := .of_frame rfl (fun _ => rfl)
  refine IsTrans.trans _ _ _ hstop ?_
  generalize ({ s with isRunning := false } : Server W A) = t
  have hreset (u : Ctx W A) : Kept u ((closeChannel c).run u).2 := by
    have hacts : Acts b c app .stopping u _ := closeChannel_acts u
    exact Acts.kept hacts nofun
  dsimp only
  split
  · refine Lib.Table.foldl_rel (fun u i => ?_) _ t
    split
    · refine .kept (fun conn _ => ?_)
      rw [run_bind]
      have hclose : Acts b c app .stopping (u.ctx conn) ((closeConnection c).run (u.ctx conn)).2 :=
        closeConnection_acts _
      exact (Acts.kept hclose nofun).trans (hreset _)
    · exact refl u
  · exact .kept (fun _ _ => hreset _)

theorem operates_reads (hsend : symmetricHeaderSize ≤ c.sendBufferSize) (h : Operates b c app s t) :
    ReadsOn b c app s t := by
  cases h with
  | poll => exact poll_reads hsend s
  | close => exact serverClose_reads s
  | event | environment => exact .of_frame rfl (fun _ => rfl)

theorem Reachable.reads (h : Reachable b c app s) : ∃ a w l, Reads b c app (Server.init b a w) l s := by
  obtain ⟨hvalid, a, w, hrun⟩ := h
  have hsend : symmetricHeaderSize ≤ c.sendBufferSize := .trans (by decide) (configValidate_send hvalid)
  refine ⟨a, w, ?_⟩
  induction hrun with
  | refl => exact ⟨[], .refl _⟩
  | tail _ hop ih =>
    obtain ⟨l, hl⟩ := ih
    obtain ⟨l', hl'⟩ := operates_reads hsend hop
    exact ⟨l ++ l', hl.trans hl'⟩

end Coverage

/-- The messages of a connection are the greedy parse of what was read for it, in every run and however
the reads cut the stream; once the connection is closed, a part from its start. The message loop closes a
connection with the last message it hands over, or for a malformed header after all of them. -/
theorem messages_reassembled (hvalid : configValidate b c = .ok ()) :
    (∀ s : Server W A, Reachable b c app s → ∃ a w l, Reads b c app (.init b a w) l s) ∧
    (∀ a w l (s : Server W A), Reads b c app (.init b a w) l s →
      (∀ id, handed id s.trace <+: ((messageFraming b c).parse (stream id l)).1) ∧
      ∀ conn ∈ s.conns, conn.clientHandle.isSome = true →
        handed conn.id s.trace = ((messageFraming b c).parse (stream conn.id l)).1 ∧
        conn.rx = ((messageFraming b c).parse (stream conn.id l)).2 ∧ conn.rx.length < rxLimit b c) ∧
    (∀ rx, rx.length = rxLimit b c → nextMessage b c rx ≠ .wait) ∧
    ∀ (i : Nat) (s : Server W A) (conn : Connection), s.conns[i]? = some conn → s.connected i = true →
      (processBuffer b c app i conn.rx.length s).connected i = false →
        ClosedByLoop b c app i conn s (processBuffer b c app i conn.rx.length s) := by
  have hlimit := minChunkSize_le_rxLimit hvalid
  refine ⟨fun s h => h.reads, fun a w l s h => ⟨h.reassembled.handed, fun conn hmem hopen => ?_⟩,
    fun rx hfull hwait => ?_, fun i s conn found connected =>
    processBuffer_closed _ s conn found connected le_rfl⟩
  · obtain ⟨i, found⟩ := List.mem_iff_getElem?.mp hmem
    obtain ⟨hhanded, hrx, hwait⟩ := h.reassembled.buffered i conn found hopen
    exact ⟨hhanded, hrx, nextMessage_wait hlimit hwait⟩
  · have hroom := nextMessage_wait hlimit hwait
    omega

namespace Script

def splitHello : Server Script Unit :=
  play (config 4 8192 none)
    [connect 1, deliver 1 ((hello 8192).take 5), deliver 1 ((hello 8192).drop 5)]

theorem messages_reassembled_split :
    configValidate build (config 4 8192 none) = .ok () ∧ handed ⟨0, 1⟩ splitHello.trace = [hello 8192] ∧
      ∃ a w l, Reads build (config 4 8192 none) application (.init build a w) l splitHello ∧
        ((messageFraming build (config 4 8192 none)).parse (stream ⟨0, 1⟩ l)).1 = [hello 8192] := by
  have hvalid : configValidate build (config 4 8192 none) = .ok () := by decide
  have hrun : handed ⟨0, 1⟩ splitHello.trace = [hello 8192] ∧
      ∃ conn ∈ splitHello.conns, conn.id = ⟨0, 1⟩ ∧ conn.clientHandle.isSome = true := by decide +kernel
  obtain ⟨hhanded, conn, hmem, hid, hopen⟩ := hrun
  obtain ⟨a, w, l, hl⟩ := (messages_reassembled hvalid).1 splitHello (play_reachable hvalid _)
  obtain ⟨hall, -⟩ := ((messages_reassembled hvalid).2.1 a w l splitHello hl).2 conn hmem hopen
  rw [hid] at hall
  exact ⟨hvalid, hhanded, a, w, l, hl, hall.symm.trans hhanded⟩

end Script

end Stream

end MicroOpcua
