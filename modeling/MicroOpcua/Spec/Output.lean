import MicroOpcua.Core.HandleLaws
import MicroOpcua.Spec.Channels

namespace MicroOpcua

open Relation Lib.History Lib.StateRun

variable {W A : Type} {b : Build} {c : Config W} {app : Application W A} {s : Server W A}

def Event.chunk? : Event W A → Option (ConnId × UInt32 × UInt32 × Nat)
  | .wrote w =>
    match w.content with
    | .chunk n requestId _ _ => some (w.conn, n, requestId, w.bytes.length)
    | .transport => none
  | _ => none

section Size

def Event.hello? (id : ConnId) : Event W A → Option UInt32
  | .hello conn size => if conn = id then some size else none
  | _ => none

/-- A chunk fits the receive buffer its client announced. -/
def FitsHello (e : Event W A) (past : List (Event W A)) : Prop :=
  ∀ id n requestId length, e.chunk? = some (id, n, requestId, length) →
    ∀ e' ∈ past, ∀ size, e'.hello? id = some size → length ≤ size.toNat

variable (c) in
/-- A client's receive buffer holds the server's send buffer. -/
def HelloCovers : Event W A → Prop
  | .hello _ size => c.sendBufferSize ≤ size.toNat
  | _ => True

instance : DecidablePred (HelloCovers (A := A) c)
  | .hello .. => by unfold HelloCovers; infer_instance
  | .accepted _ | .message .. | .dispatched .. | .turn .. | .wrote _ | .closed _ =>
    inferInstanceAs (Decidable True)

theorem HelloCovers.le {e : Event W A} {id : ConnId} {size : UInt32} (h : HelloCovers c e)
    (hsize : e.hello? id = some size) : c.sendBufferSize ≤ size.toNat := by
  cases e with
  | hello conn size' =>
    simp only [Event.hello?] at hsize
    split at hsize
    · exact Option.some.inj hsize ▸ h
    · cases hsize
  | _ => cases hsize

theorem chunks_fit_hello (h : Reachable b c app s) (hhello : ∀ e ∈ s.trace, HelloCovers c e) :
    Always FitsHello s.trace := by
  refine h.always (fun s e hC hoccurs => ?_) hhello
  intro id n requestId length hchunk e' he' size hsize
  have hcovers := (hC e' (.tail _ he')).le hsize
  cases e with
  | wrote w =>
    have hlength : w.bytes.length ≤ c.sendBufferSize := hoccurs.1
    simp only [Event.chunk?] at hchunk
    split at hchunk
    · obtain ⟨-, -, -, rfl⟩ : w.conn = id ∧ _ ∧ _ ∧ w.bytes.length = length := by simpa using hchunk
      exact hlength.trans hcovers
    · cases hchunk
  | _ => cases hchunk

namespace Script

/-- A client with a receive buffer of 8192 bytes creates a session at a server with longer URLs and
a larger send buffer. -/
def longEndpoints : Server Script Unit :=
  play (config 4050 65536 none) (oneChannel 10 ++ [deliver 10 (msg 2 (createRequest []))])

theorem chunks_fit_hello_short_endpoints :
    (∀ e ∈ (play (config 4 8192 none) (oneChannel 10)).trace, HelloCovers (config 4 8192 none) e) ∧
      Always FitsHello (play (config 4 8192 none) (oneChannel 10)).trace := by
  have hcovers : ∀ e ∈ (play (config 4 8192 none) (oneChannel 10)).trace,
      HelloCovers (config 4 8192 none) e := by
    decide +kernel
  exact ⟨hcovers, chunks_fit_hello (play_reachable (by decide) _) hcovers⟩

theorem longEndpoints_chunk : longEndpoints.trace.head?.bind Event.chunk? = some (⟨0, 1⟩, 2, 2, 8449) ∧
    longEndpoints.trace.tail.findSome? (Event.hello? ⟨0, 1⟩) = some 8192 := by
  decide +kernel

theorem chunk_exceeds_hello :
    Reachable build (config 4050 65536 none) application longEndpoints ∧
      ¬ Always FitsHello longEndpoints.trace := by
  refine ⟨play_reachable (by decide) _, fun h => ?_⟩
  obtain ⟨hchunk, hhello⟩ := longEndpoints_chunk
  cases htrace : longEndpoints.trace with
  | nil =>
    rw [htrace] at hchunk
    cases hchunk
  | cons e past =>
    rw [htrace] at hchunk hhello h
    obtain ⟨e', he', hsize⟩ := List.exists_of_findSome?_eq_some hhello
    exact absurd ((always_cons.mp h).1 _ _ _ _ hchunk e' he' 8192 hsize) (by decide)

end Script

end Size

section Numbers

def Event.number? (id : ConnId) (e : Event W A) : Option UInt32 :=
  e.chunk?.bind (fun p => if p.1 = id then some p.2.1 else none)

def lastNumber (id : ConnId) (past : List (Event W A)) : Option UInt32 :=
  past.findSome? (Event.number? id)

/-- A chunk carries the number after the last one, and its client's validator accepts it. -/
def Consecutive (e : Event W A) (past : List (Event W A)) : Prop :=
  ∀ id n, e.number? id = some n →
    (∀ last, lastNumber id past = some last → n = last + 1) ∧
      sequenceValidate (lastNumber id past) n = .ok (some n)

theorem Consecutive.of_next {e : Event W A} {past : List (Event W A)}
    (h : ∀ id n, e.number? id = some n → ∀ last, lastNumber id past = some last → n = last + 1) :
    Consecutive e past := by
  intro id n hn
  have hnext := h id n hn
  refine ⟨hnext, ?_⟩
  cases hlast : lastNumber id past with
  | none => rfl
  | some last => simp [sequenceValidate, hnext last hlast]

variable (b c) in
/-- OPN chunks carry OpenSecureChannel requests, and AES-128 is asked for only where the adapter has
it. -/
def OpensOnly : Event W A → Prop
  | .dispatched _ _ chunk _ =>
    (chunk.isOpn = true → chunk.typeId.ns0Numeric? = some openSecureChannelRequestId) ∧
      (requestedPolicyId b.security chunk.policyUri = .aes128Sha256RsaOaep →
        (c.cryptoAdapter.bind (·.aes128CbcEncrypt)).isSome = true)
  | _ => True

instance : DecidablePred (OpensOnly (A := A) b c)
  | .dispatched .. => by unfold OpensOnly; infer_instance
  | .accepted _ | .hello .. | .message .. | .turn .. | .wrote _ | .closed _ =>
    inferInstanceAs (Decidable True)

/-- The send buffer holds every wrapped response, and the adapter protects what the server asks it to. -/
structure WrapsAll (c : Config W) (cr : CryptoAdapter W) : Prop where
  buffer : symChunkTotal .signAndEncrypt secureRespMax ≤ c.sendBufferSize
  msg : cr.ProtectsMsg
  opn : ∃ own keySize, cr.ProtectsOpn own keySize

section Keys

variable (b c) in
def KeysReady (ch : SecureChannel) : Prop :=
  ∀ cr, b.security = true → c.cryptoAdapter = some cr → ch.serverKeys.Ready cr

theorem keysReady_init : KeysReady b c .init := fun _ _ _ => SymKeys.ready_zero

theorem Act.keysReady {k : Cause b W A} {u v : Ctx W A} (h : Act b c app k u v)
    (hopens : ∀ e ∈ v.trace, secureTransport b c = true → OpensOnly b c e)
    (hu : KeysReady b c u.conn.channel) :
    KeysReady b c v.conn.channel := by
  cases h with
  | quiet h =>
    rw [h.conn]
    exact hu
  | transport bytes =>
    rw [Ctx.written_conn]
    exact hu
  | send =>
    rw [Ctx.written_conn]
    exact hu
  | shut | reset | accept => exact keysReady_init
  | dispatch cap chunk typeId =>
    intro cr hsecurity hcr
    obtain ⟨run, hdispatches⟩ := dispatchInbound_dispatches b c app cap _ chunk typeId u
    rcases hdispatches.channel with hsame | ⟨-, hopened⟩
    · rw [hsame]
      exact hu cr hsecurity hcr
    · refine (dispatchInbound_keepsKeys hcr app cap _ chunk typeId u).ready (fun hpolicy => ?_)
        (hu cr hsecurity hcr)
      obtain ⟨lifetime, hcheck, -⟩ := hopened.checked
      have hasked := (hopens (.dispatched _ _ chunk run) (by rw [hdispatches.trace]; exact .head _)
        (by simp [secureTransport, hsecurity, hcr])).2
          ((secureChannelOpenCheck_eq_ok hcheck).2.2.1.trans hpolicy)
      rwa [hcr] at hasked
  | _ => exact hu

end Keys

theorem ChannelSound.protected {ch : SecureChannel} (h : ChannelSound b c ch) (hmode : ch.mode ≠ .none) :
    ch.mode = .sign ∨ ch.mode = .signAndEncrypt := by
  have hinvalid := h.mode
  cases hch : ch.mode with
  | none => exact absurd hch hmode
  | invalid => exact absurd hch hinvalid
  | sign => exact .inl rfl
  | signAndEncrypt => exact .inr rfl

variable {k : Cause b W A}

theorem WrapFailed.elim {u : Ctx W A} (h : WrapFailed b c k u) (hsend : minChunkSize ≤ c.sendBufferSize)
    (hwraps : ∀ cr, b.security = true → c.cryptoAdapter = some cr → WrapsAll c cr)
    (hsound : ChannelSound b c u.conn.channel) (hkeys : KeysReady b c u.conn.channel)
    (hopens : ∀ e ∈ u.trace, secureTransport b c = true → OpensOnly b c e) : False := by
  cases h with
  | symmetric cr w requestId body e crypto mode secure size failed =>
    have hall := hwraps cr secure crypto
    have hyields :=
      symChunkWrap_yields hall.msg (hsound.protected mode) ((symChunkTotal_le size).trans hall.buffer)
        (hkeys cr secure crypto) (utf8 "MSG") u.conn.channel.channelId u.conn.channel.tokenId
      u.conn.channel.outSequenceNumber requestId
    exact hyields.ne_error w e failed
  | asymmetric cr w requestId cert body e crypto secure addressed size failed =>
    obtain ⟨own, keySize, hopn⟩ := (hwraps cr secure crypto).opn
    have hbody : body.length ≤ 100 := by
      rcases size with hsize | ⟨chunk, run, htrace, hisOpn, htype⟩
      · exact hsize.trans (by decide)
      · have hopen := hopens (.dispatched _ _ chunk run) (by rw [htrace]; exact .head _)
          (by simp [secureTransport, secure, crypto])
        exact absurd (hopen.1 hisOpn) htype
    have hyields := asymChunkWrap_yields hopn addressed hbody hsend u.conn.channel.channelId
      u.conn.channel.outSequenceNumber requestId
    rw [secure] at failed
    exact hyields.ne_error w e failed

variable {id : ConnId} {e : Event W A}

theorem lastNumber_cons_of_none {past : List (Event W A)} (h : e.number? id = none) :
    lastNumber id (e :: past) = lastNumber id past := by
  simp [lastNumber, h]

theorem Event.number?_conn {n : UInt32} (h : e.number? id = some n) : e.conn? = some id := by
  obtain ⟨p, hp, hn⟩ := Option.bind_eq_some_iff.mp h
  split at hn
  · rename_i hid
    cases e with
    | wrote w =>
      simp only [Event.chunk?] at hp
      split at hp
      · obtain rfl := Option.some.inj hp
        exact congrArg some hid
      · cases hp
    | _ => cases hp
  · cases hn

theorem Event.number?_of_conn_ne (h : e.conn? ≠ some id) : e.number? id = none := by
  cases hn : e.number? id with
  | none => rfl
  | some n => exact absurd (Event.number?_conn hn) h

theorem Dispatches.outSequenceNumber {before : SecureChannel} {chunk : Inbound} {typeId : UInt32}
    {run : Option HandlerRun} {s t : Ctx W A} (h : Dispatches b before chunk typeId run s t) :
    t.conn.channel.outSequenceNumber = s.conn.channel.outSequenceNumber := by
  rcases h.channel with hsame | ⟨-, lifetime, -, hopened⟩
  · rw [hsame]
  · rw [hopened]
    rfl

def Counts (trace : List (Event W A)) (conn : Connection) : Prop :=
  conn.clientHandle.isSome = true → ∀ n, lastNumber conn.id trace = some n →
    conn.channel.outSequenceNumber = n

theorem Counts.cons {trace : List (Event W A)} {conn : Connection} (h : Counts trace conn)
    (he : e.number? conn.id = none) : Counts (e :: trace) conn := by
  intro hopen n hn
  rw [lastNumber_cons_of_none he] at hn
  exact h hopen n hn

theorem Consecutive.of_none {past : List (Event W A)} (h : ∀ id, e.number? id = none) :
    Consecutive e past := by
  intro id n hn
  rw [h id] at hn
  cases hn

theorem lastNumber_fresh {trace : List (Event W A)} (h : ∀ e ∈ trace, e.conn? ≠ some id) :
    lastNumber id trace = none :=
  List.findSome?_eq_none_iff.mpr (fun e he => Event.number?_of_conn_ne (h e he))

/-- What an act does to the numbers of its connection: the counter stays right, and a chunk it writes
carries the next number. -/
theorem Act.counts {u v : Ctx W A} (h : Act b c app k u v) (hwrap : ¬ WrapFailed b c k u.numbered)
    (hfresh : ∀ e ∈ u.trace, ∀ id, e.conn? = some id → id.slot = u.conn.id.slot →
      id.epoch ≤ u.conn.id.epoch)
    (hu : k ≠ .stopping → Counts u.trace u.conn) :
    (k ≠ .stopping → Counts v.trace v.conn) ∧ ∀ e, v.trace = e :: u.trace → Consecutive e u.trace := by
  have hsame (heq : v.trace = u.trace) (e : Event W A) (he : v.trace = e :: u.trace) :
      Consecutive e u.trace := by
    rw [heq] at he
    exact absurd he (List.cons_ne_self _ _).symm
  have hsilent {e' : Event W A} (heq : v.trace = e' :: u.trace) (hno : ∀ id, e'.number? id = none)
    (e : Event W A)
      (he : v.trace = e :: u.trace) : Consecutive e u.trace := by
    obtain rfl := cons_eq_of_cons he heq
    exact .of_none hno
  cases h with
  | quiet h =>
    refine ⟨fun hk => ?_, hsame h.trace⟩
    rw [h.trace, h.conn]
    exact hu hk
  | close | shut => exact ⟨fun _ hopen => (nomatch hopen), hsilent rfl (fun _ => rfl)⟩
  | buffer => exact ⟨hu, hsame rfl⟩
  | reset => exact ⟨fun hk => absurd rfl hk, hsame rfl⟩
  | accept handle nowMs free =>
    refine ⟨fun _ _ n hn => ?_, hsilent rfl (fun _ => rfl)⟩
    have hnew : lastNumber (acceptInto handle nowMs u.conn).id u.trace = none := by
      refine lastNumber_fresh (fun e he heq => ?_)
      have hle := hfresh e he _ heq rfl
      exact absurd hle (Nat.not_succ_le_self _)
    have hn : lastNumber (acceptInto handle nowMs u.conn).id u.trace = some n := hn
    rw [hnew] at hn
    cases hn
  | transport bytes =>
    rcases u.written_trace .transport bytes with heq | ⟨handle, -, heq⟩
    · refine ⟨fun hk => ?_, hsame heq⟩
      rw [heq, Ctx.written_conn]
      exact hu hk
    · refine ⟨fun hk => ?_, hsilent heq (fun _ => rfl)⟩
      rw [heq, Ctx.written_conn]
      exact (hu hk).cons rfl
  | hello => exact ⟨fun hk => (hu hk).cons rfl, hsilent rfl (fun _ => rfl)⟩
  | policy | sequence => exact ⟨hu, hsame rfl⟩
  | dispatch cap chunk typeId =>
    obtain ⟨run, hdispatches⟩ := dispatchInbound_dispatches b c app cap _ chunk typeId u
    refine ⟨fun hk => ?_, hsilent hdispatches.trace (fun _ => rfl)⟩
    rw [hdispatches.trace]
    refine Counts.cons (fun hopen n hn => ?_) rfl
    rw [hdispatches.outSequenceNumber]
    rw [hdispatches.conn] at hopen hn
    exact hu hk hopen n hn
  | send requestId payload publish bytes size serving =>
    cases hhandle : u.conn.clientHandle with
    | none =>
      have hwritten :
        u.numbered.written (.chunk u.numbered.conn.channel.outSequenceNumber requestId payload publish)
          bytes = u.numbered := by
        simp only [Ctx.written, Ctx.numbered, Ctx.setChannel, hhandle]
      rw [hwritten] at hsame ⊢
      refine ⟨fun _ hopen => ?_, hsame rfl⟩
      rw [Ctx.numbered, Ctx.setChannel, hhandle] at hopen
      cases hopen
    | some handle =>
      have hwritten :
        u.numbered.written (.chunk u.numbered.conn.channel.outSequenceNumber requestId payload publish)
          bytes = u.numbered.record (.wrote ⟨u.conn.id, handle, u.numbered.conn.channel,
            .chunk u.numbered.conn.channel.outSequenceNumber requestId payload publish, bytes⟩) := by
        simp only [Ctx.written, Ctx.numbered, Ctx.setChannel, hhandle]
      rw [hwritten]
      refine ⟨fun _ _ n hn => ?_, fun e he => ?_⟩
      · have hlast :
          lastNumber u.conn.id (u.numbered.record (.wrote ⟨u.conn.id, handle, u.numbered.conn.channel,
            .chunk u.numbered.conn.channel.outSequenceNumber requestId payload publish, bytes⟩)).trace =
              some u.numbered.conn.channel.outSequenceNumber := by
          simp [lastNumber, Ctx.record, Event.number?, Event.chunk?]
        exact Option.some.inj (hlast.symm.trans hn)
      · obtain rfl := cons_eq_of_cons he rfl
        refine .of_next (fun id n hn last hlast => ?_)
        simp only [Event.number?, Event.chunk?, Option.bind_some] at hn
        split at hn
        · rename_i hid
          obtain rfl := Option.some.inj hn
          have hcount := hu serving (by rw [hhandle]; rfl) last (hid ▸ hlast)
          exact congrArg (· + 1) hcount
        · cases hn
  | lost why => exact absurd why hwrap

variable (b c) in
structure Numbering (s : Server W A) : Prop where
  sound : ∀ conn ∈ s.conns, ChannelSound b c conn.channel
  keys : ∀ conn ∈ s.conns, KeysReady b c conn.channel
  counts : s.isRunning = true → ∀ conn ∈ s.conns, Counts s.trace conn
  always : Always Consecutive s.trace

theorem Cause.At.serving_iff {i : Nat} (h : k.At i s) : k ≠ .stopping ↔ s.isRunning = true := by
  cases k with
  | message a => exact ⟨fun _ => h.1, fun _ => nofun⟩
  | turn t => exact ⟨fun _ => h.1, fun _ => nofun⟩
  | housekeeping => exact ⟨fun _ => h, fun _ => nofun⟩
  | stopping => exact ⟨fun hk => absurd rfl hk, fun hs => by rw [h] at hs; cases hs⟩

theorem Numbering.act {i : Nat} {conn : Connection} {v : Ctx W A} (hs : Numbering b c s)
    (hwf : WellFormed b s) (found : s.conns[i]? = some conn) (cause : k.At i s)
    (hact : Act b c app k (s.ctx conn) v)
    (hopens : ∀ e ∈ v.trace, secureTransport b c = true → OpensOnly b c e)
    (hwrap : ¬ WrapFailed b c k (s.ctx conn).numbered) : Numbering b c (s.put i v) := by
  have hmem : conn ∈ s.conns := List.mem_of_getElem? found
  have hconn : conn.id.slot = i := hwf.slots i conn found
  have hslot : v.conn.id.slot = i := hact.id.1.trans hconn
  have htrace : (s.put i v).trace = v.trace := rfl
  obtain ⟨hcounts, hnext⟩ := hact.counts hwrap
    (fun e he id hid hsame => hwf.epochs e he id hid conn (by rw [hsame.trans hconn]; exact found))
    (fun hk => hs.counts (cause.serving_iff.mp hk) conn hmem)
  refine ⟨fun conn' hmem' => ?_, fun conn' hmem' => ?_, fun hrunning conn' hmem' => ?_, ?_⟩
  · rcases List.mem_or_eq_of_mem_set hmem' with hold | rfl
    · exact hs.sound conn' hold
    · exact hact.channelSound (hs.sound conn hmem)
  · rcases List.mem_or_eq_of_mem_set hmem' with hold | rfl
    · exact hs.keys conn' hold
    · exact hact.keysReady hopens (hs.keys conn hmem)
  · obtain ⟨j, hj⟩ := List.mem_iff_getElem?.mp hmem'
    by_cases hij : j = i
    · subst hij
      rw [Server.put_found found] at hj
      obtain rfl := Option.some.inj hj
      exact hcounts (cause.serving_iff.mpr hrunning)
    · have hold : s.conns[j]? = some conn' := by
        simpa only [Server.put, List.getElem?_set_ne (Ne.symm hij)] using hj
      have hcount := hs.counts hrunning conn' (List.mem_of_getElem? hold)
      rcases hact.trace with heq | ⟨e, heq, he⟩
      · rw [htrace, heq]
        exact hcount
      · rw [htrace, heq]
        refine hcount.cons (Event.number?_of_conn_ne (fun hid => hij ?_))
        rw [← hwf.slots j conn' hold, ← hslot, Option.some.inj (he.symm.trans hid)]
  · rcases hact.trace with heq | ⟨e, heq, -⟩
    · rw [htrace, heq]
      exact hs.always
    · rw [htrace, heq]
      exact always_cons.mpr ⟨hnext e heq, hs.always⟩

theorem Numbering.record (hs : Numbering b c s) (he : ∀ id, e.number? id = none) :
    Numbering b c (s.record e) :=
  ⟨hs.sound, hs.keys, fun hrunning conn hmem => (hs.counts hrunning conn hmem).cons (he conn.id),
    always_cons.mpr ⟨.of_none he, hs.always⟩⟩

theorem Numbering.step {t : Server W A} (hsend : minChunkSize ≤ c.sendBufferSize)
    (hwraps : ∀ cr, b.security = true → c.cryptoAdapter = some cr → WrapsAll c cr) (hwf : WellFormed b s)
    (hopens : ∀ e ∈ t.trace, secureTransport b c = true → OpensOnly b c e) (hstep : Step b c app s t)
    (hs : Numbering b c s) : Numbering b c t := by
  have hpast := hstep.trace_subset
  cases hstep with
  | act i conn k found cause hact =>
    refine hs.act hwf found cause hact hopens (fun hfailed => hfailed.elim hsend hwraps ?_ ?_
      (fun e he => hopens e (hpast he)))
    · have hsound := hs.sound conn (List.mem_of_getElem? found)
      exact ⟨hsound.plain, hsound.closed, hsound.mode⟩
    · exact hs.keys conn (List.mem_of_getElem? found)
  | message conn bytes running mem connected => exact hs.record (fun _ => rfl)
  | turn index running => exact hs.record (fun _ => rfl)
  | background subs a w owned => exact ⟨hs.sound, hs.keys, hs.counts, hs.always⟩
  | reset running =>
    unfold resetShared
    split <;> exact ⟨hs.sound, hs.keys, hs.counts, hs.always⟩
  | stop => exact ⟨hs.sound, hs.keys, nofun, hs.always⟩

namespace Script

theorem crypto_protectsMsg : crypto.ProtectsMsg where
  hmac := fun _ _ _ _ => ⟨_, rfl, trivial⟩
  aes256 := fun _ _ input _ _ hblocks _ => by
    simp only [crypto, plainCrypto, if_pos hblocks]
    exact ⟨_, rfl, trivial⟩
  aes256Ctx := fun _ h => nomatch h
  aes128 := fun _ h => nomatch h

theorem filled_length {n cap : Nat} (h : n ≤ cap) (bytes : Bytes) :
    (filled n bytes cap).1.length = n := by
  simp [filled, (fill n bytes).2, h]

theorem crypto_protectsOpn : crypto.ProtectsOpn [83] (fun _ => keySize) where
  certificate := fun _ => ⟨_, rfl, rfl⟩
  keyBits := fun cert hcert _ => by
    have hne : cert ≠ [] := by
      rcases hcert with rfl | ⟨policy, w, w', hpolicy, hvalid⟩
      · decide
      · exact (certificateValidate_returns hpolicy hvalid).1
    simp only [crypto, plainCrypto, if_neg hne]
    exact ⟨_, rfl, rfl⟩
  thumbprint := fun _ _ _ => ⟨_, rfl, trivial⟩
  sign := fun _ _ h _ => ⟨_, rfl, filled_length h _⟩
  signPss := fun _ _ h _ => ⟨_, rfl, filled_length h _⟩
  encrypt := fun _ _ _ _ _ => ⟨_, rfl, filled_length le_rfl _⟩
  encryptSha256 := fun _ _ _ _ _ => ⟨_, rfl, filled_length le_rfl _⟩
  ownKey := by decide
  room := by decide

theorem crypto_wrapsAll {c : Config Script}
    (h : symChunkTotal .signAndEncrypt secureRespMax ≤ c.sendBufferSize) : WrapsAll c crypto :=
  ⟨h, crypto_protectsMsg, _, _, crypto_protectsOpn⟩

def largeBuffer : Server Script Unit :=
  play (config 4 11328 (some crypto)) (signedChannel 10 [65] ++
    [deliver 10 (msgSigned 2 (activateRequest 0))])

/-- CreateSession in an OPN chunk: its response takes the second number and cannot be wrapped. -/
def droppedAnswer : Server Script Unit :=
  play (secured 14) (signedChannel 10 [65] ++
    [deliver 10 (openSealed [65] 2 (createRequest [65])), deliver 10 (msgSigned 3 (activateRequest 0))])

theorem droppedAnswer_numbers : droppedAnswer.trace.head?.bind (Event.number? ⟨0, 1⟩) = some 3 ∧
    lastNumber ⟨0, 1⟩ droppedAnswer.trace.tail = some 1 := by
  decide +kernel

end Script

end Numbers

section Answers

variable (b c) in
def msgFields (u : Ctx W A) (message : Bytes) : Option ChunkFields :=
  match b.security, c.cryptoAdapter with
  | true, some cr =>
    if u.conn.channel.policy = .none then ((readPlaintextChunk false).decode message).toOption
    else ((unwrapMsg cr u.conn.channel message).run u.world).1
  | _, _ => ((readPlaintextChunk false).decode message).toOption

variable (b c) in
def acceptedMsg (u : Ctx W A) (message : Bytes) : Option Inbound :=
  match u.conn.tcp.established, parseMessageHeader message with
  | true, .ok .message => do
    let f ← msgFields b c u message
    let _ ← f.accept false u.conn.channel
    let (typeId, body) ← readRequestType f.payload
    return f.inbound false typeId body
  | _, _ => none

/-- The chunk asks for a supported service that is neither Publish nor CloseSecureChannel. -/
def Inbound.answered (b : Build) (chunk : Inbound) : Bool :=
  (chunk.typeId.ns0Numeric?.bind (findServiceDescriptor b)).any (fun row => row.service.answers)

/-- The connection is closed, or one chunk with this request id is written to it. -/
def Answered (u v : Ctx W A) (requestId : UInt32) : Prop :=
  v.conn.clientHandle = none ∨ ∃ w n payload e, v.trace = .wrote w :: e :: u.trace ∧ e.chunk? = none ∧
    w.conn = u.conn.id ∧ w.content = .chunk n requestId payload none

theorem answerBytes_ne_nil {cap : Nat} {r : Except Fault (Encoded cap)} (hcap : 28 ≤ cap)
    (h : ∀ bs, r = .ok bs → bs.1 ≠ []) : answerBytes r ≠ [] := by
  cases r with
  | ok bs => exact h bs rfl
  | error e =>
    simp only [answerBytes, writeServiceFault_encode hcap]
    exact List.ne_nil_of_length_pos (by rw [responsePrefix_length]; omega)

structure Responded (b : Build) (u v : Ctx W A) (before : SecureChannel) (chunk : Inbound) (cap : Nat)
    (response : Bytes) : Prop where
  nonempty : response ≠ []
  length : response.length ≤ cap
  dispatches : ∃ typeId run, Dispatches b before chunk typeId run u v

theorem respond_answers (c : Config W) (app : Application W A) {cap : Nat} (before : SecureChannel)
    {chunk : Inbound} (hanswered : chunk.answered b = true) (hcap : 28 ≤ cap) (u : Ctx W A) :
    Responded b u ((respond b c app cap before chunk).run u).2 before chunk cap
      ((respond b c app cap before chunk).run u).1 := by
  obtain ⟨row, hfind, hrow⟩ := Option.any_eq_true _ _ |>.mp hanswered
  obtain ⟨typeId, htype, hfind⟩ := Option.bind_eq_some_iff.mp hfind
  obtain ⟨run, hdispatches⟩ := dispatchInbound_dispatches b c app cap before chunk typeId u
  rw [respond_run, htype]
  refine ⟨answerBytes_ne_nil hcap (fun bs hbs => ?_), answerBytes_length _, typeId, run, hdispatches⟩
  exact serviceDispatch_responds hfind hrow hbs

theorem acceptAndRespond_answers (c : Config W) (app : Application W A) {cap : Nat}
    (before : SecureChannel) {ch : SecureChannel} {f : ChunkFields} {typeId : NodeId}
    {body : Bytes} {u : Ctx W A}
    (haccept : f.accept false u.conn.channel = some ch)
    (htype : readRequestType f.payload = some (typeId, body))
    (hanswered : Inbound.answered b (f.inbound false typeId body) = true) (hcap : 28 ≤ cap) :
    ∃ response v, (acceptAndRespond b c app cap before false f).run u = (some response, v) ∧
      Responded b (u.setChannel ch) v before (f.inbound false typeId body) cap response := by
  have hresponded := respond_answers c app before hanswered hcap (u.setChannel ch)
  have hcap' : cap ≠ 0 := by omega
  refine ⟨_, _, ?_, hresponded⟩
  simp only [acceptAndRespond, run_bind, run_get, haccept, run_set, htype, hcap', if_false]
  rw [run_pure, if_neg hresponded.nonempty]

section

variable {u v : Ctx W A} {before : SecureChannel} {chunk : Inbound} {cap : Nat} {response : Bytes}
    (h : Responded b u v before chunk cap response)

include h

theorem Responded.conn : v.conn.id = u.conn.id ∧ v.conn.clientHandle = u.conn.clientHandle ∧
      ∃ e, v.trace = e :: u.trace ∧ e.chunk? = none := by
  obtain ⟨typeId, run, hdispatches⟩ := h.dispatches
  refine ⟨by rw [hdispatches.conn], by rw [hdispatches.conn], _, hdispatches.trace, rfl⟩

/-- A request without a policy URI, as in every MSG chunk, does not renew a secured channel. -/
theorem Responded.channel (huri : chunk.policyUri = none)
    (hpolicy : u.conn.channel.policy ≠ .none) : v.conn.channel = u.conn.channel := by
  obtain ⟨typeId, run, hdispatches⟩ := h.dispatches
  rcases hdispatches.channel with hsame | ⟨-, hopened⟩
  · exact hsame
  · obtain ⟨lifetime, hcheck, -⟩ := hopened.checked
    obtain ⟨-, -, hrequested, -⟩ := secureChannelOpenCheck_eq_ok hcheck
    have hnone : requestedPolicyId b.security none = .none := by cases b.security <;> decide
    rw [huri, hnone] at hrequested
    exact absurd hrequested.symm hpolicy

theorem sendBufferChunk_answered
    {payload bytes : Bytes} {n requestId : UInt32} (hopen : u.conn.clientHandle.isSome = true) (w : W) :
    Answered u
      ((sendBufferChunk c (.chunk n requestId payload none) bytes).run { v.numbered with world := w }).2
      requestId := by
  obtain ⟨hid, hhandle, e, htrace, he⟩ := h.conn
  obtain ⟨handle, hsome⟩ := Option.isSome_iff_exists.mp hopen
  have hwritten :
    ({ v.numbered with world := w } : Ctx W A).written (.chunk n requestId payload none) bytes =
      ({ v.numbered with world := w } : Ctx W A).record
      (.wrote ⟨v.conn.id, handle, v.numbered.conn.channel,
        .chunk n requestId payload none, bytes⟩) := by
    simp only [Ctx.written, Ctx.numbered, Ctx.setChannel, hhandle, hsome]
  simp only [sendBufferChunk, run_bind, run_modify, run_get, onWorld_run, run_ite, hwritten]
  split
  · exact .inl rfl
  · refine .inr ⟨⟨v.conn.id, handle, v.numbered.conn.channel, .chunk n requestId payload none, bytes⟩,
      n, payload, e, ?_, he, hid, rfl⟩
    exact congrArg _ htrace

end

section Chunk

variable {message : Bytes} {u : Ctx W A} {f : ChunkFields} {ch : SecureChannel}
    {typeId : NodeId} {body : Bytes}

theorem handleDataChunkPlaintext_answered (hsend : minChunkSize ≤ c.sendBufferSize)
    (hopen : u.conn.clientHandle.isSome = true)
    (hread : (readPlaintextChunk false).decode message = .ok f)
    (haccept : f.accept false u.conn.channel = some ch)
    (htype : readRequestType f.payload = some (typeId, body))
    (hanswered : Inbound.answered b (f.inbound false typeId body) = true) :
    Answered u ((handleDataChunkPlaintext b c app false message).run u).2 f.requestId := by
  have hcap : 28 ≤ c.sendBufferSize - symmetricHeaderSize := by
    simp only [minChunkSize, symmetricHeaderSize] at hsend ⊢
    omega
  obtain ⟨response, v, hrun, hresponded⟩ :=
    acceptAndRespond_answers c app u.conn.channel haccept htype hanswered hcap
  obtain ⟨bytes, hframe⟩ :
      ∃ bytes, framePlaintext c false v.numbered.conn.channel f.requestId response = .ok bytes :=
    framePlaintext_fits hresponded.length hresponded.nonempty
  simp only [handleDataChunkPlaintext, run_bind, run_get, hread, Bool.false_eq_true, if_false, hrun,
    run_modify, hframe]
  exact sendBufferChunk_answered hresponded hopen v.world

theorem respondSecure_answered {cr : CryptoAdapter W} (hopen : u.conn.clientHandle.isSome = true)
    (hmsg : cr.ProtectsMsg) (hkeys : u.conn.channel.serverKeys.Ready cr)
    (hbuffer : symChunkTotal .signAndEncrypt secureRespMax ≤ c.sendBufferSize)
    (hpolicy : u.conn.channel.policy ≠ .none)
    (hmode : u.conn.channel.mode = .sign ∨ u.conn.channel.mode = .signAndEncrypt)
    (huri : f.policyUri = none)
    (haccept : f.accept false u.conn.channel = some ch)
    (htype : readRequestType f.payload = some (typeId, body))
    (hanswered : Inbound.answered b (f.inbound false typeId body) = true) (before : SecureChannel) :
    Answered u ((respondSecure b c app cr before false f).run u).2 f.requestId := by
  obtain ⟨response, v, hrun, hresponded⟩ :=
    acceptAndRespond_answers c app before haccept htype hanswered (show 28 ≤ secureRespMax by decide)
  obtain ⟨-, number, -, rfl⟩ := acceptInboundChunk_eq_some haccept
  have hchannel := hresponded.channel huri hpolicy
  have hmode' :
      v.numbered.conn.channel.mode = .sign ∨ v.numbered.conn.channel.mode = .signAndEncrypt := by
    rw [Ctx.numbered, Ctx.setChannel, hchannel]
    exact hmode
  have hkeys' : v.numbered.conn.channel.serverKeys.Ready cr := by
    rw [Ctx.numbered, Ctx.setChannel, hchannel]
    exact hkeys
  have hyields : Yields (fun _ => True) (wrapSecure b c cr false v.numbered.conn.channel f response) :=
    symChunkWrap_yields hmsg hmode' ((symChunkTotal_le hresponded.length).trans hbuffer) hkeys' _ _ _ _ _
  obtain ⟨bytes, hbytes, -⟩ := hyields v.world
  have hattempt :
      ((wrapSecure b c cr false v.numbered.conn.channel f response).attempt.run v.world).1 =
        some bytes :=
    congrArg Except.toOption hbytes
  simp only [respondSecure, run_bind, hrun, run_modify, run_get, onWorld_run]
  have hworld : v.numbered.world = v.world := rfl
  rw [hworld, hattempt]
  exact sendBufferChunk_answered hresponded hopen _

theorem toOption_eq_some {ε α : Type} {r : Except ε α} {a : α} (h : r.toOption = some a) :
    r = .ok a := by
  cases r with
  | error e => cases h
  | ok a' => rw [Option.some.inj h]

theorem handleDataChunk_answered (hsend : minChunkSize ≤ c.sendBufferSize)
    (hopen : u.conn.clientHandle.isSome = true) (hfields : msgFields b c u message = some f)
    (haccept : f.accept false u.conn.channel = some ch)
    (htype : readRequestType f.payload = some (typeId, body))
    (hanswered : Inbound.answered b (f.inbound false typeId body) = true)
    (hwraps : ∀ cr, b.security = true → c.cryptoAdapter = some cr → u.conn.channel.policy ≠ .none →
      cr.ProtectsMsg ∧ u.conn.channel.serverKeys.Ready cr ∧
        symChunkTotal .signAndEncrypt secureRespMax ≤ c.sendBufferSize) :
    Answered u ((handleDataChunk b c app false message).run u).2 f.requestId := by
  unfold handleDataChunk
  unfold msgFields at hfields
  split
  · rename_i cr hsecurity hcr
    rw [hsecurity, hcr] at hfields
    simp only [handleDataChunkSecure, run_bind, run_get, Bool.false_eq_true, if_false,
      run_ite, onWorld_run]
    by_cases hpolicy : u.conn.channel.policy = .none
    · simp only [hpolicy, if_true] at hfields ⊢
      exact handleDataChunkPlaintext_answered hsend hopen (toOption_eq_some hfields)
        haccept htype hanswered
    · simp only [hpolicy, if_false] at hfields ⊢
      obtain ⟨-, m, hm, hf⟩ := unwrapMsg_returns hfields
      obtain ⟨hmsg, hkeys, hbuffer⟩ := hwraps cr hsecurity hcr hpolicy
      rw [hfields]
      exact respondSecure_answered
        (u := { u with world := ((unwrapMsg cr u.conn.channel message).run u.world).2 }) hopen hmsg hkeys
        hbuffer hpolicy (symChunkUnwrap_mode hm) (by rw [hf]) haccept htype hanswered _
  · rename_i hplain
    split at hfields
    · rename_i cr hsecurity hcr
      exact absurd hcr (hplain cr hsecurity)
    · exact handleDataChunkPlaintext_answered hsend hopen (toOption_eq_some hfields)
        haccept htype hanswered

end Chunk

theorem acceptedMsg_eq_some {u : Ctx W A} {message : Bytes} {chunk : Inbound}
    (h : acceptedMsg b c u message = some chunk) :
    u.conn.tcp.established = true ∧ parseMessageHeader message = .ok .message ∧ ∃ f ch typeId body,
      msgFields b c u message = some f ∧ f.accept false u.conn.channel = some ch ∧
      readRequestType f.payload = some (typeId, body) ∧ chunk = f.inbound false typeId body := by
  unfold acceptedMsg at h
  split at h
  · rename_i htcp hheader
    obtain ⟨f, hfields, h⟩ := Option.bind_eq_some_iff.mp h
    obtain ⟨ch, haccept, h⟩ := Option.bind_eq_some_iff.mp h
    obtain ⟨⟨typeId, body⟩, htype, h⟩ := Option.bind_eq_some_iff.mp h
    exact ⟨htcp, hheader, f, ch, typeId, body, hfields, haccept, htype, (Option.some.inj h).symm⟩
  · cases h

theorem processMessage_msg {u : Ctx W A} {message : Bytes} (htcp : u.conn.tcp.established = true)
    (hheader : parseMessageHeader message = .ok .message) :
    (processMessage b c app message).run u = (handleDataChunk b c app false message).run u := by
  simp only [processMessage, run_bind, run_get, htcp, Bool.not_true, Bool.false_eq_true,
    if_false, hheader]

namespace Script

def signedClient (urlLength sendBufferSize : Nat) : Server Script Unit :=
  play (config urlLength sendBufferSize (some crypto)) (signedChannel 10 [65])

def clientCtx (urlLength sendBufferSize : Nat) : Ctx Script Unit :=
  (signedClient urlLength sendBufferSize).ctx
    ((signedClient urlLength sendBufferSize).conns.getD 0 (.empty 0))

def afterRequest (urlLength sendBufferSize : Nat) (message : Bytes) : Ctx Script Unit :=
  ((processMessage build (config urlLength sendBufferSize (some crypto)) application message).run
    (clientCtx urlLength sendBufferSize)).2

theorem ready_of_lengths {keys : SymKeys}
    (h : keys.signingKey.length = 32 ∧ keys.encryptingKey.length = 32 ∧ keys.iv.length = 16 ∧
      keys.cipherCtxValid = false ∧ keys.policy = .basic256Sha256) : keys.Ready crypto where
  signingKey := h.1
  encryptingKey := h.2.1
  iv := h.2.2.1
  context := fun hvalid => by rw [h.2.2.2.1] at hvalid; cases hvalid
  cipher := fun hpolicy => by rw [h.2.2.2.2] at hpolicy; cases hpolicy

end Script

section Dropped

theorem symChunkWrap_too_long {mode : MessageSecurityMode} {body : Bytes} {cap : Nat}
    (h : cap < symChunkTotal mode body.length) (cr : CryptoAdapter W) (keys : SymKeys)
    (messageType : Bytes)
    (channelId tokenId number requestId : UInt32) (w : W) :
    ∃ e, (symChunkWrap cr mode keys messageType channelId tokenId number requestId body cap).run.run w =
      (.error e, w) := by
  unfold symChunkWrap
  by_cases hmode : mode ≠ .sign ∧ mode ≠ .signAndEncrypt
  · exact ⟨_, by rw [if_pos hmode]; rfl⟩
  · exact ⟨_, by rw [if_neg hmode]; simp only [h, if_true]; rfl⟩

theorem respondSecure_dropped (cr : CryptoAdapter W) {u v : Ctx W A} {f : ChunkFields}
    {ch before : SecureChannel} {typeId : NodeId} {body : Bytes} {id : UInt32}
    {bs : Encoded secureRespMax}
    (haccept : f.accept false u.conn.channel = some ch)
    (htype : readRequestType f.payload = some (typeId, body)) (hid : typeId.ns0Numeric? = some id)
    (hdispatch : dispatchInbound b c app secureRespMax before (f.inbound false typeId body) id
      (u.setChannel ch) = (.ok bs, v))
    (hlong : c.sendBufferSize < symChunkTotal v.conn.channel.mode bs.1.length) (hne : bs.1 ≠ []) :
    ∃ w, ((respondSecure b c app cr before false f).run u).2 = { v.numbered with world := w } := by
  have hrun : (acceptAndRespond b c app secureRespMax before false f).run u = (some bs.1, v) := by
    have hcap : secureRespMax ≠ 0 := by decide
    have hrespond :
        (respond b c app secureRespMax before (f.inbound false typeId body)).run (u.setChannel ch) =
          (bs.1, v) := by
      rw [respond_run, hid]
      dsimp only
      rw [hdispatch]
      rfl
    simp only [acceptAndRespond, run_bind, run_get, haccept, run_set, htype, hcap, if_false, hrespond]
    rw [run_pure, if_neg hne]
  obtain ⟨e, hwrap⟩ :=
    symChunkWrap_too_long hlong cr v.conn.channel.serverKeys (utf8 "MSG") v.conn.channel.channelId
      v.conn.channel.tokenId v.numbered.conn.channel.outSequenceNumber f.requestId v.world
  have hattempt :
      ((wrapSecure b c cr false v.numbered.conn.channel f bs.1).attempt.run v.world).1 = none :=
    congrArg Except.toOption (Prod.ext_iff.mp hwrap).1
  simp only [respondSecure, run_bind, hrun, run_modify, run_get, onWorld_run]
  have hworld : v.numbered.world = v.world := rfl
  rw [hworld, hattempt]
  exact ⟨_, rfl⟩

theorem serviceDispatch_createSession (app : Application W A) {cap : Nat} {req : Request}
    {s : Scope W A} {w : W} {t : HandlerState (List Session) W cap} (htype : req.typeId = 461)
    (hopen : s.channel.isOpen = true)
    (hrun : (handleCreateSession b c ⟨req.connection, s.channel, s.shared.channelClientCert⟩).run.run
      ⟨.init req.body, .init, s.shared.sessions, w⟩ = (.ok (), t)) :
    (serviceDispatch b c app req s w : Dispatched W A cap).result = .ok ⟨t.writer.bytes, t.writer.fits⟩ ∧
      (serviceDispatch b c app req s w : Dispatched W A cap).scope.channel = s.channel := by
  have hrow : findServiceDescriptor b 461 = some ⟨.createSession, 461, false, true⟩ := by
    unfold findServiceDescriptor supportedServices
    cases b.serviceDiscovery <;> simp
  have hgate : dispatchGate b req s = .ok (.createSession, none) := by
    simp only [dispatchGate, htype, hrow, hopen]
    rfl
  have hhandler : (handler b c app req .createSession none : ScopeM W A cap Answer).run.run
      ⟨.init req.body, .init, s, w⟩ =
        (.ok .response, ⟨t.reader, t.writer, s.setSessions t.state, t.world⟩) := by
    rw [handler, run_state_bind]
    refine bind_returns.mpr ⟨(), _, zoom_returns.mpr ⟨t, hrun, rfl⟩, rfl⟩
  have hexecute :
    (handler b c app req .createSession none : ScopeM W A cap Answer).execute req.body s w =
      (.ok (.response, ⟨t.writer.bytes, t.writer.fits⟩), s.setSessions t.state, t.world) := by
    simp only [HandlerM.execute, hhandler]
  unfold serviceDispatch
  rw [hgate]
  dsimp only
  rw [hexecute]
  exact ⟨rfl, rfl⟩

end Dropped

theorem handleDataChunk_secured {cr : CryptoAdapter W} {u : Ctx W A} {message : Bytes} {f : ChunkFields}
    (hsecurity : b.security = true) (hcr : c.cryptoAdapter = some cr)
    (hpolicy : u.conn.channel.policy ≠ .none)
    (hfields : msgFields b c u message = some f) : (handleDataChunk b c app false message).run u =
      (respondSecure b c app cr u.conn.channel false f).run
        { u with world := ((unwrapMsg cr u.conn.channel message).run u.world).2 } := by
  simp only [msgFields, hsecurity, hcr, hpolicy, if_false] at hfields
  simp only [handleDataChunk, hsecurity, hcr, handleDataChunkSecure, run_bind, run_get,
    Bool.false_eq_true, if_false, hpolicy, onWorld_run, hfields]

namespace Script

theorem longUrl_sizes : (secured 700).endpointUrl.length ≤ maxEncodedStringLength ∧
    ((discoveryGetEndpoints build (some [83])).map (endpointSize build (secured 700))).sum = 8134 ∧
    MuString.size (some (filled keySize [] 512).1) ≤ 512 := by
  decide +kernel

theorem longUrl_size (sessionId token : UInt32) {algorithm signature : MuString}
    (halgorithm : algorithm.size ≤ 64) (hsignature : signature.size ≤ 512) :
    8192 ≤ createResponseSize build (secured 700) sessionId token (some [83]) (some [83]) algorithm
        signature ∧
      createResponseSize build (secured 700) sessionId token (some [83])
        (some [83]) algorithm signature ≤ secureRespMax := by
  have hid (id : UInt32) : nodeIdSize id ≤ 7 := by
    unfold nodeIdSize
    split
    · omega
    · split <;> omega
  have hsessionId := hid sessionId
  have htoken := hid token
  have hcert : MuString.size (some [83]) = 1 := rfl
  simp only [createResponseSize, longUrl_sizes.2.1, hcert, serverNonceLength, secureRespMax]
  omega

def createWorld : Script :=
  ((unwrapMsg crypto (clientCtx 700 8192).conn.channel (msgSigned 2 (createRequest [65]))).run
    (clientCtx 700 8192).world).2

theorem longUrl_state : (clientCtx 700 8192).conn.clientHandle.isSome = true ∧
    (clientCtx 700 8192).conn.channel.policy = .basic256Sha256 ∧
      (clientCtx 700 8192).conn.channel.mode = .sign ∧
    (clientCtx 700 8192).conn.channel.isOpen = true ∧
      (clientCtx 700 8192).shared.channelClientCert = [65] ∧
    (((clientCtx 700 8192).shared.sessions.getD 0 .init).state = .closed) ∧
    (((allocateSession platform (clientCtx 700 8192).shared.sessions).run.run createWorld).1.toOption.map
      (fun p => p.2.1)) = some 0 ∧
    (acceptedMsg build (secured 700) (clientCtx 700 8192) (msgSigned 2 (createRequest [65]))).map
      (fun chunk => (chunk.typeId.ns0Numeric?, chunk.body)) =
        some (some 461, (createRequest [65]).drop 4) ∧
    ((readCreateSession.run.run (.init ((createRequest [65]).drop 4))).1.toOption.map
      (fun p => (p.2.clientCert, p.2.clientNonce))) = some (some [65], none) := by
  decide +kernel

theorem serverSignature_script {body : CreateSessionRequest} (ch : SecureChannel)
    (hpolicy : ch.policy = .basic256Sha256) (hcert : body.clientCert = some [65])
    (hnonce : body.clientNonce = none) :
    ∃ algorithm signature, MuString.size algorithm ≤ 64 ∧ MuString.size signature ≤ 512 ∧
      ∀ w, ((serverSignature build (secured 700) ch body).run w).1 = (algorithm, signature) := by
  refine ⟨SecurityPolicyId.asymSignatureUri true .basic256Sha256,
    some (filled keySize [] 512).1, by decide, longUrl_sizes.2.2, fun w => ?_⟩
  simp only [serverSignature, hpolicy, hcert, hnonce]
  rfl

theorem createRequest_dropped {u : Ctx Script Unit} {message : Bytes} {chunk : Inbound}
    (hchunk : acceptedMsg build (secured 700) u message = some chunk)
    (hid : chunk.typeId.ns0Numeric? = some 461) (hbody : chunk.body = (createRequest [65]).drop 4)
    (hpolicy : u.conn.channel.policy = .basic256Sha256) (hmode : u.conn.channel.mode = .sign)
    (hisOpen : u.conn.channel.isOpen = true) (hcert : u.shared.channelClientCert = [65])
    (hclosed : (u.shared.sessions.getD 0 .init).state = .closed)
    (hslot : ((allocateSession platform u.shared.sessions).run.run
      ((unwrapMsg crypto u.conn.channel message).run u.world).2).1.toOption.map (fun p => p.2.1) =
        some 0) :
    ∃ e v, ((processMessage build (config 700 8192 (some crypto)) application message).run u).2 = v ∧
      v.trace = e :: u.trace ∧ v.conn.clientHandle = u.conn.clientHandle := by
  obtain ⟨htcp, hheader, f, ch, typeId, body, hmsg, haccept, htype, rfl⟩ := acceptedMsg_eq_some hchunk
  obtain ⟨-, number, -, rfl⟩ := acceptInboundChunk_eq_some haccept
  rw [processMessage_msg htcp hheader, handleDataChunk_secured rfl rfl (by rw [hpolicy]; decide) hmsg]
  generalize ((unwrapMsg crypto u.conn.channel message).run u.world).2 = w at hslot ⊢
  obtain ⟨⟨nonce, slot, sessionId, token⟩, hallocate, rfl⟩ := Option.map_eq_some_iff.mp hslot
  obtain ⟨⟨req, request⟩, hdecode, hrequest⟩ := Option.map_eq_some_iff.mp longUrl_state.2.2.2.2.2.2.2.2
  obtain ⟨hclientCert, hclientNonce⟩ := Prod.mk.inj hrequest
  obtain ⟨algorithm, signature, halgorithm, hsignature, hsigned⟩ :=
    serverSignature_script { u.conn.channel with sequence := number } hpolicy hclientCert hclientNonce
  obtain ⟨hlow, hhigh⟩ := longUrl_size sessionId token halgorithm hsignature
  have hcreate : ∃ sessions, createInSlot build 0 request.timeoutBits sessionId token
      ⟨u.conn.id, { u.conn.channel with sequence := number }, [65]⟩ u.shared.sessions =
        (.ok (), sessions) := by
    simp only [createInSlot, sessionCreateWithIdentifiers, hclosed]
    exact ⟨_, rfl⟩
  obtain ⟨sessions, hcreate⟩ := hcreate
  have hcheck :
    createSessionCertCheck build ⟨u.conn.id, { u.conn.channel with sequence := number }, [65]⟩
      request.clientCert = .ok () := by
    have hclientCert : request.clientCert = some [65] := hclientCert
    simp only [createSessionCertCheck, hclientCert, hpolicy]
    rfl
  have hrun := handleCreateSession_run (c := secured 700)
    (s := (⟨.init ((createRequest [65]).drop 4), .init, u.shared.sessions, w⟩ :
      HandlerState (List Session) Script secureRespMax))
    (returns_of_fst (toOption_eq_some hdecode)) hcheck
      (returns_of_fst (toOption_eq_some hallocate)) hcreate
  have hcertificate (w : Script) : ((ownCertificate (secured 700)).run w).1 = some [83] := rfl
  obtain ⟨t, hreturns, hlength⟩ : ∃ t, (handleCreateSession build (secured 700)
      ⟨u.conn.id, { u.conn.channel with sequence := number }, [65]⟩).run.run
        (⟨.init ((createRequest [65]).drop 4), .init, u.shared.sessions, w⟩ :
          HandlerState (List Session) Script secureRespMax) = (.ok (), t) ∧ t.writer.bytes.length =
      createResponseSize build (secured 700) sessionId token (some [83])
          (some [83]) algorithm signature := by
    rw [hrun]
    have hfits (w : Script) : CreateResponseFits build (secured 700)
        ⟨u.conn.id, { u.conn.channel with sequence := number }, [65]⟩ request sessionId
        token secureRespMax w :=
      ⟨⟨longUrl_sizes.1, by decide, by decide, by decide⟩, by rw [hcertificate]; decide,
        by rw [hcertificate]; decide,
        by simpa only [hsigned] using ⟨halgorithm.trans (by decide), hsignature.trans (by decide)⟩,
        by simpa only [hsigned, hcertificate] using hhigh⟩
    obtain ⟨t, ht⟩ :=
      (respondCreated_answers (req, request) nonce 0 sessionId token ⟨_, .init, sessions, _⟩ rfl).1.mpr
        (hfits _)
    refine ⟨t, ht, ?_⟩
    have hlength := (respondCreated_answers (req, request) nonce 0 sessionId token _ rfl).2 t ht
    simpa only [createdSize, hsigned, hcertificate] using hlength
  have hid : typeId.ns0Numeric? = some 461 := hid
  have hbody : body = (createRequest [65]).drop 4 := hbody
  subst hbody
  obtain ⟨hresult, hchannel⟩ := serviceDispatch_createSession application (b := build)
    (c := secured 700) (w := w)
    (s := ⟨u.shared, { u.conn.channel with sequence := number }⟩)
    (show (⟨u.conn.id, 461, (createRequest [65]).drop 4, f.requestId, f.policyUri, f.senderCert⟩ :
      Request).typeId = 461 from rfl) hisOpen (by rw [hcert]; exact hreturns)
  obtain ⟨run, hdispatches⟩ := dispatchInbound_dispatches build (secured 700) application secureRespMax
    u.conn.channel (f.inbound false typeId ((createRequest [65]).drop 4)) 461
    (({ u with world := w } : Ctx Script Unit).setChannel
        { u.conn.channel with sequence := number })
  have hlong : (secured 700).sendBufferSize <
      symChunkTotal (serviceDispatch build (secured 700) application
        ⟨u.conn.id, 461, (createRequest [65]).drop 4, f.requestId, f.policyUri, f.senderCert⟩
        ⟨u.shared, { u.conn.channel with sequence := number }⟩ w :
          Dispatched Script Unit secureRespMax).scope.channel.mode
        t.writer.bytes.length := by
    have hsend : (secured 700).sendBufferSize = 8192 := rfl
    rw [hchannel, hmode, hsend]
    simp only [symChunkTotal, symHeaderSize, symSigLen]
    omega
  have hne : t.writer.bytes ≠ [] := by
    intro hnil
    rw [hnil, List.length_nil] at hlength
    omega
  obtain ⟨w', hdropped⟩ := respondSecure_dropped crypto
    (u := { u with world := w }) haccept htype hid (Prod.ext hresult rfl) hlong hne
  rw [hdropped]
  have hhandle := congrArg Connection.clientHandle hdispatches.conn
  exact ⟨_, _, rfl, hdispatches.trace, hhandle⟩

end Script

end Answers

end MicroOpcua
