import MicroOpcua.Core.Script

namespace MicroOpcua

open Lib.History Lib.StateRun Lib.Table

variable {W A : Type} {b : Build} {c : Config W} {app : Application W A}

section Counts

def openSessions (sessions : List Session) : Nat := sessions.countP Session.open

def Connection.opened (conn : Connection) : Bool := conn.clientHandle.isSome && conn.channel.isOpen

def openChannels (conns : List Connection) : Nat := conns.countP Connection.opened

theorem SessionChange.openSessions {conn : ConnView} {body : Bytes} {service : Service}
    {s t : List Session} (h : SessionChange b c conn body service s t) :
    openSessions t ≤ openSessions s ∨
      service = .createSession ∧ MicroOpcua.openSessions s < s.length ∧
        MicroOpcua.openSessions t ≤ MicroOpcua.openSessions s + 1 := by
  cases h with
  | same => exact .inl le_rfl
  | created i old session found free state fresh =>
    refine .inr ⟨rfl, ?_, countP_set_le_succ s i session⟩
    have hne : MicroOpcua.openSessions s ≠ s.length := by
      intro hall
      have hopen := List.countP_eq_length.mp hall old (List.mem_of_getElem? found)
      cases free.symm.trans hopen
    have hle : MicroOpcua.openSessions s ≤ s.length := List.countP_le_length
    omega
  | activated i session req w decoded passed =>
    obtain ⟨old, found, used, -, -⟩ := activateSession_returns (returns_of_fst passed)
    exact .inl (countP_set_le found (fun _ => used))
  | closed i old found used => exact .inl (countP_set_le found (fun _ => used))

end Counts

def Inbound.service? (b : Build) (chunk : Inbound) : Option Service :=
  chunk.typeId.ns0Numeric?.bind (fun id => (findServiceDescriptor b id).map ServiceRow.service)

theorem Inbound.service?_of_row {chunk : Inbound} {typeId : UInt32} {row : ServiceRow}
    (type : chunk.typeId.ns0Numeric? = some typeId) (hrow : findServiceDescriptor b typeId = some row) :
    chunk.service? b = some row.service := by
  rw [Inbound.service?, type, Option.bind_some, hrow]
  rfl

/-- A request that makes a session or a channel comes while the configured limit leaves room for it, or,
for a session, when there is no slot left anyway. -/
def Restrained (b : Build) (c : Config W) : Event W A → List (Event W A) → Prop
  | .dispatched _ before chunk _, .message _ _ p :: _ =>
    (chunk.service? b = some .createSession → openSessions p.shared.sessions < c.maxSessions.toNat ∨
      openSessions p.shared.sessions = p.shared.sessions.length) ∧
    (chunk.service? b = some .openSecureChannel → before.isOpen = false →
      openChannels p.conns < c.maxSecureChannels.toNat)
  | _, _ => True

instance (e : Event W A) (past : List (Event W A)) : Decidable (Restrained b c e past) :=
  match e, past with
  | .dispatched .., .message .. :: _ => by unfold Restrained; infer_instance
  | .dispatched .., [] | .dispatched .., .accepted _ :: _ | .dispatched .., .hello .. :: _
  | .dispatched .., .dispatched .. :: _ | .dispatched .., .turn .. :: _ | .dispatched .., .wrote _ :: _
  | .dispatched .., .closed _ :: _ | .accepted _, _ | .hello .., _
  | .message .., _ | .turn .., _ | .wrote _, _ | .closed _, _ => inferInstanceAs (Decidable True)

structure WithinLimits (c : Config W) (s : Server W A) : Prop where
  sessions : openSessions s.shared.sessions ≤ c.maxSessions.toNat
  channels : openChannels s.conns ≤ c.maxSecureChannels.toNat

section Steps

variable {k : Cause b W A} {u v : Ctx W A} {s t : Server W A}

structure DispatchOf (b : Build) (c : Config W) (k : Cause b W A) (u v : Ctx W A) (chunk : Inbound) where
  a : Arrival W A
  run : Option HandlerRun
  cause : k = .message a
  arrived : Arrived b c a u chunk
  trace : v.trace = .dispatched u.conn.id a.start.conn.channel chunk run :: u.trace

theorem Act.openSessions (h : Act b c app k u v) :
    openSessions v.shared.sessions ≤ openSessions u.shared.sessions ∨
      ∃ chunk, Nonempty (DispatchOf b c k u v chunk) ∧ chunk.service? b = some .createSession ∧
        MicroOpcua.openSessions u.shared.sessions < u.shared.sessions.length ∧
        MicroOpcua.openSessions v.shared.sessions ≤ MicroOpcua.openSessions u.shared.sessions + 1 := by
  cases h with
  | quiet h => exact .inl (by rw [h.sessions])
  | transport bytes => exact .inl (by rw [Ctx.written_shared])
  | send requestId payload publish bytes => exact .inl (by rw [Ctx.written_shared]; exact le_rfl)
  | dispatch cap chunk typeId arrived type =>
    obtain hsame | ⟨service, active, hgate, hchange⟩ :=
      serviceDispatch_sessions (b := b) (c := c) (chunk.request u.conn typeId)
        (u.dispatchScope b chunk) u.world
    · exact .inl (congrArg MicroOpcua.openSessions hsame).le
    · obtain hle | ⟨rfl, hroom, hsucc⟩ := hchange.openSessions
      · exact .inl hle
      · obtain ⟨row, hrow, hservice⟩ := (dispatchGate_eq_ok hgate).row
        refine .inr ⟨chunk, ⟨⟨_, _, rfl, arrived, rfl⟩⟩, ?_, hroom, hsucc⟩
        rw [Inbound.service?_of_row type hrow, hservice]
  | _ => exact .inl le_rfl

theorem Act.opened (h : Act b c app k u v) (hopened : v.conn.opened = true) :
    u.conn.opened = true ∨ ∃ chunk, ∃ d : DispatchOf b c k u v chunk,
      chunk.service? b = some .openSecureChannel ∧ d.a.start.conn.channel.isOpen = false := by
  cases h with
  | quiet h => exact .inl (h.conn ▸ hopened)
  | transport bytes => exact .inl (by rwa [Ctx.written_conn] at hopened)
  | send requestId payload publish bytes =>
    exact .inl (by rw [Ctx.written_conn] at hopened; exact hopened)
  | accept | close | shut | reset =>
    simp [Connection.opened, Ctx.closed, acceptInto, Ctx.setChannel, SecureChannel.init] at hopened
  | @dispatch a _ cap chunk typeId arrived type =>
    obtain ⟨run, hd⟩ := dispatchInbound_dispatches b c app cap a.start.conn.channel chunk typeId u
    rw [hd.conn] at hopened
    simp only [Connection.opened, Bool.and_eq_true] at hopened ⊢
    by_cases hopen : u.conn.channel.isOpen = true
    · exact .inl ⟨hopened.1, hopen⟩
    · obtain hsame | ⟨rfl, -⟩ := hd.channel
      · rw [hsame] at hopened
        exact absurd hopened.2 hopen
      · have hbefore : u.conn.channel.isOpen = a.start.conn.channel.isOpen :=
          (congrArg SecureChannel.isOpen arrived.channel).trans rfl
        refine .inr ⟨chunk, ⟨a, run, rfl, arrived, hd.trace⟩, ?_, ?_⟩
        · exact Inbound.service?_of_row type (findServiceDescriptor_open b)
        · rw [← hbefore]
          simpa using hopen
  | _ => exact .inl hopened

theorem DispatchOf.restrained {chunk : Inbound} {i : Nat} {conn : Connection} {v : Ctx W A}
    (found : s.conns[i]? = some conn) (cause : k.At i s) (d : DispatchOf b c k (s.ctx conn) v chunk)
    (h : Always (Restrained b c) v.trace) :
    (chunk.service? b = some .createSession → openSessions s.shared.sessions < c.maxSessions.toNat ∨
      openSessions s.shared.sessions = s.shared.sessions.length) ∧
    (chunk.service? b = some .openSecureChannel → d.a.start.conn.channel.isOpen = false →
      openChannels s.conns < c.maxSecureChannels.toNat) := by
  obtain ⟨a, run, rfl, arrived, trace⟩ := d
  have htrace : v.trace = .dispatched (s.ctx conn).conn.id a.start.conn.channel chunk run ::
      .message a.start.conn.id a.bytes ⟨a.start.shared, a.conns, a.start.world⟩ :: a.past := by
    rw [trace, arrived.trace, a.trace]
  rw [htrace] at h
  obtain ⟨hsessions, hchannels⟩ := (always_cons.mp h).1
  have hshared : s.shared = a.start.shared := arrived.shared
  have hopened : conn.opened = a.start.conn.opened := by
    have hconn : conn.clientHandle = a.start.conn.clientHandle :=
      (congrArg Connection.clientHandle arrived.conn).trans rfl
    have hchannel : conn.channel.isOpen = a.start.conn.channel.isOpen :=
      (congrArg SecureChannel.isOpen arrived.channel).trans rfl
    rw [Connection.opened, hconn, hchannel, Connection.opened]
  have hconns : openChannels a.conns = openChannels s.conns := by
    obtain ⟨hlt, rfl⟩ := List.getElem?_eq_some_iff.mp found
    rw [← cause.2]
    exact le_antisymm (countP_set_le found (fun h => hopened.trans h)) (by
      have hback := countP_set_le (p := Connection.opened) (y := s.conns[i])
        (List.getElem?_set_self hlt : (s.conns.set i a.start.conn)[i]? = _) (fun h =>
          hopened.symm.trans h)
      rwa [List.set_set, List.set_getElem_self] at hback)
  rw [hshared]
  refine ⟨hsessions, fun hservice hclosed => ?_⟩
  rw [← hconns]
  exact hchannels hservice hclosed

theorem WithinLimits.act {i : Nat} {conn : Connection} {v : Ctx W A} (hs : WithinLimits c s)
    (found : s.conns[i]? = some conn) (cause : k.At i s) (h : Act b c app k (s.ctx conn) v)
    (hrestrained : Always (Restrained b c) v.trace) : WithinLimits c (s.put i v) := by
  refine ⟨?_, ?_⟩
  · obtain hle | ⟨chunk, ⟨d⟩, hservice, hroom, hsucc⟩ := h.openSessions
    · exact hle.trans hs.sessions
    · obtain hlt | hfull := (d.restrained found cause hrestrained).1 hservice
      · exact hsucc.trans hlt
      · exact absurd hfull hroom.ne
  · by_cases hopened : v.conn.opened = true
    · obtain hold | ⟨chunk, d, hservice, hclosed⟩ := h.opened hopened
      · exact (countP_set_le found (fun _ => hold)).trans hs.channels
      · exact (countP_set_le_succ s.conns i v.conn).trans
          ((d.restrained found cause hrestrained).2 hservice hclosed)
    · exact (countP_set_le found (fun h => absurd h hopened)).trans hs.channels

theorem WithinLimits.step (hs : WithinLimits c s) (h : Step b c app s t)
    (hrestrained : Always (Restrained b c) t.trace) : WithinLimits c t := by
  cases h with
  | act i conn k found cause hact => exact hs.act found cause hact hrestrained
  | reset =>
    unfold resetShared
    split
    · exact hs
    · refine ⟨?_, hs.channels⟩
      have hclosed : openSessions (s.shared.sessions.map (fun _ => Session.init)) = 0 := by
        rw [openSessions, List.countP_eq_zero]
        intro session hmem
        obtain ⟨-, -, rfl⟩ := List.mem_map.mp hmem
        decide
      exact hclosed.le.trans (Nat.zero_le _)
  | message | turn | background | stop => exact ⟨hs.sessions, hs.channels⟩

theorem WithinLimits.init (a : A) (w : W) : WithinLimits c (Server.init b a w) := by
  have hsessions : openSessions (Server.init b a w : Server W A).shared.sessions = 0 := by
    rw [openSessions, List.countP_eq_zero]
    intro session hmem
    rw [List.eq_of_mem_replicate hmem]
    decide
  have hchannels : openChannels (Server.init b a w : Server W A).conns = 0 := by
    rw [openChannels, List.countP_eq_zero]
    exact Server.init_conns (Q := fun conn => ¬ conn.opened = true)
      (fun slot => by simp [Connection.opened, Connection.empty]) a w
  exact ⟨hsessions.le.trans (Nat.zero_le _), hchannels.le.trans (Nat.zero_le _)⟩

/-- In every run in which requests for sessions and channels keep to the configured limits, the server
does. -/
theorem limits_hold (h : Visited b c app s) (hrestrained : Always (Restrained b c) s.trace) :
    WithinLimits c s := by
  obtain ⟨a, w, hsteps⟩ := h.steps
  induction hsteps with
  | refl => exact .init a w
  | tail hsteps hlast ih =>
    have hbefore : Always (Restrained b c) _ := fun e past hsuffix =>
      hrestrained e past (hsuffix.trans hlast.trace_suffix)
    exact (ih ⟨h.valid, a, w, hsteps⟩ hbefore).step hlast hrestrained

theorem Step.conns_length (h : Step b c app s t) : t.conns.length = s.conns.length := by
  cases h with
  | act i conn k found cause hact => exact List.length_set
  | reset =>
    unfold resetShared
    split <;> rfl
  | message | turn | background | stop => rfl

theorem Visited.conns_length (h : Visited b c app s) : s.conns.length = connectionSlots b := by
  obtain ⟨a, w, hsteps⟩ := h.steps
  induction hsteps with
  | refl => rw [Server.init, List.length_map, List.length_range]
  | tail hsteps hlast ih => exact hlast.conns_length.trans (ih ⟨h.valid, a, w, hsteps⟩)

theorem configValidate_limits (h : configValidate b c = .ok ()) :
    c.maxSessions.toNat ≤ b.maxSessions ∧ connectionSlots b ≤ b.maxConnections := by
  simp only [configValidate, guard_eq_ok, not_or, Nat.not_lt] at h
  obtain ⟨-, -, -, ⟨-, hsessions⟩, ⟨hne, hchannels⟩, -⟩ := h
  refine ⟨hsessions, ?_⟩
  have hpos : 0 < c.maxSecureChannels.toNat := UInt32.pos_iff_ne_zero.mpr hne
  unfold connectionSlots
  split <;> omega

theorem sessionFindFree_isSome {sessions : List Session} (h : openSessions sessions < sessions.length) :
    (sessionFindFree sessions).isSome = true := by
  rw [sessionFindFree, List.findIdx?_isSome, List.any_eq_true]
  by_contra hnone
  have hall : openSessions sessions = sessions.length :=
    List.countP_eq_length.mpr (fun session hmem => by
      by_contra hclosed
      exact hnone ⟨session, hmem, by simpa using hclosed⟩)
  omega

/-- The configured numbers ask for capacity: the compiled table sizes are the limits, a session slot is
free as long as fewer sessions are open than were asked for, and clients that keep to the numbers see
them kept. -/
theorem compiled_limits_hold (h : Visited b c app s) :
    openSessions s.shared.sessions ≤ b.maxSessions ∧ openChannels s.conns ≤ b.maxConnections ∧
      (openSessions s.shared.sessions < c.maxSessions.toNat →
        (sessionFindFree s.shared.sessions).isSome = true) ∧
      (Always (Restrained b c) s.trace → WithinLimits c s) := by
  obtain ⟨hsessions, hslots⟩ := configValidate_limits h.valid
  have hlength := h.wellFormed.sessions
  refine ⟨hlength ▸ List.countP_le_length, ?_, fun hfew =>
    sessionFindFree_isSome (by omega), limits_hold h⟩
  exact List.countP_le_length.trans (h.conns_length.le.trans hslots)

end Steps

section Limited

open Script

def limitedConfig : Config Script := { config 6 8192 none with maxSessions := 1, maxSecureChannels := 1 }

/-- Two clients open channels, and the first one creates two sessions. -/
def overLimits : Server Script Unit :=
  play limitedConfig (oneChannel 10 ++ oneChannel 20 ++
    [deliver 10 (msg 2 (createRequest [])), deliver 10 (msg 3 (createRequest []))])

theorem overLimits_counts :
    openSessions overLimits.shared.sessions = 2 ∧ openChannels overLimits.conns = 2 := by
  decide +kernel

theorem overLimits_reachable : Reachable build limitedConfig application overLimits :=
  play_reachable (by decide) _

theorem limits_exceeded : Reachable build limitedConfig application overLimits ∧
      limitedConfig.maxSessions.toNat < openSessions overLimits.shared.sessions ∧
      limitedConfig.maxSecureChannels.toNat < openChannels overLimits.conns := by
  obtain ⟨hsessions, hchannels⟩ := overLimits_counts
  refine ⟨overLimits_reachable, ?_, ?_⟩
  · rw [hsessions]
    decide
  · rw [hchannels]
    decide

def withinLimits : Server Script Unit :=
  play limitedConfig (oneChannel 10 ++ [deliver 10 (msg 2 (createRequest []))])

theorem compiled_limits_hold_two_runs :
    (openSessions overLimits.shared.sessions = 2 ∧ openSessions overLimits.shared.sessions ≤
      build.maxSessions ∧ openChannels overLimits.conns ≤ build.maxConnections) ∧
    openSessions withinLimits.shared.sessions = 1 ∧ WithinLimits limitedConfig withinLimits := by
  have hrun : openSessions withinLimits.shared.sessions = 1 ∧
      Always (Restrained build limitedConfig) withinLimits.trace := by decide +kernel
  have hwithin : Reachable build limitedConfig application withinLimits := play_reachable (by decide) _
  obtain ⟨hsessions, hchannels, -, -⟩ := compiled_limits_hold overLimits_reachable.visited
  obtain ⟨-, -, -, hlimits⟩ := compiled_limits_hold hwithin.visited
  exact ⟨⟨overLimits_counts.1, hsessions, hchannels⟩, hrun.1, hlimits hrun.2⟩

end Limited

end MicroOpcua
