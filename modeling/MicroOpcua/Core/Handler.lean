import MicroOpcua.Core.Config
import MicroOpcua.Encoding.WriterLaws

namespace MicroOpcua

open Lib.StateRun

/-- What a service handler works on: the request reader, the response writer, the part `σ` of the
server it may change, and the world behind the adapters. Everything outside `σ` is out of reach. -/
structure HandlerState (σ W : Type) (cap : Nat) where
  reader : Reader
  writer : Writer cap
  state : σ
  world : W

abbrev HandlerM (σ W : Type) (cap : Nat) := ExceptT Fault (StateM (HandlerState σ W cap))

variable {σ W α β : Type} {cap : Nat}

namespace HandlerM

def decode (m : ReadM α) : HandlerM σ W cap α := ExceptT.mk fun s =>
  match m.run.run s.reader with
  | (r, reader) => (r, { s with reader := reader })

def encode (m : WriteM cap α) : HandlerM σ W cap α := ExceptT.mk fun s =>
  match m.run.run s.writer with
  | (r, writer) => (r, { s with writer := writer })

def adapterChecked (m : AdapterM W α) : HandlerM σ W cap α := ExceptT.mk fun s =>
  match m.run.run s.world with
  | (r, world) => (r, { s with world := world })

def adapter (m : StateM W α) : HandlerM σ W cap α := ExceptT.mk fun s =>
  match m.run s.world with
  | (a, world) => (.ok a, { s with world := world })

def state : HandlerM σ W cap σ := ExceptT.mk fun s => (.ok s.state, s)

def update (f : σ → α × σ) : HandlerM σ W cap α := ExceptT.mk fun s =>
  match f s.state with
  | (a, st) => (.ok a, { s with state := st })

def updateChecked (f : σ → Except Fault α × σ) : HandlerM σ W cap α := ExceptT.mk fun s =>
  match f s.state with
  | (r, st) => (r, { s with state := st })

def checked (r : Except Fault α) : HandlerM σ W cap α := ExceptT.mk fun s => (r, s)

def execute (m : HandlerM σ W cap α) (request : Bytes) (st : σ) (world : W) :
    Except Fault (α × Encoded cap) × σ × W :=
  match m.run.run ⟨.init request, .init, st, world⟩ with
  | (.ok a, s) => (.ok (a, ⟨s.writer.bytes, s.writer.fits⟩), s.state, s.world)
  | (.error e, s) => (.error e, s.state, s.world)

def zoom {τ : Type} (get : σ → τ) (set : τ → σ → σ) (m : HandlerM τ W cap α) : HandlerM σ W cap α :=
  ExceptT.mk fun s =>
    match m.run.run ⟨s.reader, s.writer, get s.state, s.world⟩ with
    | (r, t) => (r, ⟨t.reader, t.writer, set t.state s.state, t.world⟩)

def repeatM (m : HandlerM σ W cap Unit) : Nat → HandlerM σ W cap Unit
  | 0 => return ()
  | n + 1 => do
    m
    repeatM m n

end HandlerM

section Returns

variable {s t : HandlerState σ W cap} {a : α}

theorem decode_returns {m : ReadM α} : (HandlerM.decode m).run.run s = (.ok a, t) ↔
      ∃ r, m.run.run s.reader = (.ok a, r) ∧ t = { s with reader := r } := by
  change ((m.run.run s.reader).1, { s with reader := (m.run.run s.reader).2 }) = (.ok a, t) ↔ _
  rw [Prod.mk.injEq]
  constructor
  · rintro ⟨ha, rfl⟩
    exact ⟨_, returns_of_fst ha, rfl⟩
  · rintro ⟨r, hr, rfl⟩
    rw [hr]
    exact ⟨rfl, rfl⟩

theorem encode_returns {m : WriteM cap α} :
    (HandlerM.encode m).run.run s = (.ok a, t) ↔
      ∃ w, m.run.run s.writer = (.ok a, w) ∧ t = { s with writer := w } := by
  change ((m.run.run s.writer).1, { s with writer := (m.run.run s.writer).2 }) = (.ok a, t) ↔ _
  rw [Prod.mk.injEq]
  constructor
  · rintro ⟨ha, rfl⟩
    exact ⟨_, returns_of_fst ha, rfl⟩
  · rintro ⟨w, hw, rfl⟩
    rw [hw]
    exact ⟨rfl, rfl⟩

theorem state_returns {st : σ} :
    (HandlerM.state : HandlerM σ W cap σ).run.run s = (.ok st, t) ↔ st = s.state ∧ t = s := by
  change ((Except.ok s.state : Except Fault σ), s) = (.ok st, t) ↔ _
  rw [Prod.mk.injEq, Except.ok.injEq, eq_comm, @eq_comm _ s t]

theorem update_returns {f : σ → α × σ} :
    (HandlerM.update f).run.run s = (.ok a, t) ↔
      a = (f s.state).1 ∧ t = { s with state := (f s.state).2 } := by
  change ((Except.ok (f s.state).1 : Except Fault α), { s with state := (f s.state).2 }) = (.ok a, t) ↔ _
  rw [Prod.mk.injEq, Except.ok.injEq, eq_comm, @eq_comm _ _ t]

theorem updateChecked_returns {f : σ → Except Fault α × σ}
    (h : (HandlerM.updateChecked f).run.run s = (.ok a, t)) : f s.state = (.ok a, t.state) := by
  have hrun : (HandlerM.updateChecked f : HandlerM σ W cap α).run.run s =
      ((f s.state).1, { s with state := (f s.state).2 }) := rfl
  rw [hrun] at h
  obtain ⟨ha, rfl⟩ := Prod.mk.inj h
  exact Prod.ext ha rfl

theorem adapter_returns {m : StateM W α} :
    (HandlerM.adapter m).run.run s = (.ok a, t) ↔
      a = (m.run s.world).1 ∧ t = { s with world := (m.run s.world).2 } := by
  change ((Except.ok (m.run s.world).1 : Except Fault α), { s with world := (m.run s.world).2 }) =
    (.ok a, t) ↔ _
  rw [Prod.mk.injEq, Except.ok.injEq, eq_comm, @eq_comm _ _ t]

theorem zoom_returns {τ : Type} {get : σ → τ} {set : τ → σ → σ} {m : HandlerM τ W cap α} :
    (HandlerM.zoom get set m).run.run s = (.ok a, t) ↔
      ∃ u, m.run.run ⟨s.reader, s.writer, get s.state, s.world⟩ = (.ok a, u) ∧
        t = ⟨u.reader, u.writer, set u.state s.state, u.world⟩ := by
  rcases hrun : m.run.run ⟨s.reader, s.writer, get s.state, s.world⟩ with ⟨r, v⟩
  have hzoom :
      (HandlerM.zoom get set m).run.run s = (r, ⟨v.reader, v.writer, set v.state s.state, v.world⟩) := by
    simp only [HandlerM.zoom, ExceptT.run_mk, StateT.run] at hrun ⊢
    rw [hrun]
  rw [hzoom, Prod.mk.injEq]
  constructor
  · rintro ⟨rfl, rfl⟩
    exact ⟨v, rfl, rfl⟩
  · rintro ⟨u, hu, rfl⟩
    cases hu
    exact ⟨rfl, rfl⟩

theorem execute_eq_ok {m : HandlerM σ W cap α} {request : Bytes} {st st' : σ} {world world' : W}
    {bs : Encoded cap} (h : m.execute request st world = (.ok (a, bs), st', world')) :
    ∃ t, m.run.run ⟨.init request, .init, st, world⟩ = (.ok a, t) ∧ t.writer.bytes = bs.1 ∧
      t.state = st' := by
  unfold HandlerM.execute at h
  split at h
  · rename_i a' t hrun
    simp only [Prod.mk.injEq, Except.ok.injEq] at h
    obtain ⟨⟨rfl, rfl⟩, rfl, rfl⟩ := h
    exact ⟨t, hrun, rfl, rfl⟩
  · cases h

end Returns

section Runs

variable (s : HandlerState σ W cap)

theorem run_decode_bind (m : ReadM α) (f : α → HandlerM σ W cap β) :
    (HandlerM.decode m >>= f).run.run s =
      match m.run.run s.reader with
      | (.ok a, r) => (f a).run.run { s with reader := r }
      | (.error e, r) => (.error e, { s with reader := r }) := by
  have hrun : (HandlerM.decode m : HandlerM σ W cap α).run.run s =
      ((m.run.run s.reader).1, { s with reader := (m.run.run s.reader).2 }) := rfl
  rw [ExceptT.run_bind, run_bind, hrun]
  obtain ⟨e | a, r⟩ := m.run.run s.reader <;> rfl

theorem run_adapterChecked_bind (m : AdapterM W α) (f : α → HandlerM σ W cap β) :
    (HandlerM.adapterChecked m >>= f).run.run s =
      match m.run.run s.world with
      | (.ok a, w) => (f a).run.run { s with world := w }
      | (.error e, w) => (.error e, { s with world := w }) := by
  have hrun : (HandlerM.adapterChecked m : HandlerM σ W cap α).run.run s =
      ((m.run.run s.world).1, { s with world := (m.run.run s.world).2 }) := rfl
  rw [ExceptT.run_bind, run_bind, hrun]
  obtain ⟨e | a, r⟩ := m.run.run s.world <;> rfl

theorem run_state_bind (f : σ → HandlerM σ W cap β) :
    (HandlerM.state >>= f).run.run s = (f s.state).run.run s := by
  rfl

theorem run_update_bind (g : σ → α × σ) (f : α → HandlerM σ W cap β) :
    (HandlerM.update g >>= f).run.run s =
      (f (g s.state).1).run.run { s with state := (g s.state).2 } := by rfl

theorem run_updateChecked_bind (g : σ → Except Fault α × σ) (f : α → HandlerM σ W cap β) :
    (HandlerM.updateChecked g >>= f).run.run s =
      match g s.state with
      | (.ok a, st) => (f a).run.run { s with state := st }
      | (.error e, st) => (.error e, { s with state := st }) := by
  have hrun : (HandlerM.updateChecked g : HandlerM σ W cap α).run.run s =
      ((g s.state).1, { s with state := (g s.state).2 }) := rfl
  rw [ExceptT.run_bind, run_bind, hrun]
  obtain ⟨e | a, r⟩ := g s.state <;> rfl

theorem run_checked_bind (r : Except Fault α) (f : α → HandlerM σ W cap β) :
    (HandlerM.checked r >>= f).run.run s =
      match r with
      | .ok a => (f a).run.run s
      | .error e => (.error e, s) := by
  cases r <;> rfl

variable (m : HandlerM σ W cap α)

theorem run_bind_pure (f : α → β) : ((m >>= fun a => pure (f a)).run.run s).2 = (m.run.run s).2 := by
  obtain ⟨e, -, hrun⟩ | ⟨x, -, hrun⟩ := run_run_bind m (fun a => pure (f a)) s <;> rw [hrun]
  rfl

theorem execute_end (request : Bytes) (st : σ) (w : W) : (m.execute request st w).2 =
      ((m.run.run ⟨.init request, .init, st, w⟩).2.state,
        (m.run.run ⟨.init request, .init, st, w⟩).2.world) := by
  unfold HandlerM.execute
  split <;> rename_i hrun <;> rw [hrun]

theorem execute_state (request : Bytes) (st : σ) (w : W) :
    (m.execute request st w).2.1 = (m.run.run ⟨.init request, .init, st, w⟩).2.state := by
  rw [execute_end]

end Runs

section Writes

variable (s : HandlerState σ W cap)

theorem decode_writer (m : ReadM α) : ((HandlerM.decode m).run.run s).2.writer = s.writer := rfl

theorem adapterChecked_writer (m : AdapterM W α) :
    ((HandlerM.adapterChecked m).run.run s).2.writer = s.writer := rfl

theorem adapter_writer (m : StateM W α) : ((HandlerM.adapter m).run.run s).2.writer = s.writer := rfl

theorem update_writer (f : σ → α × σ) : ((HandlerM.update f).run.run s).2.writer = s.writer := rfl

theorem checked_writer (r : Except Fault α) : ((HandlerM.checked r).run.run s).2.writer = s.writer := rfl

theorem state_writer : ((HandlerM.state).run.run s).2.writer = s.writer := rfl

def Silent (m : HandlerM σ W cap α) : Prop := Moves (fun s t => t.writer = s.writer) m

theorem Silent.bind {m : HandlerM σ W cap α} {f : α → HandlerM σ W cap β} (hm : Silent m)
    (hf : ∀ a, Silent (f a)) : Silent (m >>= f) :=
  Moves.bind_of hm (fun _ _ h => h) (fun _ a _ h => (hf a _).trans h)

def WritesAtMost (n : Nat) (m : HandlerM σ W cap α) : Prop :=
  Moves (fun s t => t.writer.bytes.length ≤ s.writer.bytes.length + n) m

namespace WritesAtMost

variable {n k : Nat} {m : HandlerM σ W cap α} {f : α → HandlerM σ W cap β}

theorem bind (hm : WritesAtMost n m) (hf : ∀ a, WritesAtMost k (f a)) :
    WritesAtMost (n + k) (m >>= f) := by
  refine Moves.bind_of hm (fun s t h => by omega) (fun s a _ h => ?_)
  have := hf a (m.run.run s).2
  omega

theorem encode {m : WriteM cap α} (hm : Grows n m) :
    WritesAtMost n (HandlerM.encode m : HandlerM σ W cap α) :=
  fun s => hm s.writer

theorem silent_bind (hm : Silent m) (hf : ∀ a, WritesAtMost n (f a)) : WritesAtMost n (m >>= f) := by
  have hsilent : WritesAtMost 0 m := fun s => (congrArg (fun w => w.bytes.length) (hm s)).le
  simpa only [Nat.zero_add] using hsilent.bind hf

theorem silent (hm : Silent m) : WritesAtMost n m :=
  fun s => (congrArg (fun w => w.bytes.length) (hm s)).le.trans (Nat.le_add_right _ _)

end WritesAtMost

end Writes

/-- Whatever happens in `m`, its part of the server moves along `R`. -/
def Effect (R : σ → σ → Prop) (m : HandlerM σ W cap α) : Prop :=
  Moves (fun s t => R s.state t.state) m

namespace Effect

variable {R : σ → σ → Prop} {m : HandlerM σ W cap α} {f : α → HandlerM σ W cap β}

theorem bind [IsTrans σ R] (hm : Effect R m) (hf : ∀ a, Effect R (f a)) : Effect R (m >>= f) :=
  Moves.bind_of hm (fun _ _ h => h) (fun _ a _ h => IsTrans.trans _ _ _ h (hf a _))

theorem bind_then {Q : σ → σ → Prop} (hm : Effect Q m) (hf : ∀ a, Effect R (f a))
    (h : ∀ s t u, Q s t → R t u → Q s u) : Effect Q (m >>= f) :=
  Moves.bind_of hm (fun _ _ h => h) (fun _ a _ hst => h _ _ _ hst (hf a _))

section Refl

variable [Std.Refl R]

theorem pure (a : α) : Effect R (Pure.pure a : HandlerM σ W cap α) := fun s => refl s.state

theorem throw (e : Fault) : Effect R (throw e : HandlerM σ W cap α) := fun s => refl s.state

theorem decode (m : ReadM α) : Effect R (HandlerM.decode m : HandlerM σ W cap α) := fun s => refl s.state

theorem encode (m : WriteM cap α) : Effect R (HandlerM.encode m : HandlerM σ W cap α) :=
  fun s => refl s.state

theorem adapterChecked (m : AdapterM W α) : Effect R (HandlerM.adapterChecked m : HandlerM σ W cap α) :=
  fun s => refl s.state

theorem adapter (m : StateM W α) : Effect R (HandlerM.adapter m : HandlerM σ W cap α) :=
  fun s => refl s.state

theorem state : Effect R (HandlerM.state : HandlerM σ W cap σ) := fun s => refl s.state

theorem checked (r : Except Fault α) : Effect R (HandlerM.checked r : HandlerM σ W cap α) :=
  fun s => refl s.state

theorem guard {p : Prop} [Decidable p] {e : Fault} {f : PUnit → HandlerM σ W cap β}
    (hf : ¬ p → Effect R (f ())) : Effect R (if p then MonadExcept.throw e >>= f else f ()) := by
  by_cases hp : p
  · rw [if_pos hp]
    exact fun s => refl s.state
  · rw [if_neg hp]
    exact hf hp

theorem bind_same (hm : Effect Eq m) (hf : ∀ a, Effect R (f a)) : Effect R (m >>= f) :=
  Moves.bind_of hm (fun s _ h => h ▸ refl s.state) (fun s a _ h => h ▸ hf a (m.run.run s).2)

theorem adapterChecked_bind {m : AdapterM W α}
    (hf : ∀ a w w', m.run.run w = (.ok a, w') → Effect R (f a)) :
    Effect R (HandlerM.adapterChecked m >>= f) :=
  Moves.bind_of (R := fun s t => s.state = t.state) (fun _ => rfl) (fun s _ h => h ▸ refl s.state)
    (fun s a ha _ => hf a _ _ (returns_of_fst ha) ((HandlerM.adapterChecked m).run.run s).2)

theorem checked_bind {r : Except Fault α} (hf : ∀ a, r = .ok a → Effect R (f a)) :
    Effect R (HandlerM.checked r >>= f) := by
  cases r with
  | error e => exact fun s => refl s.state
  | ok a => exact hf a rfl

end Refl

theorem adapter_bind {m : StateM W α} (hf : ∀ a w w', m.run w = (a, w') → Effect R (f a)) :
    Effect R (HandlerM.adapter m >>= f) :=
  fun s => hf _ s.world _ rfl ((HandlerM.adapter m).run.run s).2

theorem state_bind {f : σ → HandlerM σ W cap β} (hf : ∀ a, Effect (fun s t => s = a → R s t) (f a)) :
    Effect R (HandlerM.state >>= f) := fun s => hf s.state s rfl

theorem update {f : σ → α × σ} (h : ∀ s, R s (f s).2) :
    Effect R (HandlerM.update f : HandlerM σ W cap α) :=
  fun s => h s.state

theorem set_bind {st : σ} {g : Unit → HandlerM σ W cap β} (hg : Effect R (g ())) :
    Effect (fun _ t => R st t) (HandlerM.update (fun _ => ((), st)) >>= g) :=
  fun s => hg { s with state := st }

theorem updateChecked {f : σ → Except Fault α × σ} (h : ∀ s, R s (f s).2) :
    Effect R (HandlerM.updateChecked f : HandlerM σ W cap α) := fun s => h s.state

theorem zoom {τ : Type} {S : τ → τ → Prop} {m : HandlerM τ W cap α} {get : σ → τ} {set : τ → σ → σ}
    (hm : Effect S m) (h : ∀ s t, S (get s) t → R s (set t s)) : Effect R (HandlerM.zoom get set m) :=
  fun s => h s.state _ (hm ⟨s.reader, s.writer, get s.state, s.world⟩)

theorem repeatM [Std.Refl R] [IsTrans σ R] {m : HandlerM σ W cap Unit} (hm : Effect R m) (n : Nat) :
    Effect R (HandlerM.repeatM m n) := by
  induction n with
  | zero => exact pure ()
  | succ n ih => exact bind hm (fun _ => ih)

theorem execute (hm : Effect R m) (request : Bytes) (st : σ) (world : W) :
    R st (m.execute request st world).2.1 := by
  have h := hm ⟨.init request, .init, st, world⟩
  unfold HandlerM.execute
  split <;> rename_i hrun <;> rw [hrun] at h <;> exact h

end Effect

end MicroOpcua
