import Mathlib

namespace MicroOpcua.Lib.StateRun

variable {ε σ τ α β : Type}

section State

theorem run_bind (m : StateM σ α) (f : α → StateM σ β) (s : σ) :
    (m >>= f).run s = (f (m.run s).1).run (m.run s).2 := by rfl

theorem run_pure (a : α) (s : σ) : (pure a : StateM σ α).run s = (a, s) := by rfl

theorem run_get (s : σ) : (get : StateM σ σ).run s = (s, s) := by rfl

theorem run_set (t s : σ) : (set t : StateM σ PUnit).run s = ((), t) := by rfl

theorem run_modify (f : σ → σ) (s : σ) : (modify f : StateM σ PUnit).run s = ((), f s) := by rfl

theorem run_ite (p : Prop) [Decidable p] (m n : StateM σ α) (s : σ) :
    (if p then m else n).run s = if p then m.run s else n.run s := by
  split <;> rfl

/-- A rule for `mapM`: `f` keeps `I` and gives, from every state in `I`, a result related to its
argument. -/
theorem mapM_forall₂ {I : σ → Prop} {P : α → β → Prop} {f : α → StateM σ β}
    (hf : ∀ a s, I s → P a ((f a).run s).1 ∧ I ((f a).run s).2) (as : List α) (s : σ) (hs : I s) :
    List.Forall₂ P as ((as.mapM f).run s).1 := by
  induction as generalizing s with
  | nil => exact .nil
  | cons a as ih =>
    rw [List.mapM_cons, run_bind, run_bind]
    exact .cons (hf a s hs).1 (ih _ (hf a s hs).2)

end State

section Except

theorem bind_eq_ok {m : Except ε α} {f : α → Except ε β} {b : β} :
    m >>= f = .ok b ↔ ∃ a, m = .ok a ∧ f a = .ok b := by
  cases m with
  | error e => exact ⟨nofun, nofun⟩
  | ok a => exact ⟨fun h => ⟨a, rfl, h⟩, fun ⟨_, ha, h⟩ => Except.ok.inj ha ▸ h⟩

theorem pure_eq_ok {a b : α} : (pure a : Except ε α) = .ok b ↔ a = b := Except.ok.injEq a b ▸ Iff.rfl

theorem guard_eq_ok {p : Prop} [Decidable p] {e : ε} {f : PUnit → Except ε β} {b : β} :
    (if p then throw e >>= f else f ()) = .ok b ↔ ¬ p ∧ f () = .ok b := by
  split
  · rename_i hp
    exact ⟨nofun, fun h => absurd hp h.1⟩
  · rename_i hp
    simp only [hp, not_false_eq_true, true_and]

theorem guard_ne_error {p : Prop} [Decidable p] {e e' : ε} {f : PUnit → Except ε β} (he : e ≠ e')
    (h : ¬ p → f () ≠ .error e') : (if p then throw e >>= f else f ()) ≠ .error e' := by
  split
  · exact fun heq => he (Except.error.inj heq)
  · rename_i hp
    exact h hp

end Except

/-- Whatever `m` returns, it moves the state along `R`. -/
def Moves (R : σ → σ → Prop) (m : ExceptT ε (StateM σ) α) : Prop := ∀ s, R s (m.run.run s).2

/-- Sequencing: `m` fails and stops, or returns and `f` goes on from where it left the state. -/
theorem run_run_bind (m : ExceptT ε (StateM σ) α) (f : α → ExceptT ε (StateM σ) β) (s : σ) :
    (∃ e, (m.run.run s).1 = .error e ∧ (m >>= f).run.run s = (.error e, (m.run.run s).2)) ∨
      ∃ a, (m.run.run s).1 = .ok a ∧ (m >>= f).run.run s = (f a).run.run (m.run.run s).2 := by
  rw [ExceptT.run_bind, run_bind]
  cases hm : (m.run.run s).1 with
  | error e => exact .inl ⟨e, rfl, rfl⟩
  | ok a => exact .inr ⟨a, rfl, rfl⟩

variable {s t : σ}

theorem bind_returns {m : ExceptT ε (StateM σ) α} {f : α → ExceptT ε (StateM σ) β} {b : β} :
    (m >>= f).run.run s = (.ok b, t) ↔
      ∃ a u, m.run.run s = (.ok a, u) ∧ (f a).run.run u = (.ok b, t) := by
  constructor
  · intro h
    obtain ⟨e, -, hrun⟩ | ⟨a, ha, hrun⟩ := run_run_bind m f s
    · rw [hrun] at h
      cases h
    · exact ⟨a, (m.run.run s).2, Prod.ext ha rfl, hrun ▸ h⟩
  · rintro ⟨a, u, hm, hf⟩
    rw [ExceptT.run_bind, run_bind, hm]
    exact hf

theorem run_map (f : α → β) (m : ExceptT ε (StateM σ) α) (s : σ) :
    (f <$> m).run.run s = ((m.run.run s).1.map f, (m.run.run s).2) := by
  change (m >>= fun a => pure (f a)).run.run s = _
  obtain ⟨e, he, hrun⟩ | ⟨a, ha, hrun⟩ := run_run_bind m (fun a => pure (f a)) s
  · rw [hrun, he]
    rfl
  · rw [hrun, ha]
    rfl

theorem pure_returns {a b : α} :
    (pure a : ExceptT ε (StateM σ) α).run.run s = (.ok b, t) ↔ a = b ∧ s = t := by
  constructor
  · intro h
    cases h
    exact ⟨rfl, rfl⟩
  · rintro ⟨rfl, rfl⟩
    rfl

theorem throw_returns {e : ε} {b : α} :
    (throw e : ExceptT ε (StateM σ) α).run.run s = (.ok b, t) ↔ False := by
  constructor
  · intro h
    cases h
  · exact False.elim

theorem guard_returns {p : Prop} [Decidable p] {e : ε} {f : PUnit → ExceptT ε (StateM σ) β} {b : β} :
    (if p then throw e >>= f else f ()).run.run s = (.ok b, t) ↔
      ¬ p ∧ (f ()).run.run s = (.ok b, t) := by
  split
  · rename_i hp
    refine iff_of_false (fun h => ?_) (fun h => h.1 hp)
    obtain ⟨a, u, ha, -⟩ := bind_returns.mp h
    exact throw_returns.mp ha
  · rename_i hp
    simp only [hp, not_false_eq_true, true_and]

theorem lift_returns {r : Except ε α} {a : α} :
    (liftM r : ExceptT ε (StateM σ) α).run.run s = (.ok a, t) ↔ r = .ok a ∧ s = t := by
  change ((r, s) : Except ε α × σ) = (.ok a, t) ↔ _
  simp only [Prod.mk.injEq]

theorem mk_pure_returns {r : Except ε α} {a : α} :
    (ExceptT.mk (pure r) : ExceptT ε (StateM σ) α).run.run s = (.ok a, t) ↔ r = .ok a ∧ s = t :=
  lift_returns

theorem when_returns {p : Prop} [Decidable p] {m : ExceptT ε (StateM σ) PUnit}
    {f : PUnit → ExceptT ε (StateM σ) β} {b : β}
    (h : (if p then m >>= f else f ()).run.run s = (.ok b, t)) : ∃ u, (f ()).run.run u = (.ok b, t) := by
  split at h
  · obtain ⟨⟨⟩, u, -, hf⟩ := bind_returns.mp h
    exact ⟨u, hf⟩
  · exact ⟨s, h⟩

theorem returns_of_fst {m : ExceptT ε (StateM σ) α} {a : α} (h : (m.run.run s).1 = .ok a) :
    m.run.run s = (.ok a, (m.run.run s).2) := Prod.ext h rfl

theorem run_tryCatch (m : ExceptT ε (StateM σ) α) (f : ε → ExceptT ε (StateM σ) α) (s : σ) :
    (tryCatch m f).run.run s =
      (match (m.run.run s).1 with
        | .ok a => (.ok a, (m.run.run s).2)
        | .error e => (f e).run.run (m.run.run s).2) := by
  change (m.run >>= fun r => match r with
    | .ok a => pure (Except.ok a)
    | .error e => (f e).run : StateM σ (Except ε α)).run s = _
  rw [run_bind]
  cases (m.run.run s).1 <;> rfl

namespace Moves

variable {R S Q : σ → σ → Prop} {m : ExceptT ε (StateM σ) α} {f : α → ExceptT ε (StateM σ) β}

theorem mono (hm : Moves R m) (h : ∀ s t, R s t → Q s t) : Moves Q m := fun s => h _ _ (hm s)

theorem bind_of (hm : Moves R m) (hstop : ∀ s t, R s t → Q s t)
    (hf : ∀ s a, (m.run.run s).1 = .ok a → R s (m.run.run s).2 → Q s ((f a).run.run (m.run.run s).2).2) :
    Moves Q (m >>= f) := by
  intro s
  obtain ⟨e, -, hrun⟩ | ⟨a, ha, hrun⟩ := run_run_bind m f s
  · rw [hrun]
    exact hstop _ _ (hm s)
  · rw [hrun]
    exact hf s a ha (hm s)

theorem bind [IsTrans σ R] (hm : Moves R m) (hf : ∀ a, Moves R (f a)) : Moves R (m >>= f) :=
  hm.bind_of (fun _ _ h => h) (fun _ a _ h => IsTrans.trans _ _ _ h (hf a _))

theorem pure [Std.Refl R] (a : α) : Moves R (Pure.pure a : ExceptT ε (StateM σ) α) := fun s => refl s

theorem throw [Std.Refl R] (e : ε) : Moves R (throw e : ExceptT ε (StateM σ) α) := fun s => refl s

end Moves

def Yields (P : α → Prop) (m : ExceptT ε (StateM σ) α) : Prop := ∀ s, ∃ a, (m.run.run s).1 = .ok a ∧ P a

namespace Yields

variable {P : α → Prop} {Q : β → Prop} {m : ExceptT ε (StateM σ) α} {f : α → ExceptT ε (StateM σ) β}

theorem bind (hm : Yields P m) (hf : ∀ a, P a → Yields Q (f a)) : Yields Q (m >>= f) := by
  intro s
  obtain ⟨a, ha, hP⟩ := hm s
  obtain ⟨e, he, -⟩ | ⟨a', ha', hrun⟩ := run_run_bind m f s
  · rw [ha] at he
    cases he
  · rw [ha] at ha'
    obtain rfl := Except.ok.inj ha'
    rw [hrun]
    exact hf a hP _

theorem pure {a : α} (ha : P a) : Yields P (Pure.pure a : ExceptT ε (StateM σ) α) :=
  fun _ => ⟨a, rfl, ha⟩

theorem lift {r : Except ε α} {a : α} (hr : r = .ok a) (ha : P a) :
    Yields P (liftM r : ExceptT ε (StateM σ) α) :=
  fun _ => ⟨a, hr, ha⟩

theorem guard {p : Prop} [Decidable p] {e : ε} {f : PUnit → ExceptT ε (StateM σ) β} (hp : ¬ p)
    (hf : Yields Q (f ())) : Yields Q (if p then throw e >>= f else f ()) := by
  rw [if_neg hp]
  exact hf

theorem ne_error (h : Yields P m) (s : σ) (e : ε) : (m.run.run s).1 ≠ .error e := by
  obtain ⟨a, ha, -⟩ := h s
  rw [ha]
  exact nofun

end Yields

def Gives (P : α → Prop) (m : ExceptT ε (StateM σ) α) : Prop := ∀ s a t, m.run.run s = (.ok a, t) → P a

namespace Gives

variable {P : α → Prop} {Q : β → Prop} {m : ExceptT ε (StateM σ) α} {f : α → ExceptT ε (StateM σ) β}

theorem bind (hm : Gives P m) (hf : ∀ a, P a → Gives Q (f a)) : Gives Q (m >>= f) := by
  intro s b t h
  obtain ⟨a, u, ha, hb⟩ := bind_returns.mp h
  exact hf a (hm s a u ha) u b t hb

theorem bind_then (hf : ∀ a, Gives Q (f a)) : Gives Q (m >>= f) := by
  intro s b t h
  obtain ⟨a, u, -, hb⟩ := bind_returns.mp h
  exact hf a u b t hb

theorem pure {a : α} (ha : P a) : Gives P (Pure.pure a : ExceptT ε (StateM σ) α) := by
  intro s b t h
  exact (pure_returns.mp h).1 ▸ ha

theorem guard {p : Prop} [Decidable p] {e : ε} {f : PUnit → ExceptT ε (StateM σ) β}
    (hf : Gives Q (f ())) : Gives Q (if p then throw e >>= f else f ()) :=
  fun s b t h => hf s b t (guard_returns.mp h).2

end Gives

/-- From a state that meets `I`, `m` stays within `I` and fails only with errors that meet `P`. -/
def Fails (I : σ → Prop) (P : ε → Prop) (m : ExceptT ε (StateM σ) α) : Prop :=
  ∀ s, I s → I (m.run.run s).2 ∧ ∀ e, (m.run.run s).1 = .error e → P e

namespace Fails

variable {I : σ → Prop} {P : ε → Prop} {m : ExceptT ε (StateM σ) α} {f : α → ExceptT ε (StateM σ) β}

theorem bind (hm : Fails I P m) (hf : ∀ a, Fails I P (f a)) : Fails I P (m >>= f) := by
  intro s hs
  obtain ⟨hstate, herror⟩ := hm s hs
  obtain ⟨e, he, hrun⟩ | ⟨a, -, hrun⟩ := run_run_bind m f s
  · rw [hrun]
    exact ⟨hstate, fun e' he' => Except.error.inj he' ▸ herror e he⟩
  · rw [hrun]
    exact hf a _ hstate

theorem pure (a : α) : Fails I P (Pure.pure a : ExceptT ε (StateM σ) α) := fun _ hs => ⟨hs, nofun⟩

theorem throw {e : ε} (he : P e) : Fails I P (throw e : ExceptT ε (StateM σ) α) :=
  fun _ hs => ⟨hs, fun _ h => Except.error.inj h ▸ he⟩

theorem get_bind {f : σ → ExceptT ε (StateM σ) β} (hf : ∀ s, Fails I P (f s)) : Fails I P (get >>= f) :=
  fun s hs => hf s s hs

theorem ite {p : Prop} [Decidable p] {m n : ExceptT ε (StateM σ) α} (hm : p → Fails I P m)
    (hn : ¬ p → Fails I P n) : Fails I P (if p then m else n) := by
  split
  · rename_i hp
    exact hm hp
  · rename_i hp
    exact hn hp

end Fails

end MicroOpcua.Lib.StateRun
