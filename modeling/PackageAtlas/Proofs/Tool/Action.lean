import PackageAtlas.Tool.Call

namespace PackageAtlas.Tool

/-!
# What actions do

Actions are opened once, here: each way to put them together has one rule for what comes out, and
one for when something comes out.

* `outcome`: what an action gives and the session behind it;
* `Yields`: an action gives a result and leaves a session;
* `yields_bind`, `yields_orFault` and others: when an action that is put together yields something;
* `trace`, `trace_induction`: what is recorded of many events, and what holds before each of them.
-/

variable {α β ε : Type}

/-! ### Outcomes -/

/-- What an action gives, and the session that it leaves. -/
def outcome (x : Action α) (s : Session) : Except Fault α × Session := x.run.run s

/-- An action gives `a` and leaves the session `s'`. -/
def Yields (x : Action α) (s : Session) (a : α) (s' : Session) : Prop := outcome x s = (.ok a, s')

@[simp] theorem outcome_pure (a : α) (s : Session) :
    outcome (pure a : Action α) s = (.ok a, s) := rfl

@[simp] theorem outcome_throw (e : Fault) (s : Session) :
    outcome (throw e : Action α) s = (.error e, s) := rfl

@[simp] theorem outcome_get (s : Session) : outcome (get : Action Session) s = (.ok s, s) := rfl

@[simp] theorem outcome_set (s s' : Session) :
    outcome (set s' : Action PUnit) s = (.ok ⟨⟩, s') := rfl

@[simp] theorem outcome_modify (f : Session → Session) (s : Session) :
    outcome (modify f : Action PUnit) s = (.ok ⟨⟩, f s) := rfl

theorem outcome_bind (x : Action α) (f : α → Action β) (s : Session) :
    outcome (x >>= f) s = match outcome x s with
      | (.ok a, s') => outcome (f a) s'
      | (.error e, s') => (.error e, s') := by
  show StateT.run (ExceptT.run (x >>= f)) s = _
  rw [ExceptT.run_bind, StateT.run_bind]
  unfold outcome
  rcases h : StateT.run (ExceptT.run x) s with ⟨_ | a, s'⟩ <;> rfl

@[simp] theorem mapError_ok (fault : ε → Fault) (a : α) :
    (Except.ok a : Except ε α).mapError fault = .ok a := rfl

@[simp] theorem mapError_error (fault : ε → Fault) (e : ε) :
    (Except.error e : Except ε α).mapError fault = .error (fault e) := rfl

@[simp] theorem outcome_orFault (fault : ε → Fault) (r : Except ε α) (s : Session) :
    outcome (orFault fault r) s = (r.mapError fault, s) := by
  cases r <;> rfl

/-! ### Results -/

variable {a b : α} {s s' s'' : Session}

theorem Yields.unique {x : Action α} (h : Yields x s a s') (h' : Yields x s b s'') : a = b := by
  unfold Yields at h h'
  rw [h] at h'
  exact Except.ok.inj (Prod.mk.inj h').1

/-- The session behind an action. -/
def Session.after (s : Session) (x : Action α) : Session := (outcome x s).2

theorem yields_after {x : Action α} (h : (outcome x s).1 = .ok a) : Yields x s a (s.after x) :=
  Prod.ext h rfl

/-- Actions that leave the same sessions leave the same behind another one. -/
theorem after_bind_congr {δ : Type} (x : Action α) {f : α → Action β} {g : α → Action δ}
    (h : ∀ a (t : Session), t.after (f a) = t.after (g a)) (s : Session) :
    s.after (x >>= f) = s.after (x >>= g) := by
  unfold Session.after
  rw [outcome_bind, outcome_bind]
  rcases outcome x s with ⟨e | a, t⟩
  · rfl
  · exact h a t

@[simp] theorem yields_pure : Yields (pure a) s b s' ↔ b = a ∧ s' = s := by
  simp [Yields, eq_comm]

@[simp] theorem yields_throw {e : Fault} : ¬ Yields (throw e) s a s' := by
  simp [Yields]

/-- One action after another yields what the second yields behind the first. -/
theorem yields_bind {x : Action α} {f : α → Action β} {b : β} :
    Yields (x >>= f) s b s'' ↔ ∃ a s', Yields x s a s' ∧ Yields (f a) s' b s'' := by
  unfold Yields
  rw [outcome_bind]
  rcases outcome x s with ⟨e | a, t⟩
  · simp
  · constructor
    · intro h
      exact ⟨a, t, rfl, h⟩
    · rintro ⟨a', t', heq, h⟩
      simp only [Prod.mk.injEq, Except.ok.injEq] at heq
      obtain ⟨rfl, rfl⟩ := heq
      exact h

@[simp] theorem yields_orFault {fault : ε → Fault} {r : Except ε α} :
    Yields (orFault fault r) s a s' ↔ r = .ok a ∧ s' = s := by
  cases r with
  | error e => simp [Yields]
  | ok b => simp [Yields, eq_comm]

/-! The first action often yields one thing at most, and then the second one is all that is left. -/

section Bind

variable {f : α → Action β} {b : β}

theorem yields_get_bind {f : Session → Action β} :
    Yields (get >>= f) s b s' ↔ Yields (f s) s b s' := by
  unfold Yields
  rw [outcome_bind, outcome_get]

theorem yields_set_bind {t : Session} {f : PUnit → Action β} :
    Yields (set t >>= f) s b s' ↔ Yields (f ⟨⟩) t b s' := by
  unfold Yields
  rw [outcome_bind, outcome_set]

theorem yields_modify_bind {g : Session → Session} {f : PUnit → Action β} :
    Yields (modify g >>= f) s b s' ↔ Yields (f ⟨⟩) (g s) b s' := by
  unfold Yields
  rw [outcome_bind, outcome_modify]

theorem yields_throw_bind {e : Fault} : ¬ Yields (throw e >>= f) s b s' := by
  unfold Yields
  rw [outcome_bind, outcome_throw]
  simp

theorem yields_orFault_bind {fault : ε → Fault} {r : Except ε α} :
    Yields (orFault fault r >>= f) s b s' ↔ ∃ a, r = .ok a ∧ Yields (f a) s b s' := by
  rw [yields_bind]
  constructor
  · rintro ⟨a, t, h, hf⟩
    obtain ⟨hr, rfl⟩ := yields_orFault.mp h
    exact ⟨a, hr, hf⟩
  · rintro ⟨a, hr, hf⟩
    exact ⟨a, s, yields_orFault.mpr ⟨hr, rfl⟩, hf⟩

end Bind

/-! ### What actions leave as it is -/

/-- An action leaves a view of the session as it is, whether it fails or not. -/
def Keeps {γ : Type} (view : Session → γ) (x : Action α) : Prop :=
  ∀ s : Session, view (outcome x s).2 = view s

section Keeps

variable {γ : Type} {view : Session → γ}

theorem Keeps.of_yields {x : Action α} (hx : Keeps view x) (h : Yields x s a s') :
    view s' = view s := by
  have hs := hx s
  rw [h] at hs
  exact hs

theorem keeps_pure (a : α) : Keeps view (pure a) := fun _ => rfl

/-- What both of two actions leave as it is, they leave as it is together. -/
theorem Keeps.bind {x : Action α} {f : α → Action β} (hx : Keeps view x)
    (hf : ∀ a, Keeps view (f a)) : Keeps view (x >>= f) := by
  intro s
  have hs := hx s
  rw [outcome_bind]
  rcases hr : outcome x s with ⟨e | a, t⟩
  · rw [hr] at hs
    exact hs
  · rw [hr] at hs
    exact (hf a t).trans hs

end Keeps

/-! ### Runs -/

section Trace

variable {δ ρ : Type} {next : Session → δ → Session} {record : Session → δ → ρ}

/-- What is recorded of some events, each in the session that those before it leave. -/
def trace (next : Session → δ → Session) (record : Session → δ → ρ) (s : Session) :
    List δ → List ρ
  | [] => []
  | e :: events => record s e :: trace next record (next s e) events

/-- **A run.** What one event hands on, of its session and of all that was recorded, holds before
    every event of a run whose records are all of some kind. -/
theorem trace_induction {J : Session → List ρ → Prop} {P : ρ → Prop}
    (hstep : ∀ s past e, J s past → P (record s e) → J (next s e) (past ++ [record s e]))
    {old past future : List ρ} {m : ρ} {events : List δ} (hstart : J s old)
    (hall : ∀ m ∈ trace next record s events, P m)
    (hsplit : trace next record s events = past ++ m :: future) :
    ∃ t e, J t (old ++ past) ∧ m = record t e := by
  -- The induction is on what comes before `m`; `old` is what came before the session `s`.
  induction past generalizing s old events with
  | nil =>
    cases events with
    | nil => simp [trace] at hsplit
    | cons e events =>
      rw [trace, List.nil_append, List.cons.injEq] at hsplit
      rw [List.append_nil]
      exact ⟨s, e, hstart, hsplit.1.symm⟩
  | cons n past ih =>
    cases events with
    | nil => simp [trace] at hsplit
    | cons e events =>
      rw [trace] at hall hsplit
      rw [List.cons_append, List.cons.injEq] at hsplit
      obtain ⟨rfl, hsplit⟩ := hsplit
      rw [List.append_cons]
      exact ih (hstep s old e hstart (hall _ List.mem_cons_self))
        (fun m hm => hall m (List.mem_cons_of_mem _ hm)) hsplit

end Trace

end PackageAtlas.Tool
