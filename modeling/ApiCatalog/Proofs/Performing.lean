import ApiCatalog.Session

/-!
# Performing the steps of a load

What a step does to a session, read off its parts. `bind_ok` takes a step that succeeded apart, `bind_error` one
that failed; with them the proofs about loads never open the monad. Steps without a session are taken apart in the
same way (`except_bind_ok`), and so are those whose state is lost when they fail (`run_bind_ok`).

`Takes J K E step` is the contract of a step that may fail: from a session in which `J` holds it ends in one in
which `K` holds, and when it fails, `E` holds of the error and of the session that it leaves behind.
-/

namespace ApiCatalog

/-! ## Sequences -/

theorem except_bind_ok {ε α β : Type} {step : Except ε α} {next : α → Except ε β} {b : β} :
    step >>= next = .ok b ↔ ∃ a, step = .ok a ∧ next a = .ok b := by
  cases step with
  | error e =>
    constructor
    · rintro ⟨⟩
    · rintro ⟨_, ⟨⟩, _⟩
  | ok a =>
    constructor
    · intro h
      exact ⟨a, rfl, h⟩
    · rintro ⟨_, ⟨⟩, h⟩
      exact h

theorem except_bind_error {ε α β : Type} {step : Except ε α} {next : α → Except ε β} {e : ε} :
    step >>= next = .error e ↔ step = .error e ∨ ∃ a, step = .ok a ∧ next a = .error e := by
  cases step with
  | error e' =>
    constructor
    · rintro ⟨⟩
      exact .inl rfl
    · rintro (⟨⟨⟩⟩ | ⟨_, ⟨⟩, _⟩)
      rfl
  | ok a =>
    constructor
    · intro h
      exact .inr ⟨a, rfl, h⟩
    · rintro (⟨⟨⟩⟩ | ⟨_, ⟨⟩, h⟩)
      exact h

theorem run_bind_ok {ε σ α β : Type} {step : StateT σ (Except ε) α} {next : α → StateT σ (Except ε) β} {s t : σ}
    {b : β} : (step >>= next).run s = .ok (b, t) ↔ ∃ a u, step.run s = .ok (a, u) ∧ (next a).run u = .ok (b, t) := by
  rw [StateT.run_bind, except_bind_ok, Prod.exists]

theorem run_bind_error {ε σ α β : Type} {step : StateT σ (Except ε) α} {next : α → StateT σ (Except ε) β} {s : σ}
    {e : ε} : (step >>= next).run s = .error e ↔
      step.run s = .error e ∨ ∃ a u, step.run s = .ok (a, u) ∧ (next a).run u = .error e := by
  rw [StateT.run_bind, except_bind_error, Prod.exists]

/-- The result of a step with a state, and the state after it. -/
def performed {ε σ α : Type} (step : ExceptT ε (StateM σ) α) (s : σ) : Except ε α × σ := step.run.run s

theorem performed_bind {ε σ α β : Type} (step : ExceptT ε (StateM σ) α) (next : α → ExceptT ε (StateM σ) β) (s : σ) :
    performed (step >>= next) s =
      match performed step s with
      | (.ok a, t) => performed (next a) t
      | (.error e, t) => (.error e, t) := by
  show (step >>= next) s = _
  simp only [bind, ExceptT.bind, ExceptT.mk, StateT.bind, ExceptT.bindCont]
  show (match step s with | (r, t) => _) = match step s with | (.ok a, t) => _ | (.error e, t) => _
  rcases step s with ⟨_ | a, t⟩ <;> rfl

/-! ## Steps of a load -/

namespace Load
variable {α β : Type}

@[simp] theorem perform_pure (a : α) (s : Session) : perform (pure a) s = (.ok a, s) := rfl

@[simp] theorem perform_throw (e : LoadError) (s : Session) :
    perform (throw e : Load α) s = (.error e, s) := rfl

@[simp] theorem perform_lift (result : Except LoadError α) (s : Session) :
    perform (liftM result : Load α) s = (result, s) := rfl

@[simp] theorem perform_mk (f : Session → Except LoadError α × Session) (s : Session) :
    perform (ExceptT.mk f) s = f s := rfl

@[simp] theorem perform_get (s : Session) : perform (get : Load Session) s = (.ok s, s) := rfl

theorem perform_bind (step : Load α) (next : α → Load β) (s : Session) :
    perform (step >>= next) s =
      match perform step s with
      | (.ok a, t) => perform (next a) t
      | (.error e, t) => (.error e, t) := by
  refine (performed_bind step next s).trans ?_
  rw [show performed step s = perform step s from rfl]
  rcases perform step s with ⟨_ | a, t⟩ <;> rfl

theorem bind_ok {step : Load α} {next : α → Load β} {s t : Session} {b : β} :
    perform (step >>= next) s = (.ok b, t) ↔
      ∃ a u, perform step s = (.ok a, u) ∧ perform (next a) u = (.ok b, t) := by
  rw [perform_bind]
  rcases perform step s with ⟨_ | a, u⟩
  · simp
  · constructor
    · intro h
      exact ⟨a, u, rfl, h⟩
    · rintro ⟨a', u', hstep, hnext⟩
      cases hstep
      exact hnext

theorem bind_error {step : Load α} {next : α → Load β} {s t : Session} {e : LoadError} :
    perform (step >>= next) s = (.error e, t) ↔
      perform step s = (.error e, t) ∨
        ∃ a u, perform step s = (.ok a, u) ∧ perform (next a) u = (.error e, t) := by
  rw [perform_bind]
  rcases perform step s with ⟨_ | a, u⟩
  · simp
  · constructor
    · intro h
      exact .inr ⟨a, u, rfl, h⟩
    · rintro (hstep | ⟨a', u', hstep, hnext⟩)
      · cases hstep
      · cases hstep
        exact hnext

theorem lift_ok {result : Except LoadError α} {s t : Session} {a : α} :
    perform (liftM result : Load α) s = (.ok a, t) ↔ result = .ok a ∧ s = t := by
  rw [perform_lift, Prod.mk.injEq]

theorem perform_fetch (library : Library) (purpose : Purpose) (location : String) (s : Session) :
    perform (fetch library purpose location) s = (library.answer location, s.request purpose location) := rfl

theorem perform_modifyCache (f : SchemaCache → SchemaCache) (s : Session) :
    perform (modifyCache f) s = (.ok (), { s with cache := f s.cache }) := rfl

/-! ## Contracts -/

/-- From a session in which `J` holds, `step` ends in one in which `K` holds, or fails as `E` says. -/
structure Takes (J K : Session → Prop) (E : LoadError → Session → Prop) (step : Load α) : Prop where
  ok {s t : Session} {a : α} : J s → perform step s = (.ok a, t) → K t
  error {s t : Session} {e : LoadError} : J s → perform step s = (.error e, t) → E e t

section Contracts
variable {J K L : Session → Prop} {E : LoadError → Session → Prop}

theorem takes_pure (a : α) : Takes J J E (pure a : Load α) where
  ok := by
    intro s t b hJ hperform
    cases hperform
    exact hJ
  error := by
    intro s t e _ hperform
    cases hperform

theorem takes_bind {step : Load α} {next : α → Load β} (hstep : Takes J K E step)
    (hnext : ∀ a, Takes K L E (next a)) : Takes J L E (step >>= next) where
  ok := by
    intro s t b hJ hperform
    obtain ⟨a, u, hfirst, hsecond⟩ := bind_ok.1 hperform
    exact (hnext a).ok (hstep.ok hJ hfirst) hsecond
  error := by
    intro s t e hJ hperform
    rcases bind_error.1 hperform with hfirst | ⟨a, u, hfirst, hsecond⟩
    · exact hstep.error hJ hfirst
    · exact (hnext a).error (hstep.ok hJ hfirst) hsecond

theorem takes_lift {result : Except LoadError α} (hfails : ∀ s e, J s → result = .error e → E e s) :
    Takes J J E (liftM result : Load α) where
  ok := by
    intro s t a hJ hperform
    obtain ⟨_, rfl⟩ := lift_ok.1 hperform
    exact hJ
  error := by
    intro s t e hJ hperform
    rw [perform_lift, Prod.mk.injEq] at hperform
    obtain ⟨hresult, rfl⟩ := hperform
    exact hfails s e hJ hresult

end Contracts

end Load

end ApiCatalog
