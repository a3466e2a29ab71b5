import GatewayAccess.Failure
import GatewayAccess.LogEvent

/-! # Runs and their trail

A run has an outcome and leaves a trail: the tokens that the verifier was asked for, and the events
that were logged, both in order. Runs are composed as a monad. A failure ends a run and keeps the
trail so far.
-/

namespace GatewayAccess

/-- An outcome and the trail that was left on the way to it. -/
structure Run (α : Type) where
  outcome : Except Failure α
  consulted : List String := []
  log : List LogEvent := []

namespace Run

variable {α β : Type}

/-- The run that ends at once with a result. -/
def pure (value : α) : Run α := { outcome := .ok value }

/-- The run that fails at once. -/
def fail (failure : Failure) : Run α := { outcome := .error failure }

/-- The run with a given outcome and no trail. -/
def ofExcept (outcome : Except Failure α) : Run α := { outcome }

/-- Goes on with the result of a run; the trails follow each other. -/
def bind (r : Run α) (next : α → Run β) : Run β :=
  match r.outcome with
  | .error failure => { outcome := .error failure, consulted := r.consulted, log := r.log }
  | .ok value =>
      let s := next value
      { outcome := s.outcome
        consulted := r.consulted ++ s.consulted
        log := r.log ++ s.log }

theorem bind_assoc (r : Run α) (f : α → Run β) (g : β → Run γ) :
    (r.bind f).bind g = r.bind fun x => (f x).bind g := by
  obtain ⟨outcome, consulted, log⟩ := r
  cases outcome with
  | error e => rfl
  | ok x =>
      simp only [bind]
      cases (f x).outcome <;> simp

theorem bind_pure (r : Run α) : r.bind pure = r := by
  obtain ⟨outcome, consulted, log⟩ := r
  cases outcome <;> simp [bind, pure]

theorem pure_bind (x : α) (f : α → Run β) : (pure x).bind f = f x := by
  simp [bind, pure]

instance : Monad Run where
  pure := pure
  bind := bind

instance : LawfulMonad Run := LawfulMonad.mk' Run bind_pure pure_bind bind_assoc

instance : MonadLift (Except Failure) Run := ⟨ofExcept⟩

/-- Logs an event. -/
def record (event : LogEvent) : Run Unit := { outcome := .ok (), log := [event] }

/-- Asks about a token. -/
def consult (verify : String → α) (token : String) : Run α :=
  { outcome := .ok (verify token), consulted := [token] }

end Run

end GatewayAccess
