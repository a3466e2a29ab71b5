import GatewayAccess.Run

/-! # Outcome and trail of composed runs

The outcome of a composed run is that of its parts, composed as outcomes: `outcome_bind`. The
verifier is asked in the order of the parts, up to the one that fails: `consulted_bind_of_ok` and
`consulted_bind_of_error`. Events are logged in that order, too: `log_bind_of_ok` and
`log_bind_of_error`. Runs that differ only in what the verifier was asked for stay so when they go
on: `Run.Alike.bind`.
-/

namespace GatewayAccess

variable {ε α β : Type}

/-! ## Outcomes -/

/-- A composed outcome is a result just if both parts are. -/
theorem bind_eq_ok_iff {e : Except ε α} {next : α → Except ε β} {y : β} :
    e >>= next = .ok y ↔ ∃ x, e = .ok x ∧ next x = .ok y := by
  cases e with
  | error failure =>
      show Except.error failure = .ok y ↔ _
      simp only [reduceCtorEq, false_and, exists_false]
  | ok x =>
      show next x = .ok y ↔ _
      simp only [Except.ok.injEq, exists_eq_left']

/-- A composed outcome is a failure if the first part is, or else the second. -/
theorem bind_eq_error_iff {e : Except Failure α} {next : α → Except Failure β}
    {failure : Failure} :
    e >>= next = .error failure ↔
      e = .error failure ∨ ∃ x, e = .ok x ∧ next x = .error failure := by
  cases e with
  | error failure' =>
      show Except.error failure' = .error failure ↔ _
      simp only [reduceCtorEq, false_and, exists_false, or_false, Except.error.injEq]
  | ok x =>
      show next x = .error failure ↔ _
      simp only [reduceCtorEq, Except.ok.injEq, exists_eq_left', false_or]

/-! ## Runs -/

namespace Run

theorem outcome_bind (r : Run α) (next : α → Run β) :
    (r >>= next).outcome = r.outcome >>= fun x => (next x).outcome := by
  show (r.bind next).outcome = _
  rw [bind]
  cases r.outcome with
  | error failure => rfl
  | ok x => rfl

theorem consulted_bind_of_ok {r : Run α} {x : α} (h : r.outcome = .ok x) (next : α → Run β) :
    (r >>= next).consulted = r.consulted ++ (next x).consulted := by
  show (r.bind next).consulted = _
  rw [bind, h]

/-- Nothing is asked behind a failure. -/
theorem consulted_bind_of_error {r : Run α} {failure : Failure} (h : r.outcome = .error failure)
    (next : α → Run β) : (r >>= next).consulted = r.consulted := by
  show (r.bind next).consulted = _
  rw [bind, h]

/-- If nothing is asked in the second part, what is asked is what is asked in the first. -/
theorem consulted_bind_of_forall {next : α → Run β} (h : ∀ x, (next x).consulted = [])
    (r : Run α) : (r >>= next).consulted = r.consulted := by
  cases ho : r.outcome with
  | error failure => exact consulted_bind_of_error ho next
  | ok x => rw [consulted_bind_of_ok ho, h, List.append_nil]

theorem log_bind_of_ok {r : Run α} {x : α} (h : r.outcome = .ok x) (next : α → Run β) :
    (r >>= next).log = r.log ++ (next x).log := by
  show (r.bind next).log = _
  rw [bind, h]

/-- Nothing is logged behind a failure. -/
theorem log_bind_of_error {r : Run α} {failure : Failure} (h : r.outcome = .error failure)
    (next : α → Run β) : (r >>= next).log = r.log := by
  show (r.bind next).log = _
  rw [bind, h]

/-- If nothing is logged in the second part, what is logged is what is logged in the first. -/
theorem log_bind_of_forall {next : α → Run β} (h : ∀ x, (next x).log = []) (r : Run α) :
    (r >>= next).log = r.log := by
  cases ho : r.outcome with
  | error failure => exact log_bind_of_error ho next
  | ok x => rw [log_bind_of_ok ho, h, List.append_nil]

/-- A question leaves nothing in the log. -/
theorem log_consult_bind (verify : String → α) (token : String) (next : α → Run β) :
    (consult verify token >>= next).log = (next (verify token)).log :=
  log_bind_of_ok rfl next

/-- A result that is given goes on without a trail. -/
theorem lift_bind_of_ok {e : Except Failure α} {x : α} (h : e = .ok x) (next : α → Run β) :
    (liftM e : Run α) >>= next = next x := by
  rw [h]
  rfl

/-- A failure that is given ends the run without a trail. -/
theorem lift_bind_of_error {e : Except Failure α} {failure : Failure} (h : e = .error failure)
    (next : α → Run β) : (liftM e : Run α) >>= next = fail failure := by
  rw [h]
  rfl

/-! ## Runs that look the same -/

/-- Runs with the same outcome and the same log, whatever the verifier was asked for. -/
structure Alike (r s : Run α) : Prop where
  outcome : r.outcome = s.outcome
  log : r.log = s.log

/-- Runs that are alike go on alike. -/
theorem Alike.bind {r s : Run α} (h : r.Alike s) (next : α → Run β) :
    (r >>= next).Alike (s >>= next) where
  outcome := by rw [outcome_bind, outcome_bind, h.outcome]
  log := by
    cases hs : s.outcome with
    | error failure =>
        rw [log_bind_of_error (h.outcome.trans hs), log_bind_of_error hs, h.log]
    | ok x => rw [log_bind_of_ok (h.outcome.trans hs), log_bind_of_ok hs, h.log]

end Run

end GatewayAccess
