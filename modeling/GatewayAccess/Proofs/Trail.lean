import GatewayAccess.Proofs.Independence
import GatewayAccess.Proofs.Ledger

/-! # The log of a request

A request that is answered logs three events. One that fails stops behind the first, with a warning
just if the credentials are rejected: `authorize_trail`. The counts that are logged are those of the
steps that succeeded (`GrantPolicy.length_grants_ofSteps`) and of the statements that the grants are
compiled to (`Policy.length_statements`).
-/

namespace GatewayAccess

/-! ## Numbers of grants -/

namespace Policy

/-- A grant counts among those of its effect. -/
theorem length_grants_record (p : Policy) (g : Grant) (effect : Effect) :
    ((p.record g).grants effect).length =
      (p.grants effect).length + if g.effect = effect then 1 else 0 := by
  have hrecord : (p.record g).grants effect =
      p.grants effect ++ [g].filter (·.effect = effect) := List.filter_append ..
  rw [hrecord, List.length_append, ← List.countP_eq_length_filter, List.countP_singleton]
  simp only [decide_eq_true_eq]

end Policy

/-- The grant of a step has the effect of the step. -/
theorem GrantStep.effect_of_grant? {s : GrantStep} {t : Target} {g : Grant}
    (h : s.grant? t = some g) : g.effect = s.effect := by
  obtain ⟨resource, -, rfl⟩ := Option.map_eq_some_iff.1 h
  rfl

/-- A step that succeeds adds one to the grants of its effect. -/
theorem GrantStep.length_grants_apply {s : GrantStep} {p q : Policy} (h : s.apply p = .ok q)
    (effect : Effect) :
    (q.grants effect).length =
      (p.grants effect).length + if s.effect = effect then 1 else 0 := by
  obtain ⟨g, hg, rfl⟩ := apply_eq_ok_iff.1 h
  rw [Policy.length_grants_record, effect_of_grant? hg]

namespace GrantPolicy

/-- The steps that succeed when steps are run one after another, up to the first that fails. Steps
that are passed over are not among them. -/
def succeeding : List (Guard × GrantStep) → Claims → Policy → List GrantStep
  | [], _, _ => []
  | (guard, step) :: rest, claims, p =>
      if guard.admits claims then
        match step.apply p with
        | .ok q => step :: succeeding rest claims q
        | .error _ => []
      else succeeding rest claims p

/-- After steps none of which fails, the grants of an effect are as many more as steps of that
effect have succeeded. -/
theorem length_grants_ofSteps {steps : List (Guard × GrantStep)} {claims : Claims} {p q : Policy}
    (h : ofSteps steps claims p = .ok q) (effect : Effect) :
    (q.grants effect).length =
      (p.grants effect).length + (succeeding steps claims p).countP (·.effect = effect) := by
  induction steps generalizing p with
  | nil =>
      cases h
      rfl
  | cons s rest ih =>
      obtain ⟨guard, step⟩ := s
      rw [ofSteps, List.map_cons, sequence_cons, bind_eq_ok_iff] at h
      obtain ⟨p', hp', hq⟩ := h
      rw [ih hq, succeeding]
      rw [guarded] at hp'
      split at hp'
      · rename_i hadmits
        rw [if_pos hadmits, hp', GrantStep.length_grants_apply hp', List.countP_cons]
        simp only [decide_eq_true_eq]
        omega
      · rename_i hadmits
        cases hp'
        rw [if_neg hadmits]

end GrantPolicy

/-! ## Numbers of statements -/

namespace Grant

variable {effect : Effect} {grants : List Grant}

theorem length_conditional :
    (conditional effect grants).length =
      (grants.filter (·.effect = effect)).countP (!·.conditions.isEmpty) := by
  rw [conditional, List.length_map, List.countP_filter, List.countP_eq_length_filter]
  congr 2
  funext g
  exact Bool.and_comm ..

theorem unconditional_eq_nil_iff :
    unconditional effect grants = [] ↔
      (grants.filter (·.effect = effect)).any (·.conditions.isEmpty) = false := by
  rw [unconditional, List.map_eq_nil_iff, List.any_filter, List.any_eq_false,
    List.filter_eq_nil_iff]

end Grant

/-- Each conditional grant of an effect has a statement of its own; the others share one. -/
theorem Policy.length_compile_granted (p : Policy) (effect : Effect) :
    (Statement.compile effect p.granted).length =
      (p.grants effect).countP (!·.conditions.isEmpty) +
        if (p.grants effect).any (·.conditions.isEmpty) then 1 else 0 := by
  have hmerged : (Statement.merged effect (Grant.unconditional effect p.granted)).length =
      if (p.grants effect).any (·.conditions.isEmpty) then 1 else 0 := by
    have hnil : Grant.unconditional effect p.granted = [] ↔
        (p.grants effect).any (·.conditions.isEmpty) = false := Grant.unconditional_eq_nil_iff
    rw [Statement.merged]
    split
    · rename_i h
      rw [hnil.1 h]
      rfl
    · rename_i h
      rw [eq_true_of_ne_false (mt hnil.2 h)]
      rfl
  rw [Statement.compile_eq, List.length_append, List.length_map, hmerged, Grant.length_conditional]
  rfl

/-- A document has a statement for each conditional grant, and one more for each effect with a grant
that is not. -/
theorem Policy.length_statements (p : Policy) :
    p.statements.length =
      p.granted.countP (!·.conditions.isEmpty) +
        Effect.variants.countP fun effect => (p.grants effect).any (·.conditions.isEmpty) := by
  have hdeny : p.granted.filter (fun g => !decide (g.effect = .allow)) = p.grants .deny := by
    rw [grants]
    congr 1
    funext g
    cases g.effect <;> rfl
  have hconditional : p.granted.countP (!·.conditions.isEmpty) =
      (p.grants .allow).countP (!·.conditions.isEmpty) +
        (p.grants .deny).countP (!·.conditions.isEmpty) := by
    rw [List.countP_eq_countP_filter_add p.granted _ fun g => decide (g.effect = .allow), hdeny]
    rfl
  rw [statements_eq, List.length_append, length_compile_granted, length_compile_granted,
    hconditional, Effect.variants, List.countP_cons, List.countP_cons, List.countP_nil]
  omega

/-! ## What is logged -/

variable {verifier : Verifier} {authorization : String} {claims : Claims}

/-- Accepted credentials leave nothing in the log. -/
theorem log_extractClaims_of_accepts (h : verifier.Accepts authorization claims) :
    (extractClaims authorization verifier).log = [] := by
  obtain ⟨token, raw, rfl, hraw, hclaims⟩ := h
  rw [extractClaims_append, Run.log_consult_bind, hraw, identify, hclaims]
  rfl

/-- Rejected credentials leave one warning. -/
theorem log_extractClaims_of_not_accepts
    (h : ¬ ∃ claims, verifier.Accepts authorization claims) :
    ∃ warning : LogEvent, warning.level = .warn ∧
      (extractClaims authorization verifier).log = [warning] := by
  cases htoken : bearerToken? authorization with
  | none =>
      rw [extractClaims, htoken]
      exact ⟨.notBearer, rfl, rfl⟩
  | some token =>
      obtain rfl := bearerToken?_eq_some_iff.1 htoken
      rw [extractClaims_append, Run.log_consult_bind]
      cases hanswer : verifier token with
      | error reason => exact ⟨.notVerified reason, rfl, rfl⟩
      | ok raw =>
          rw [identify]
          cases hclaims : Claims.ofRaw raw with
          | error fault => exact ⟨.noIdentity fault.message, rfl, rfl⟩
          | ok claims => exact absurd ⟨claims, token, raw, rfl, hanswer, hclaims⟩ h

/-- A policy that is compiled leaves its numbers. -/
theorem Policy.log_compile {p : Policy} {response : Response} (h : p.build = .ok response) :
    p.compile.log = [.compiled p.principal (p.grants .allow).length (p.grants .deny).length
      response.document.statements.length] := by
  rw [compile, Run.lift_bind_of_ok h]
  rfl

/-- A policy without grants leaves nothing. -/
theorem Policy.log_compile_of_error {p : Policy} {failure : Failure}
    (h : p.build = .error failure) : p.compile.log = [] := by
  rw [compile, Run.lift_bind_of_error h]
  rfl

namespace Authorizer

variable {a : Authorizer} {event : Event} {invoked : MethodArn} {t : Target} {p : Policy}
  {built response : Response} {failure : Failure}

/-- A policy that fails leaves nothing. -/
theorem log_answer_of_failure
    (h : a.policy claims (Policy.new claims.principal t) = .error failure) :
    (a.answer claims t).log = [] := by
  rw [answer, Run.lift_bind_of_error h]
  rfl

/-- A policy that grants nothing leaves nothing. -/
theorem log_answer_of_error (h : a.policy claims (Policy.new claims.principal t) = .ok p)
    (hbuild : p.build = .error failure) : (a.answer claims t).log = [] := by
  rw [answer, Run.lift_bind_of_ok h,
    Run.log_bind_of_error (p.outcome_compile.trans hbuild), Policy.log_compile_of_error hbuild]

/-- A policy with grants leaves its numbers, and the answer is logged. -/
theorem log_answer_of_ok (h : a.policy claims (Policy.new claims.principal t) = .ok p)
    (hbuild : p.build = .ok built) :
    (a.answer claims t).log =
      [.compiled built.principal (p.grants .allow).length (p.grants .deny).length
          built.document.statements.length,
        .authorized built.principal] := by
  have hprincipal : built.principal = p.principal := (Policy.build_eq_ok_iff.1 hbuild).2.1
  rw [answer, Run.lift_bind_of_ok h,
    Run.log_bind_of_ok (p.outcome_compile.trans hbuild), Policy.log_compile hbuild, ← hprincipal]
  rfl

/-- Rejected credentials leave a warning behind the entry for the request. -/
theorem log_of_not_accepts
    (h : ¬ ∃ claims, a.verifier.Accepts event.authorization claims) :
    ∃ warning : LogEvent, warning.level = .warn ∧
      (a.authorize event).log = [.authorizing event.methodArn, warning] := by
  obtain ⟨warning, hlevel, hlog⟩ := log_extractClaims_of_not_accepts h
  have hextract := outcome_extractClaims_eq_error_iff.2 ⟨rfl, h⟩
  refine ⟨warning, hlevel, ?_⟩
  rw [authorize_eq, Run.log_bind_of_ok rfl, Run.log_bind_of_error hextract, hlog]
  rfl

/-- Accepted credentials leave what comes behind them. -/
theorem log_of_accepts (h : a.verifier.Accepts event.authorization claims) :
    (a.authorize event).log =
      .authorizing event.methodArn ::
        (liftM (MethodArn.ofText event.methodArn) >>= fun invoked =>
          a.answer claims invoked.target).log := by
  have hextract := outcome_extractClaims_eq_ok_iff.2 h
  rw [authorize_eq, Run.log_bind_of_ok rfl, Run.log_bind_of_ok hextract,
    log_extractClaims_of_accepts h]
  rfl

/-- Whatever fails behind accepted credentials leaves nothing. -/
theorem log_of_error (h : a.verifier.Accepts event.authorization claims)
    (herror : (a.authorize event).outcome = .error failure) :
    (a.authorize event).log = [.authorizing event.methodArn] := by
  rw [log_of_accepts h]
  cases hinvoked : MethodArn.ofText event.methodArn with
  | error _ =>
      rw [Run.lift_bind_of_error rfl]
      rfl
  | ok invoked =>
      rw [Run.lift_bind_of_ok rfl]
      cases hp : a.policy claims (Policy.new claims.principal invoked.target) with
      | error _ => rw [log_answer_of_failure hp]
      | ok p =>
          cases hbuild : p.build with
          | error _ => rw [log_answer_of_error hp hbuild]
          | ok built =>
              rw [outcome_authorize_eq_ok_iff.2 ⟨claims, invoked, p, built, h,
                MethodArn.ofText_eq_ok_iff.1 hinvoked, hp, hbuild, rfl⟩] at herror
              cases herror

/-- A response leaves three entries, with the numbers of grants and of statements. -/
theorem log_of_ok (h : (a.authorize event).outcome = .ok response) :
    ∃ claims invoked p, a.verifier.Accepts event.authorization claims ∧
      MethodArn.ofText? event.methodArn = some invoked ∧
      a.policy claims (Policy.new claims.principal invoked.target) = .ok p ∧
      response.document.statements = p.statements ∧
      (a.authorize event).log =
        [.authorizing event.methodArn,
          .compiled response.principal (p.grants .allow).length (p.grants .deny).length
            response.document.statements.length,
          .authorized response.principal] := by
  obtain ⟨claims, invoked, p, built, hclaims, hinvoked, hp, hbuild, rfl⟩ :=
    outcome_authorize_eq_ok_iff.1 h
  refine ⟨claims, invoked, p, hclaims, hinvoked, hp, (Policy.build_eq_ok_iff.1 hbuild).2.2.1, ?_⟩
  rw [log_of_accepts hclaims, Run.lift_bind_of_ok (MethodArn.ofText_eq_ok_iff.2 hinvoked),
    log_answer_of_ok hp hbuild]
  rfl

/-- Behind accepted credentials a request fails by its method ARN, by the policy, or because nothing
is granted. -/
theorem exists_error_iff_of_accepts (h : a.verifier.Accepts event.authorization claims) :
    (∃ failure, (a.authorize event).outcome = .error failure) ↔
      MethodArn.ofText? event.methodArn = none ∨
        ∃ invoked, MethodArn.ofText? event.methodArn = some invoked ∧
          ((∃ failure,
              a.policy claims (Policy.new claims.principal invoked.target) = .error failure) ∨
            ∃ p, a.policy claims (Policy.new claims.principal invoked.target) = .ok p ∧
              p.granted = []) := by
  cases hinvoked : MethodArn.ofText? event.methodArn with
  | none => simp only [outcome_of_malformed h hinvoked, Except.error.injEq, exists_eq', true_or]
  | some invoked =>
      simp only [outcome_eq_error_iff_of_invoked h hinvoked, reduceCtorEq, false_or,
        Option.some.injEq, exists_eq_left', exists_or]
      refine or_congr_right ⟨?_, ?_⟩
      · rintro ⟨-, p, hp, hnil, -⟩
        exact ⟨p, hp, hnil⟩
      · rintro ⟨p, hp, hnil⟩
        exact ⟨.noStatements, p, hp, hnil, rfl⟩

/-- The number of events tells how a request has ended. -/
theorem length_log (a : Authorizer) (event : Event) :
    (¬ ∃ claims, a.verifier.Accepts event.authorization claims) ∧
        (a.authorize event).log.length = 2 ∨
      (∃ claims failure, a.verifier.Accepts event.authorization claims ∧
        (a.authorize event).outcome = .error failure) ∧ (a.authorize event).log.length = 1 ∨
      (∃ response, (a.authorize event).outcome = .ok response) ∧
        (a.authorize event).log.length = 3 := by
  by_cases haccepts : ∃ claims, a.verifier.Accepts event.authorization claims
  · obtain ⟨claims, hclaims⟩ := haccepts
    cases houtcome : (a.authorize event).outcome with
    | error failure =>
        have hlog := log_of_error hclaims houtcome
        exact .inr (.inl ⟨⟨claims, failure, hclaims, rfl⟩, congrArg List.length hlog⟩)
    | ok response =>
        obtain ⟨_, _, _, _, _, _, _, hlog⟩ := log_of_ok houtcome
        exact .inr (.inr ⟨⟨response, rfl⟩, congrArg List.length hlog⟩)
  · obtain ⟨warning, -, hlog⟩ := log_of_not_accepts haccepts
    exact .inl ⟨haccepts, congrArg List.length hlog⟩

end Authorizer

/-! ## What stands in the log -/

/-- An event as it stands in the log: its level, its message and its fields. -/
def LogEvent.line (e : LogEvent) : LogLevel × String × List (String × (String ⊕ Nat)) :=
  (e.level, e.message, e.fields)

namespace Authorizer

/-- The log of a request as it stands. -/
def lines (a : Authorizer) (event : Event) :
    List (LogLevel × String × List (String × (String ⊕ Nat))) :=
  (a.authorize event).log.map LogEvent.line

variable {a : Authorizer} {event : Event} {response : Response}

/-- A warning is all that follows the entry for a request, just if the credentials are rejected. -/
theorem lines_eq_warning_iff :
    (∃ message fields, a.lines event =
      [(.info, "authorizing request", [("method_arn", .inl event.methodArn)]),
        (.warn, message, fields)]) ↔
      ¬ ∃ claims, a.verifier.Accepts event.authorization claims := by
  constructor
  · rintro ⟨message, fields, hlines⟩
    have htwo : (a.authorize event).log.length = 2 := by
      rw [← List.length_map LogEvent.line]
      exact congrArg List.length hlines
    rcases a.length_log event with ⟨hnot, -⟩ | ⟨-, hone⟩ | ⟨-, hthree⟩
    · exact hnot
    · omega
    · omega
  · intro hnot
    obtain ⟨warning, hlevel, hlog⟩ := log_of_not_accepts hnot
    refine ⟨warning.message, warning.fields, ?_⟩
    rw [lines, hlog, ← hlevel]
    rfl

/-- Nothing follows it just if a request fails with accepted credentials. -/
theorem lines_eq_entry_iff :
    a.lines event = [(.info, "authorizing request", [("method_arn", .inl event.methodArn)])] ↔
      ∃ claims failure, a.verifier.Accepts event.authorization claims ∧
        (a.authorize event).outcome = .error failure := by
  constructor
  · intro hlines
    have hone : (a.authorize event).log.length = 1 := by
      rw [← List.length_map LogEvent.line]
      exact congrArg List.length hlines
    rcases a.length_log event with ⟨-, htwo⟩ | ⟨herror, -⟩ | ⟨-, hthree⟩
    · omega
    · exact herror
    · omega
  · rintro ⟨claims, failure, hclaims, herror⟩
    rw [lines, log_of_error hclaims herror]
    rfl

/-- The numbers and the answer follow it just if there is a response. -/
theorem lines_eq_answer_iff :
    (∃ fields fields', a.lines event =
      [(.info, "authorizing request", [("method_arn", .inl event.methodArn)]),
        (.debug, "compiled policy statements", fields),
        (.info, "request authorized", fields')]) ↔
      ∃ response, (a.authorize event).outcome = .ok response := by
  constructor
  · rintro ⟨fields, fields', hlines⟩
    have hthree : (a.authorize event).log.length = 3 := by
      rw [← List.length_map LogEvent.line]
      exact congrArg List.length hlines
    rcases a.length_log event with ⟨-, htwo⟩ | ⟨-, hone⟩ | ⟨hok, -⟩
    · omega
    · omega
    · exact hok
  · rintro ⟨response, hok⟩
    obtain ⟨_, _, _, _, _, _, _, hlog⟩ := log_of_ok hok
    rw [lines, hlog]
    exact ⟨_, _, rfl⟩

/-- A text that is no event leaves one warning. -/
theorem log_authorizeText_of_none {diagnose : String → String} {text : String}
    (h : Event.read? text = none) :
    (a.authorizeText diagnose text).log = [.malformedEvent (diagnose text)] := by
  rw [authorizeText, h]
  rfl

/-- A text that is an event leaves what the event does. -/
theorem log_authorizeText_of_some {diagnose : String → String} {text : String}
    (h : Event.read? text = some event) :
    (a.authorizeText diagnose text).log = (a.authorize event).log := by
  rw [authorizeText, h]
  exact Run.log_bind_of_forall (fun _ => rfl) _

end Authorizer

/-! ## The trail of a request -/

/-- What a request leaves in the log when the policy consists of grant steps. -/
structure Trail (verifier : Verifier) (steps : List (Guard × GrantStep)) (event : Event) :
    Prop where
  /-- A warning is all that follows the entry for the request, just if the credentials are
  rejected. -/
  rejected :
    (∃ message fields, Authorizer.lines ⟨verifier, .ofSteps steps⟩ event =
      [(.info, "authorizing request", [("method_arn", .inl event.methodArn)]),
        (.warn, message, fields)]) ↔
      ¬ ∃ claims, verifier.Accepts event.authorization claims
  /-- Nothing follows it just if the method ARN is none, or a step fails that is run, or nothing is
  granted. -/
  stopped :
    Authorizer.lines ⟨verifier, .ofSteps steps⟩ event =
      [(.info, "authorizing request", [("method_arn", .inl event.methodArn)])] ↔
      ∃ claims, verifier.Accepts event.authorization claims ∧
        (MethodArn.ofText? event.methodArn = none ∨
          ∃ invoked, MethodArn.ofText? event.methodArn = some invoked ∧
            ((∃ failure before guard step after q, steps = before ++ (guard, step) :: after ∧
                GrantPolicy.ofSteps before claims (Policy.new claims.principal invoked.target) =
                  .ok q ∧
                guard.admits claims = true ∧ step.apply q = .error failure) ∨
              ∃ p, GrantPolicy.ofSteps steps claims (Policy.new claims.principal invoked.target) =
                  .ok p ∧
                p.grants .allow = [] ∧ p.grants .deny = []))
  /-- The numbers and the answer follow it just if there is a response. -/
  answered :
    (∃ fields fields', Authorizer.lines ⟨verifier, .ofSteps steps⟩ event =
      [(.info, "authorizing request", [("method_arn", .inl event.methodArn)]),
        (.debug, "compiled policy statements", fields),
        (.info, "request authorized", fields')]) ↔
      ∃ response, (Authorizer.authorize ⟨verifier, .ofSteps steps⟩ event).outcome = .ok response
  /-- The numbers are those of the steps of each effect that have succeeded, and of the statements
  of the response: one for each conditional grant, and one for each effect with a grant that is
  not. -/
  numbers : ∀ response,
    (Authorizer.authorize ⟨verifier, .ofSteps steps⟩ event).outcome = .ok response →
      ∃ claims invoked p, verifier.Accepts event.authorization claims ∧
        MethodArn.ofText? event.methodArn = some invoked ∧
        GrantPolicy.ofSteps steps claims (Policy.new claims.principal invoked.target) = .ok p ∧
        Authorizer.lines ⟨verifier, .ofSteps steps⟩ event =
          [(.info, "authorizing request", [("method_arn", .inl event.methodArn)]),
            (.debug, "compiled policy statements",
              [("principal_id", .inl response.principal),
                ("allow", .inr ((GrantPolicy.succeeding steps claims
                  (Policy.new claims.principal invoked.target)).countP (·.effect = .allow))),
                ("deny", .inr ((GrantPolicy.succeeding steps claims
                  (Policy.new claims.principal invoked.target)).countP (·.effect = .deny))),
                ("statements", .inr response.document.statements.length)]),
            (.info, "request authorized", [("principal_id", .inl response.principal)])] ∧
        response.document.statements.length =
          p.granted.countP (!·.conditions.isEmpty) +
            Effect.variants.countP fun effect => (p.grants effect).any (·.conditions.isEmpty)

/-- Every request leaves its trail. A text that is no event leaves one warning, in the words of the
reader of JSON, and any other leaves what the event does. -/
theorem authorize_trail (verifier : Verifier) (steps : List (Guard × GrantStep)) :
    (∀ event, Trail verifier steps event) ∧
      ∀ diagnose text,
        (Event.read? text = none → ∃ warning : LogEvent,
          warning.line =
            (.warn, "malformed authorizer event", [("error", .inl (diagnose text))]) ∧
          (Authorizer.authorizeText ⟨verifier, .ofSteps steps⟩ diagnose text).log = [warning]) ∧
        ∀ event, Event.read? text = some event →
          (Authorizer.authorizeText ⟨verifier, .ofSteps steps⟩ diagnose text).log =
            (Authorizer.authorize ⟨verifier, .ofSteps steps⟩ event).log := by
  refine ⟨fun event => ?_, fun diagnose text => ⟨fun hnone => ?_, fun event hevent => ?_⟩⟩
  · exact
      { rejected := Authorizer.lines_eq_warning_iff
        stopped := by
          rw [Authorizer.lines_eq_entry_iff]
          refine exists_congr fun claims => ?_
          rw [exists_and_left]
          refine and_congr_right fun hclaims => ?_
          rw [Authorizer.exists_error_iff_of_accepts hclaims]
          simp only [GrantPolicy.ofSteps_eq_error_iff, Policy.granted_eq_nil_iff]
        answered := Authorizer.lines_eq_answer_iff
        numbers := by
          intro response hresponse
          obtain ⟨claims, invoked, p, hclaims, hinvoked, hp, hstatements, hlog⟩ :=
            Authorizer.log_of_ok hresponse
          have hcount (effect : Effect) : (p.grants effect).length =
              (GrantPolicy.succeeding steps claims
                (Policy.new claims.principal invoked.target)).countP (·.effect = effect) :=
            (GrantPolicy.length_grants_ofSteps hp effect).trans (Nat.zero_add _)
          refine ⟨claims, invoked, p, hclaims, hinvoked, hp, ?_, ?_⟩
          · rw [Authorizer.lines, hlog, hcount, hcount]
            rfl
          · rw [hstatements, p.length_statements] }
  · exact ⟨.malformedEvent (diagnose text), rfl, Authorizer.log_authorizeText_of_none hnone⟩
  · exact Authorizer.log_authorizeText_of_some hevent

/-- Of four steps one is passed over; of the three grants one has conditions, and the others differ
in effect. -/
theorem authorize_trail_staff :
    ∃ response,
      (Authorizer.authorize
          ⟨fun _ => .ok (Claims.raw ⟨"user@example.com", .text "staff", .bool true⟩),
            .ofSteps
              [({ onlyFor := some "staff" }, { effect := .allow, verb := .get, path := "/a" }),
                ({ exceptFor := some "staff" }, .everything .allow),
                ({}, ⟨.allow, .put, "/b", SortedMap.ofList [("IpAddress", ∅)]⟩),
                ({}, { effect := .deny, verb := .delete, path := "/c" })]⟩
          ⟨none, "Bearer t", "arn:aws:execute-api:eu-west-1:1:api/prod"⟩).outcome = .ok response ∧
      Authorizer.lines
          ⟨fun _ => .ok (Claims.raw ⟨"user@example.com", .text "staff", .bool true⟩),
            .ofSteps
              [({ onlyFor := some "staff" }, { effect := .allow, verb := .get, path := "/a" }),
                ({ exceptFor := some "staff" }, .everything .allow),
                ({}, ⟨.allow, .put, "/b", SortedMap.ofList [("IpAddress", ∅)]⟩),
                ({}, { effect := .deny, verb := .delete, path := "/c" })]⟩
          ⟨none, "Bearer t", "arn:aws:execute-api:eu-west-1:1:api/prod"⟩ =
        [(.info, "authorizing request",
            [("method_arn", .inl "arn:aws:execute-api:eu-west-1:1:api/prod")]),
          (.debug, "compiled policy statements",
            [("principal_id", .inl "user@example.com"), ("allow", .inr 2), ("deny", .inr 1),
              ("statements", .inr 3)]),
          (.info, "request authorized", [("principal_id", .inl "user@example.com")])] := by
  obtain ⟨claims, invoked, p, ⟨token, raw, -, hraw, hclaims⟩, hinvoked, hp, hlines, -⟩ :=
    ((authorize_trail (fun _ => .ok (Claims.raw ⟨"user@example.com", .text "staff", .bool true⟩))
      [({ onlyFor := some "staff" }, { effect := .allow, verb := .get, path := "/a" }),
        ({ exceptFor := some "staff" }, .everything .allow),
        ({}, ⟨.allow, .put, "/b", SortedMap.ofList [("IpAddress", ∅)]⟩),
        ({}, { effect := .deny, verb := .delete, path := "/c" })]).1
      ⟨none, "Bearer t", "arn:aws:execute-api:eu-west-1:1:api/prod"⟩).numbers _ rfl
  cases hraw
  cases hclaims
  exact ⟨_, rfl, hlines⟩

end GatewayAccess
