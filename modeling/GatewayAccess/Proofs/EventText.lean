import GatewayAccess.Authorizer
import GatewayAccess.Proofs.Credentials
import GatewayAccess.Proofs.Json.Record
import GatewayAccess.Proofs.Json.Text
import GatewayAccess.Proofs.Run
import Mathlib.Data.List.Basic

/-! # Events as JSON texts

`Event.Form` says which trees stand for an event and `Event.Malformed` which stand for none; every
tree is of one of the two kinds, and only those of the first are read (`Event.ofTree?_eq_some_iff`,
`Event.ofTree?_eq_none_iff`).

An authorizer answers a text of an event as it answers the event, whatever the type says and however
the text is written, and rejects every other text without asking the verifier
(`authorizeText_agrees`).
-/

namespace GatewayAccess

open Json (Tree)
open Json.Tree (IsText valuesAt)

namespace Event

variable {t : Tree} {event : Event}

/-! ## Trees of an event -/

/-- What may be given as a type, and the type that it is: nothing, null, or a text. -/
inductive KindForm : Option Tree → Option String → Prop
  | missing : KindForm none none
  | null : KindForm (some .null) none
  | text (s : String) : KindForm (some (.string (some s))) (some s)

/-- The trees of an event: an array of its three fields, or an object with these fields and perhaps
other members, in any order. -/
inductive Form : Tree → Event → Prop
  | array {kind : Tree} {event : Event} (hkind : KindForm (some kind) event.kind) :
      Form (.array [kind, .string (some event.authorization), .string (some event.methodArn)]) event
  | object {members : List (Option String × Tree)} {kind : Option Tree} {event : Event}
      (hkeys : ∀ m ∈ members, m.1 ≠ none)
      (htype : valuesAt members "type" = kind.toList) (hkind : KindForm kind event.kind)
      (hauthorization :
        valuesAt members "authorizationToken" = [.string (some event.authorization)])
      (hmethodArn : valuesAt members "methodArn" = [.string (some event.methodArn)]) :
      Form (.object members) event

/-- The trees of no event: scalars, arrays of another length or with an item of the wrong kind, and
objects that have a key that stands for no text, lack a field, give one twice, or give one a value
of the wrong kind. -/
inductive Malformed : Tree → Prop
  | null : Malformed .null
  | bool (b : Bool) : Malformed (.bool b)
  | number (n : Json.Numeral) : Malformed (.number n)
  | string (s : Option String) : Malformed (.string s)
  | arrayLength {items : List Tree} (h : items.length ≠ 3) : Malformed (.array items)
  | arrayType {kind authorization methodArn : Tree} (hnull : kind ≠ .null) (h : ¬ kind.IsText) :
      Malformed (.array [kind, authorization, methodArn])
  | arrayAuthorization {kind authorization methodArn : Tree} (h : ¬ authorization.IsText) :
      Malformed (.array [kind, authorization, methodArn])
  | arrayMethodArn {kind authorization methodArn : Tree} (h : ¬ methodArn.IsText) :
      Malformed (.array [kind, authorization, methodArn])
  | key {members : List (Option String × Tree)} {value : Tree} (h : (none, value) ∈ members) :
      Malformed (.object members)
  | missing {members : List (Option String × Tree)} {name : String}
      (hname : name ∈ ["authorizationToken", "methodArn"]) (h : valuesAt members name = []) :
      Malformed (.object members)
  | repeated {members : List (Option String × Tree)} {name : String}
      (hname : name ∈ ["type", "authorizationToken", "methodArn"])
      (h : 1 < (valuesAt members name).length) : Malformed (.object members)
  | type {members : List (Option String × Tree)} {value : Tree}
      (hvalue : value ∈ valuesAt members "type") (hnull : value ≠ .null) (h : ¬ value.IsText) :
      Malformed (.object members)
  | text {members : List (Option String × Tree)} {name : String} {value : Tree}
      (hname : name ∈ ["authorizationToken", "methodArn"]) (hvalue : value ∈ valuesAt members name)
      (h : ¬ value.IsText) : Malformed (.object members)

theorem kind?_eq_some_iff {kind : Option Tree} {k : Option String} :
    (kind.map kind?).getD (some none) = some k ↔ KindForm kind k := by
  constructor
  · intro h
    cases kind with
    | none =>
        obtain rfl := Option.some.inj h
        exact .missing
    | some value =>
        cases value with
        | null =>
            obtain rfl := Option.some.inj h
            exact .null
        | string s =>
            cases s with
            | none => cases h
            | some s =>
                obtain rfl := Option.some.inj h
                exact .text s
        | _ => cases h
  · intro h
    cases h with
    | missing => rfl
    | null => rfl
    | text s => rfl

/-- A value is a type exactly if it is null or a text. -/
theorem exists_kindForm_iff {value : Tree} :
    (∃ k, KindForm (some value) k) ↔ value = .null ∨ value.IsText := by
  constructor
  · rintro ⟨_, _ | _ | s⟩
    · exact .inl rfl
    · exact .inr ⟨s, rfl⟩
  · rintro (rfl | ⟨s, rfl⟩)
    · exact ⟨none, .null⟩
    · exact ⟨some s, .text s⟩

/-- An event is read from its three fields. -/
theorem ofTree?_eq_some_iff_record? :
    ofTree? t = some event ↔ ∃ kind, KindForm kind event.kind ∧
      t.record? ["type", "authorizationToken", "methodArn"] =
        some [kind, some (.string (some event.authorization)),
          some (.string (some event.methodArn))] := by
  constructor
  · intro h
    simp only [ofTree?, Option.bind_eq_bind, Option.bind_eq_some_iff] at h
    obtain ⟨fields, hfields, h⟩ := h
    split at h
    · rename_i kind authorization methodArn
      simp only [Option.bind_eq_some_iff, Option.pure_def, Option.some.injEq] at h
      obtain ⟨k, hkind, s, hauthorization, arn, hmethodArn, rfl⟩ := h
      rw [Tree.string?_eq_some_iff] at hauthorization hmethodArn
      rw [hauthorization, hmethodArn] at hfields
      exact ⟨kind, kind?_eq_some_iff.1 hkind, hfields⟩
    · cases h
  · rintro ⟨kind, hkind, hfields⟩
    rw [ofTree?, hfields]
    simp only [Option.bind_eq_bind, Option.bind_some, kind?_eq_some_iff.2 hkind, Tree.string?,
      Option.pure_def]

/-- A tree is read as an event exactly if it is a tree of the event. -/
theorem ofTree?_eq_some_iff : ofTree? t = some event ↔ Form t event := by
  rw [ofTree?_eq_some_iff_record?]
  constructor
  · rintro ⟨kind, hkind, hfields⟩
    cases t with
    | array items =>
        obtain ⟨hlength, hitems⟩ := Tree.record?_array_eq_some_iff.1 hfields
        obtain ⟨_, _, _, rfl⟩ := List.length_eq_three.1 hlength
        simp only [List.map_cons, List.map_nil, List.cons.injEq, Option.some.injEq,
          and_true] at hitems
        obtain ⟨rfl, rfl, rfl⟩ := hitems
        exact .array hkind
    | object members =>
        obtain ⟨hkeys, hfields⟩ := Tree.record?_object_eq_some_iff.1 hfields
        simp only [List.forall₂_cons, Option.toList_some] at hfields
        obtain ⟨htype, hauthorization, hmethodArn, -⟩ := hfields
        exact .object hkeys htype hkind hauthorization hmethodArn
    | _ => cases hfields
  · intro h
    cases h with
    | array hkind => exact ⟨_, hkind, Tree.record?_array_eq_some_iff.2 ⟨rfl, rfl⟩⟩
    | object hkeys htype hkind hauthorization hmethodArn =>
        refine ⟨_, hkind, Tree.record?_object_eq_some_iff.2 ⟨hkeys, ?_⟩⟩
        exact .cons htype (.cons hauthorization (.cons hmethodArn .nil))

theorem not_form_of_malformed (h : Malformed t) : ¬ Form t event := by
  intro hform
  cases hform with
  | array hkind =>
      cases h with
      | arrayLength h => exact h rfl
      | arrayType hnull h => exact (exists_kindForm_iff.1 ⟨_, hkind⟩).elim hnull h
      | arrayAuthorization h => exact h ⟨_, rfl⟩
      | arrayMethodArn h => exact h ⟨_, rfl⟩
  | @object members kind _ hkeys htype hkind hauthorization hmethodArn =>
      have htext : ∀ name ∈ ["authorizationToken", "methodArn"],
          ∃ s : String, valuesAt members name = [.string (some s)] :=
        List.forall_mem_cons.2 ⟨⟨_, hauthorization⟩, List.forall_mem_singleton.2 ⟨_, hmethodArn⟩⟩
      cases h with
      | key h => exact hkeys _ h rfl
      | missing hname h =>
          obtain ⟨s, hs⟩ := htext _ hname
          rw [hs] at h
          cases h
      | repeated hname h =>
          rcases List.mem_cons.1 hname with rfl | hname
          · rw [htype] at h
            exact absurd h (Nat.not_lt.2 (Option.length_toList_le))
          · obtain ⟨s, hs⟩ := htext _ hname
            rw [hs] at h
            exact Nat.lt_irrefl 1 h
      | type hvalue hnull h =>
          rw [htype, Option.mem_toList] at hvalue
          obtain rfl := Option.mem_def.1 hvalue
          exact (exists_kindForm_iff.1 ⟨_, hkind⟩).elim hnull h
      | text hname hvalue h =>
          obtain ⟨s, hs⟩ := htext _ hname
          rw [hs, List.mem_singleton] at hvalue
          exact h ⟨s, hvalue⟩

theorem exists_form_of_not_malformed (h : ¬ Malformed t) : ∃ event, Form t event := by
  cases t with
  | null => exact absurd .null h
  | bool b => exact absurd (.bool b) h
  | number n => exact absurd (.number n) h
  | string s => exact absurd (.string s) h
  | array items =>
      obtain ⟨kind, authorization, methodArn, rfl⟩ :=
        List.length_eq_three.1 (not_not.1 fun hlength => h (.arrayLength hlength))
      obtain ⟨s, rfl⟩ := not_not.1 fun htext => h (.arrayAuthorization htext)
      obtain ⟨arn, rfl⟩ := not_not.1 fun htext => h (.arrayMethodArn htext)
      have hkind : kind = .null ∨ kind.IsText :=
        or_iff_not_imp_left.2 fun hnull => not_not.1 fun htext => h (.arrayType hnull htext)
      obtain ⟨k, hk⟩ := exists_kindForm_iff.2 hkind
      exact ⟨_, @Form.array kind ⟨k, s, arn⟩ hk⟩
  | object members =>
      -- What is not malformed has each field once, the type perhaps not at all.
      have hkeys : ∀ m ∈ members, m.1 ≠ none := by
        rintro ⟨_, value⟩ hm rfl
        exact h (.key hm)
      have honce : ∀ name ∈ ["type", "authorizationToken", "methodArn"],
          ∃ value : Option Tree, valuesAt members name = value.toList := by
        intro name hname
        rcases hvalues : valuesAt members name with _ | ⟨value, _ | ⟨value', rest⟩⟩
        · exact ⟨none, rfl⟩
        · exact ⟨some value, rfl⟩
        · refine absurd (.repeated hname ?_) h
          rw [hvalues]
          exact Nat.lt_add_of_pos_left (Nat.succ_pos _)
      have htext : ∀ name ∈ ["authorizationToken", "methodArn"],
          ∃ s : String, valuesAt members name = [.string (some s)] := by
        intro name hname
        obtain ⟨_ | value, hvalue⟩ := honce name (List.mem_cons_of_mem _ hname)
        · exact absurd (.missing hname hvalue) h
        · obtain ⟨s, rfl⟩ : value.IsText := not_not.1 fun htext =>
            h (.text hname (hvalue ▸ List.mem_singleton.2 rfl) htext)
          exact ⟨s, hvalue⟩
      obtain ⟨kind, htype⟩ := honce "type" List.mem_cons_self
      obtain ⟨s, hs⟩ := htext "authorizationToken" List.mem_cons_self
      obtain ⟨arn, harn⟩ := htext "methodArn" (List.mem_cons_of_mem _ List.mem_cons_self)
      obtain ⟨k, hk⟩ : ∃ k, KindForm kind k := by
        rcases kind with _ | value
        · exact ⟨none, .missing⟩
        · have hvalue : value ∈ valuesAt members "type" := htype ▸ List.mem_singleton.2 rfl
          refine exists_kindForm_iff.2 (or_iff_not_imp_left.2 fun hnull => ?_)
          exact not_not.1 fun htext => h (.type hvalue hnull htext)
      exact ⟨_, @Form.object members kind ⟨k, s, arn⟩ hkeys htype hk hs harn⟩

/-- A tree is turned down exactly if it is malformed. -/
theorem ofTree?_eq_none_iff : ofTree? t = none ↔ Malformed t := by
  simp only [Option.eq_none_iff_forall_ne_some, ne_eq, ofTree?_eq_some_iff]
  constructor
  · intro h
    by_contra hmalformed
    obtain ⟨event, hform⟩ := exists_form_of_not_malformed hmalformed
    exact h event hform
  · exact fun h event => not_form_of_malformed h

end Event

namespace Authorizer

variable {a : Authorizer} {diagnose : String → String} {text : String}

/-- The type of an event means nothing. -/
theorem authorize_with_kind (event : Event) (kind : Option String) :
    a.authorize { event with kind } = a.authorize event :=
  rfl

theorem authorizeText_of_some {event : Event} (h : Event.read? text = some event) :
    (a.authorizeText diagnose text).outcome = (a.authorize event).outcome.map Response.jsonText ∧
      (a.authorizeText diagnose text).consulted = (a.authorize event).consulted := by
  rw [authorizeText, h]
  constructor
  · rw [Run.outcome_bind]
    cases (a.authorize event).outcome with
    | error failure => rfl
    | ok response => rfl
  · exact Run.consulted_bind_of_forall (fun _ => rfl) _

theorem authorizeText_of_none (h : Event.read? text = none) :
    (a.authorizeText diagnose text).outcome = .error .unauthorized ∧
      (a.authorizeText diagnose text).consulted = [] := by
  rw [authorizeText, h]
  exact ⟨rfl, rfl⟩

end Authorizer

/-- A text of an event is answered as the event with any type is, with the same failure or the text
of the same response, and the verifier is asked the same. A text that is no JSON or that is
malformed as an event is rejected, and the verifier is not asked. -/
theorem authorizeText_agrees (a : Authorizer) (diagnose : String → String) (text : String) :
    (∀ t event, t.SpelledBy text → Event.Form t event → ∀ kind,
      (a.authorizeText diagnose text).outcome =
          (a.authorize { event with kind }).outcome.map Response.jsonText ∧
        (a.authorizeText diagnose text).consulted =
          (a.authorize { event with kind }).consulted) ∧
    ((∀ t : Tree, ¬ t.SpelledBy text) ∨ (∃ t : Tree, t.SpelledBy text ∧ Event.Malformed t) →
      (a.authorizeText diagnose text).outcome = .error .unauthorized ∧
        (a.authorizeText diagnose text).consulted = []) := by
  constructor
  · intro t event ht hform kind
    have hread : Event.read? text = some event := by
      rw [Event.read?, Tree.read?_eq_some_iff.2 ht, Option.bind_some,
        Event.ofTree?_eq_some_iff.2 hform]
    rw [Authorizer.authorize_with_kind]
    exact Authorizer.authorizeText_of_some hread
  · intro h
    refine Authorizer.authorizeText_of_none ?_
    rcases h with h | ⟨t, ht, hmalformed⟩
    · rw [Event.read?, Tree.read?_eq_none_iff.2 h, Option.bind_none]
    · rw [Event.read?, Tree.read?_eq_some_iff.2 ht, Option.bind_some,
        Event.ofTree?_eq_none_iff.2 hmalformed]

/-- Members in another order, unknown ones between them and escapes do no harm. A type that is given
twice does, also if its key is escaped once. -/
theorem authorizeText_agrees_reordered :
    ∃ reordered repeated : String,
      reordered = "\x7b \"methodArn\": \"arn\", \"x\": [1.50E+3, \x7b\"type\": \"\\ud800\"\x7d],
        \"x\": null, \"authorizationToken\": \"\\u0042earer t\" \x7d" ∧
      repeated = "\x7b\"type\": null, \"methodArn\": \"arn\", \"\\u0074ype\": null,
        \"authorizationToken\": \"Bearer t\"\x7d" ∧
      (∀ kind,
        (Authorizer.authorizeText ⟨fun _ => .error "expired", GrantPolicy.allowAll⟩
            (fun _ => "duplicate field `type` at line 1 column 46") reordered).outcome =
          (Authorizer.authorize ⟨fun _ => .error "expired", GrantPolicy.allowAll⟩
            ⟨kind, "Bearer t", "arn"⟩).outcome.map Response.jsonText ∧
        (Authorizer.authorizeText ⟨fun _ => .error "expired", GrantPolicy.allowAll⟩
            (fun _ => "duplicate field `type` at line 1 column 46") reordered).consulted =
          (Authorizer.authorize ⟨fun _ => .error "expired", GrantPolicy.allowAll⟩
            ⟨kind, "Bearer t", "arn"⟩).consulted) ∧
      (Authorizer.authorizeText ⟨fun _ => .error "expired", GrantPolicy.allowAll⟩
          (fun _ => "duplicate field `type` at line 1 column 46") repeated).outcome =
        .error .unauthorized ∧
        (Authorizer.authorizeText ⟨fun _ => .error "expired", GrantPolicy.allowAll⟩
          (fun _ => "duplicate field `type` at line 1 column 46") repeated).consulted = [] := by
  refine ⟨_, _, rfl, rfl, ?_, ?_⟩
  · refine (authorizeText_agrees _ _ _).1 (.object [("methodArn", .string "arn"),
      ("x", .array [.number ⟨false, 1, [5, 0], some 3⟩, .object [("type", .string none)]]),
      ("x", .null), ("authorizationToken", .string "Bearer t")]) ⟨none, "Bearer t", "arn"⟩ ?_ ?_
    · exact Tree.spelledBy_of_tokens (by decide +kernel)
    · exact .object (by decide) rfl .missing rfl rfl
  · refine (authorizeText_agrees _ _ _).2 (.inr ⟨.object [("type", .null),
      ("methodArn", .string "arn"), ("type", .null),
      ("authorizationToken", .string "Bearer t")], ?_, ?_⟩)
    · exact Tree.spelledBy_of_tokens (by decide +kernel)
    · have htwice : valuesAt [("type", .null), ("methodArn", .string "arn"), ("type", .null),
          ("authorizationToken", .string "Bearer t")] "type" = [.null, .null] := rfl
      exact .repeated List.mem_cons_self (htwice ▸ Nat.one_lt_two)

end GatewayAccess
