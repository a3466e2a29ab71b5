import GatewayAccess.Proofs.Compilation
import GatewayAccess.Proofs.ResponseText

/-! # The context of a response

Calls that set entries of a context leave for each key the value that was set last:
`Context.get?_write_eq_some_iff`. They change nothing else in a response, and the text of the
response is written from the context alone, so neither shows in which order or by which calls the
entries were set: `context_extended`.
-/

namespace GatewayAccess

/-! ## Calls -/

/-- The calls that set an entry of the context of a response. -/
inductive ContextCall where
  | insert (key : String) (value : Scalar)
  | attach (key : String) (value : Scalar)

namespace ContextCall

/-- The key that a call sets. -/
def key : ContextCall → String
  | insert key _ | attach key _ => key

/-- The value that a call gives to its key. -/
def value : ContextCall → Scalar
  | insert _ value | attach _ value => value

/-- Makes a call. -/
def apply : ContextCall → Response → Response
  | insert key value, r => r.insertContext key value
  | attach key value, r => r.withContext key value

/-- A call sets its key in the context, and leaves the rest of the response as it is. -/
theorem apply_eq (c : ContextCall) (r : Response) :
    c.apply r = { r with context := r.context.insert c.key c.value } := by
  cases c <;> rfl

/-- A value is the last that calls give to a key: no call behind the one that gives it sets the
key. -/
def Last (calls : List ContextCall) (key : String) (value : Scalar) : Prop :=
  ∃ before c after, calls = before ++ c :: after ∧ c.key = key ∧ c.value = value ∧
    ∀ d ∈ after, d.key ≠ key

variable {c : ContextCall} {calls : List ContextCall} {key : String} {value : Scalar}

theorem not_last_nil : ¬ Last [] key value := by
  rintro ⟨before, c, after, h, -⟩
  exact List.append_ne_nil_of_right_ne_nil before (List.cons_ne_nil c after) h.symm

/-- The first of some calls gives the last value if no other call sets the key. -/
theorem last_cons_iff :
    Last (c :: calls) key value ↔
      Last calls key value ∨ (∀ d ∈ calls, d.key ≠ key) ∧ c.key = key ∧ c.value = value := by
  constructor
  · rintro ⟨before, d, after, heq, hkey, hvalue, hafter⟩
    cases before with
    | nil =>
        obtain ⟨rfl, rfl⟩ := List.cons.inj heq
        exact .inr ⟨hafter, hkey, hvalue⟩
    | cons b before =>
        exact .inl ⟨before, d, after, (List.cons.inj heq).2, hkey, hvalue, hafter⟩
  · rintro (⟨before, d, after, rfl, hkey, hvalue, hafter⟩ | ⟨hcalls, hkey, hvalue⟩)
    · exact ⟨c :: before, d, after, rfl, hkey, hvalue, hafter⟩
    · exact ⟨[], c, calls, rfl, hkey, hvalue, hcalls⟩

/-- The keys with a last value are those that some call sets. -/
theorem exists_last_iff : (∃ value, Last calls key value) ↔ ∃ c ∈ calls, c.key = key := by
  constructor
  · rintro ⟨value, before, c, after, rfl, hkey, -⟩
    exact ⟨c, List.mem_append_right _ List.mem_cons_self, hkey⟩
  · intro h
    induction calls with
    | nil =>
        obtain ⟨c, hc, -⟩ := h
        exact absurd hc List.not_mem_nil
    | cons c calls ih =>
        by_cases hcalls : ∃ d ∈ calls, d.key = key
        · obtain ⟨value, hvalue⟩ := ih hcalls
          exact ⟨value, last_cons_iff.2 (.inl hvalue)⟩
        · have hnone : ∀ d ∈ calls, d.key ≠ key := fun d hd hkey => hcalls ⟨d, hd, hkey⟩
          obtain ⟨d, hd, hkey⟩ := h
          rcases List.mem_cons.1 hd with rfl | hd
          · exact ⟨d.value, last_cons_iff.2 (.inr ⟨hnone, hkey, rfl⟩)⟩
          · exact absurd hkey (hnone d hd)

end ContextCall

/-! ## What calls leave -/

/-- The context after calls, one after another. -/
def Context.write (context : Context) (calls : List ContextCall) : Context :=
  calls.foldl (fun context c => context.insert c.key c.value) context

/-- The response after calls, one after another. -/
def Response.extend (r : Response) (calls : List ContextCall) : Response :=
  calls.foldl (fun r c => c.apply r) r

/-- Calls write to the context, and leave the rest of the response as it is. -/
theorem Response.extend_eq (r : Response) (calls : List ContextCall) :
    r.extend calls = { r with context := Context.write r.context calls } := by
  induction calls generalizing r with
  | nil => rfl
  | cons c calls ih =>
      have hextend : r.extend (c :: calls) = (c.apply r).extend calls := rfl
      rw [hextend, ih, c.apply_eq]
      rfl

theorem Response.principal_extend (r : Response) (calls : List ContextCall) :
    (r.extend calls).principal = r.principal := by
  rw [extend_eq]

theorem Response.document_extend (r : Response) (calls : List ContextCall) :
    (r.extend calls).document = r.document := by
  rw [extend_eq]

/-- Behind calls a key has the last value that they give to it, or the one that it had before if
they do not set it. -/
theorem Context.get?_write_eq_some_iff {context : Context} {calls : List ContextCall}
    {key : String} {value : Scalar} :
    (Context.write context calls).get? key = some value ↔
      ContextCall.Last calls key value ∨
        (∀ c ∈ calls, c.key ≠ key) ∧ context.get? key = some value := by
  -- The first call makes the context with which the others begin.
  induction calls generalizing context with
  | nil =>
      simp only [write, List.foldl_nil, ContextCall.not_last_nil, List.not_mem_nil, false_implies,
        implies_true, true_and, false_or]
  | cons c calls ih =>
      have hwrite : write context (c :: calls) = write (context.insert c.key c.value) calls := rfl
      rw [hwrite, ih, ContextCall.last_cons_iff, SortedMap.get?_insert, List.forall_mem_cons]
      by_cases hkey : c.key = key
      · simp only [hkey, if_true, Option.some.injEq, true_and, ne_eq, not_true_eq_false, false_and,
          or_false]
      · simp only [hkey, Ne.symm hkey, if_false, ne_eq, not_false_eq_true, true_and, false_and,
          and_false, or_false]

/-- The text of a response that lists the entries of its context in a given order. -/
def responseText (principal : String) (document : Document) (entries : List (String × Scalar)) :
    String :=
  "\x7b\"principalId\":" ++ (Json.ofText principal).text ++
    ",\"policyDocument\":" ++ document.tree.text ++
    ",\"context\":" ++
    ("\x7b" ++
      ",".intercalate (entries.map fun e => (Json.ofText e.1).text ++ ":" ++ e.2.jsonText) ++
      "\x7d") ++
    "\x7d"

/-- The entries are listed in the order of the map. -/
theorem Response.jsonText_eq_responseText (r : Response) :
    r.jsonText = responseText r.principal r.document r.context.entries := by
  rw [jsonText_eq, SortedMap.text_tree]
  rfl

/-- What a response is behind calls that set entries of its context. -/
structure Extended (built : Response) (calls : List ContextCall) : Prop where
  /-- Principal and document are those that were built. -/
  rest : (built.extend calls).principal = built.principal ∧
    (built.extend calls).document = built.document
  /-- The value of a key is the one that was set last. -/
  value : ∀ key value, (built.extend calls).context.get? key = some value ↔
    ContextCall.Last calls key value
  /-- There is no value just if the key was not set. -/
  absent : ∀ key, (built.extend calls).context.get? key = none ↔ ∀ c ∈ calls, c.key ≠ key
  /-- The text has one entry for each key that was set, ascending by the bytes of the keys. -/
  text : ∃ entries : List (String × Scalar),
    (entries.Pairwise fun a b => keyBytes a.1 < keyBytes b.1) ∧
    (∀ key value, (key, value) ∈ entries ↔ ContextCall.Last calls key value) ∧
    (built.extend calls).jsonText = responseText built.principal built.document entries
  /-- Other calls that set the same values last give the same response, and the same text. -/
  same : ∀ others, (∀ key value, ContextCall.Last calls key value ↔
      ContextCall.Last others key value) →
    built.extend calls = built.extend others ∧
      (built.extend calls).jsonText = (built.extend others).jsonText

/-- Whatever is set in the context of a response that was built, the context is what was set last,
and response and text are determined by that. -/
theorem context_extended {p : Policy} {built : Response} (h : p.build = .ok built)
    (calls : List ContextCall) : Extended built calls := by
  have hempty : built.context = ∅ := (Policy.build_eq_ok_iff.1 h).2.2.2
  have hvalue (calls : List ContextCall) (key : String) (value : Scalar) :
      (built.extend calls).context.get? key = some value ↔ ContextCall.Last calls key value := by
    rw [Response.extend_eq, Context.get?_write_eq_some_iff, hempty, SortedMap.get?_emptyCollection]
    simp only [reduceCtorEq, and_false, or_false]
  refine ⟨⟨built.principal_extend calls, built.document_extend calls⟩, hvalue calls, ?_, ?_, ?_⟩
  · intro key
    have hset : (∃ value, (built.extend calls).context.get? key = some value) ↔
        ∃ c ∈ calls, c.key = key := by
      simp only [hvalue]
      exact ContextCall.exists_last_iff
    constructor
    · intro hnone c hc hkey
      obtain ⟨value, hget⟩ := hset.2 ⟨c, hc, hkey⟩
      rw [hnone] at hget
      cases hget
    · intro hcalls
      refine Option.eq_none_iff_forall_ne_some.2 fun value hget => ?_
      obtain ⟨c, hc, hkey⟩ := hset.1 ⟨value, hget⟩
      exact hcalls c hc hkey
  · refine ⟨(built.extend calls).context.entries, (built.extend calls).context.ascending, ?_, ?_⟩
    · intro key value
      rw [SortedMap.mem_entries_iff, hvalue]
    · rw [Response.jsonText_eq_responseText, Response.principal_extend, Response.document_extend]
  · intro others hsame
    have hcontext : (built.extend calls).context = (built.extend others).context := by
      refine SortedMap.ext_get? fun key => Option.ext fun value => ?_
      rw [hvalue, hvalue, hsame]
    have hequal : built.extend calls = built.extend others := by
      rw [Response.extend_eq, Response.extend_eq, Response.mk.injEq]
      rw [Response.extend_eq, Response.extend_eq] at hcontext
      exact ⟨rfl, rfl, hcontext⟩
    exact ⟨hequal, congrArg Response.jsonText hequal⟩

/-- A value that is overwritten leaves no trace, nor does the order in which two keys are set. -/
theorem context_extended_overwritten :
    ∃ p built, (Policy.new "user" ⟨"eu-west-1", "1", "api", "prod", "aws"⟩).allowAll = .ok p ∧
      p.build = .ok built ∧
      built.extend [.insert "é" (.bool true), .attach "z" (.text "old"),
          .insert "z" (.text "new")] =
        built.extend [.attach "z" (.text "new"), .insert "é" (.bool true)] ∧
      (built.extend [.attach "z" (.text "new"), .insert "é" (.bool true)]).context.get? "z" =
        some (.text "new") := by
  obtain ⟨p, hp⟩ : ∃ p, (Policy.new "user" ⟨"eu-west-1", "1", "api", "prod", "aws"⟩).allowAll =
      .ok p := ⟨_, rfl⟩
  obtain ⟨built, hbuilt⟩ : ∃ built, p.build = .ok built := by
    cases hp
    exact ⟨_, rfl⟩
  refine ⟨p, built, hp, hbuilt, ?_, ?_⟩
  · refine ((context_extended hbuilt _).same _ fun key value => ?_).1
    simp only [ContextCall.last_cons_iff, ContextCall.not_last_nil, List.forall_mem_cons,
      List.not_mem_nil, false_implies, implies_true, and_true, true_and, false_or,
      ContextCall.key, ContextCall.value]
    by_cases hz : "z" = key
    · subst hz
      simp
    · simp [hz]
  · refine ((context_extended hbuilt _).value _ _).2 ?_
    simp [ContextCall.last_cons_iff, ContextCall.key, ContextCall.value]

end GatewayAccess
