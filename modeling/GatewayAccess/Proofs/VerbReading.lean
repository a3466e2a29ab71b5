import GatewayAccess.Proofs.Json.Text
import GatewayAccess.Verb

/-! # Verbs are read alike

A verb has a token, which stands in requests and ARNs, and a name, which stands in JSON data. They
come from two tables, and are the same for every verb: `Verb.name_eq_token`. So a text is parsed as
a verb just if a JSON string with that content is read as it, however the string is written:
`verb_readers_agree`.
-/

namespace GatewayAccess

namespace Verb

variable {v : Verb} {token text : String}

/-! ## The two tables -/

/-- What is found under a name is the verb with this name. -/
theorem ofName?_eq_some_iff {name : String} : ofName? name = some v ↔ v.name = name := by
  constructor
  · intro h
    unfold ofName? at h
    split at h
    case h_9 => cases h
    all_goals
      obtain rfl := Option.some.inj h
      rfl
  · rintro rfl
    cases v <;> rfl

/-- A verb has the same text in both tables. -/
theorem name_eq_token (v : Verb) : v.name = v.token := by
  cases v <;> rfl

/-! ## The readers -/

/-- A text is that of a verb just if some verb has it as its token. -/
theorem isToken_iff : isToken token = true ↔ ∃ v : Verb, v.token = token := by
  rw [isToken, Option.isSome_iff_exists]
  simp only [ofToken?_eq_some_iff]

/-- A text that is not the token of a verb is handed back in the failure. -/
theorem ofToken_of_not_isToken (h : isToken token = false) :
    ofToken token = .error (.unknownVerb token) := by
  rw [isToken, Option.isSome_eq_false_iff, Option.isNone_iff_eq_none] at h
  rw [ofToken, h]

/-- A JSON string is read as the verb that its content names. -/
theorem read?_eq_ofName? (h : (Json.Tree.string (some token)).SpelledBy text) :
    read? text = ofName? token := by
  rw [read?, Json.Tree.read?_eq_some_iff.2 h]
  rfl

/-- A JSON string is read as a verb just if its content is the token of the verb. -/
theorem read?_eq_some_iff (h : (Json.Tree.string (some token)).SpelledBy text) :
    read? text = some v ↔ v.token = token := by
  rw [read?_eq_ofName? h, ofName?_eq_some_iff, name_eq_token]

/-- The JSON text of a verb is a string whose content is its token. -/
theorem spelledBy_jsonText (v : Verb) :
    (Json.Tree.string (some v.token)).SpelledBy v.jsonText := by
  rw [← name_eq_token]
  exact Json.Tree.read?_eq_some_iff.1 (Json.Tree.read?_text v.tree)

/-- What the two readers make of a text, given as it is and as the content of a JSON string. -/
structure ReadAlike (token text : String) : Prop where
  /-- The text is parsed as a verb just if the string is read as this verb, -/
  agree : ∀ v : Verb, ofToken token = .ok v ↔ read? text = some v
  /-- and just if it is the token of the verb. -/
  parsed : ∀ v : Verb, ofToken token = .ok v ↔ v.token = token
  /-- Then the verb is shown as that text and written as a JSON string with that content, which is
  read as the verb again. -/
  written : ∀ v : Verb, ofToken token = .ok v →
    toString v = token ∧ (Json.Tree.string (some token)).SpelledBy v.jsonText ∧
      read? v.jsonText = some v
  /-- It counts as a token. -/
  valid : isToken token = true ↔ ∃ v, ofToken token = .ok v
  /-- Any other text fails and is named by the failure, the string is no verb, and the text counts
  as no token. -/
  rejected : (∀ v : Verb, v.token ≠ token) →
    ofToken token = .error (.unknownVerb token) ∧ read? text = none ∧ isToken token = false

end Verb

/-- A text and a JSON string with this content are read alike as verbs, however the string is
written. -/
theorem verb_readers_agree {token text : String}
    (h : (Json.Tree.string (some token)).SpelledBy text) : Verb.ReadAlike token text where
  agree v := by rw [Verb.ofToken_eq_ok_iff, Verb.read?_eq_some_iff h]
  parsed v := Verb.ofToken_eq_ok_iff
  written v hv := by
    obtain rfl := Verb.ofToken_eq_ok_iff.1 hv
    exact ⟨rfl, v.spelledBy_jsonText, (Verb.read?_eq_some_iff v.spelledBy_jsonText).2 rfl⟩
  valid := by simp only [Verb.isToken_iff, Verb.ofToken_eq_ok_iff]
  rejected hne := by
    have htoken : Verb.isToken token = false := by
      rw [← Bool.not_eq_true, Verb.isToken_iff]
      exact fun ⟨v, hv⟩ => hne v hv
    refine ⟨Verb.ofToken_of_not_isToken htoken, ?_, htoken⟩
    rw [Option.eq_none_iff_forall_ne_some]
    exact fun v hv => hne v ((Verb.read?_eq_some_iff h).1 hv)

/-- An escape in the string makes no difference, and a small letter does in both. -/
theorem verb_readers_agree_escaped :
    (Verb.ofToken "GET" = .ok .get ∧ Verb.read? " \"\\u0047ET\"\n" = some .get) ∧
      Verb.ofToken "Get" = .error (.unknownVerb "Get") ∧
        Verb.read? (Json.Tree.string (some "Get")).text = none ∧ Verb.isToken "Get" = false := by
  constructor
  · have hspelled : (Json.Tree.string (some "GET")).SpelledBy " \"\\u0047ET\"\n" :=
      Json.Tree.spelledBy_of_tokens (by decide +kernel)
    have halike := verb_readers_agree hspelled
    have hparsed := (halike.parsed .get).2 rfl
    exact ⟨hparsed, (halike.agree .get).1 hparsed⟩
  · have hspelled := Json.Tree.read?_eq_some_iff.1 (Json.Tree.read?_text (.string "Get"))
    exact (verb_readers_agree hspelled).rejected fun v => by cases v <;> decide

end GatewayAccess
