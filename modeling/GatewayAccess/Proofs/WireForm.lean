import GatewayAccess.Proofs.Ledger
import GatewayAccess.Proofs.Json.Value

/-! # The wire form of responses

What a response says as a JSON value is `Response.value`: an object with three members, and objects
and lists inside it with nothing but the data of the response. `jsonText_read` says that the text of
a response is read as that value, whatever characters its texts and keys hold, and that no other
response has the same text. That is so of every response, whatever policy and context it comes from.
Doubles are read back by assumption, because reading rounds twice.
-/

namespace GatewayAccess

/-! ## Responses as JSON values -/

/-- Conditions as a JSON value. -/
def Conditions.value (c : Conditions) : Json := .ofMap (c.map .ofMap)

/-- A statement as a JSON value. It has a condition just if the statement has one. -/
def Statement.value (s : Statement) : Json :=
  .ofMap <| .ofList <|
    [("Action", .ofText "execute-api:Invoke"),
      ("Effect", .ofText (if s.effect = .allow then "Allow" else "Deny")),
      ("Resource", .ofList (s.resources.map .ofText))] ++
    s.condition.toList.map fun c => ("Condition", Conditions.value c)

/-- A document as a JSON value. -/
def Document.value (d : Document) : Json :=
  .ofMap <| .ofList
    [("Version", .ofText "2012-10-17"), ("Statement", .ofList (d.statements.map Statement.value))]

/-- A response as a JSON value. -/
def Response.value (r : Response) : Json :=
  .ofMap <| .ofList
    [("principalId", .ofText r.principal), ("policyDocument", r.document.value),
      ("context", .ofMap (r.context.map Scalar.toJson))]

/-! ## Doubles in responses -/

/-- The doubles in conditions. -/
def Conditions.doubles (c : Conditions) : List Double :=
  c.entries.flatMap fun operator => operator.2.entries.flatMap fun key => key.2.raw.doubles

/-- The doubles in a statement. -/
def Statement.doubles (s : Statement) : List Double := s.condition.toList.flatMap Conditions.doubles

/-- The doubles in a response. -/
def Response.doubles (r : Response) : List Double :=
  r.document.statements.flatMap Statement.doubles ++
    r.context.entries.flatMap fun e => e.2.toJson.raw.doubles

/-! ## Reading -/

theorem Conditions.reads_tree {c : Conditions} (h : ∀ x ∈ doubles c, x.ReadsBack) :
    Json.Reads (tree c) (value c) := by
  refine Json.reads_sortedMapTree fun operator ho => ?_
  have hkeys : ∀ key ∈ operator.2.entries, Json.Reads key.2.tree key.2 := fun key hk =>
    Json.reads_tree (List.forall_mem_flatMap.1 (List.forall_mem_flatMap.1 h operator ho) key hk)
  have hread : Json.Reads (operator.2.tree Json.tree) (.ofMap (operator.2.map id)) :=
    Json.reads_sortedMapTree hkeys
  rwa [SortedMap.map_id] at hread

theorem Statement.reads_tree {s : Statement} (h : ∀ x ∈ s.doubles, x.ReadsBack) :
    Json.Reads s.tree s.value := by
  obtain ⟨effect, resources, condition⟩ := s
  have hresources : Json.Reads (.array (resources.map fun r => .string (some r)))
      (.ofList (resources.map .ofText)) := by
    refine Json.reads_ofList ?_
    rw [List.forall₂_map_left_iff, List.forall₂_map_right_iff]
    exact List.forall₂_same.2 fun r _ => Json.reads_ofText r
  have heffect : Json.Reads effect.tree
      (.ofText (if effect = .allow then "Allow" else "Deny")) := by
    cases effect <;> exact Json.reads_ofText _
  have hmembers : List.Forall₂ Json.ReadsMember
      [(some "Action", .string (some action)), (some "Effect", effect.tree),
        (some "Resource", .array (resources.map fun r => .string (some r)))]
      [("Action", .ofText "execute-api:Invoke"),
        ("Effect", .ofText (if effect = .allow then "Allow" else "Deny")),
        ("Resource", .ofList (resources.map .ofText))] :=
    .cons ⟨rfl, Json.reads_ofText action⟩ <| .cons ⟨rfl, heffect⟩ <|
      .cons ⟨rfl, hresources⟩ .nil
  refine Json.reads_ofMap ?_
  cases condition with
  | none => exact List.rel_append hmembers .nil
  | some c =>
      have hc := List.forall_mem_flatMap.1 h c (List.mem_singleton_self c)
      exact List.rel_append hmembers (.cons ⟨rfl, Conditions.reads_tree hc⟩ .nil)

theorem Document.reads_tree {d : Document}
    (h : ∀ x ∈ d.statements.flatMap Statement.doubles, x.ReadsBack) :
    Json.Reads d.tree d.value := by
  have hstatements : Json.Reads (.array (d.statements.map Statement.tree))
      (.ofList (d.statements.map Statement.value)) := by
    refine Json.reads_ofList ?_
    rw [List.forall₂_map_left_iff, List.forall₂_map_right_iff]
    exact List.forall₂_same.2 fun s hs => Statement.reads_tree (List.forall_mem_flatMap.1 h s hs)
  exact Json.reads_ofMap <| .cons ⟨rfl, Json.reads_ofText version⟩ <| .cons ⟨rfl, hstatements⟩ .nil

theorem Response.reads_tree {r : Response} (h : ∀ x ∈ r.doubles, x.ReadsBack) :
    Json.Reads r.tree r.value := by
  obtain ⟨hdocument, hcontext⟩ := List.forall_mem_append.1 h
  have hcontext' : Json.Reads (r.context.tree Scalar.tree) (.ofMap (r.context.map Scalar.toJson)) :=
    Json.reads_sortedMapTree fun e he => Json.reads_tree (List.forall_mem_flatMap.1 hcontext e he)
  exact Json.reads_ofMap <| .cons ⟨rfl, Json.reads_ofText r.principal⟩ <|
    .cons ⟨rfl, Document.reads_tree hdocument⟩ <| .cons ⟨rfl, hcontext'⟩ .nil

/-! ## Telling apart

A tree is a list of members or items at every level, so the data of two equal trees are compared
level by level. Only where the tree is that of a JSON value does reading come in.
-/

/-- Lists are equal if they have equal images and their items are told apart by these. -/
theorem eq_of_map_eq_map {α β : Type} {f : α → β} {l m : List α}
    (h : ∀ a ∈ l, ∀ b ∈ m, f a = f b → a = b) (heq : l.map f = m.map f) : l = m := by
  induction l generalizing m with
  | nil => exact (List.map_eq_nil_iff.1 heq.symm).symm
  | cons a l ih =>
      cases m with
      | nil => cases heq
      | cons b m =>
          obtain ⟨hhead, htail⟩ := List.cons.inj heq
          have hitems : ∀ c ∈ l, ∀ d ∈ m, f c = f d → c = d := fun c hc d hd =>
            h c (List.mem_cons_of_mem _ hc) d (List.mem_cons_of_mem _ hd)
          rw [h a List.mem_cons_self b List.mem_cons_self hhead, ih hitems htail]

/-- Maps are equal if they have equal trees and their values are told apart by these. -/
theorem SortedMap.eq_of_tree_eq {α : Type} {valueTree : α → Json.Tree} {m n : SortedMap α}
    (h : ∀ e ∈ m.entries, ∀ f ∈ n.entries, valueTree e.2 = valueTree f.2 → e.2 = f.2)
    (heq : m.tree valueTree = n.tree valueTree) : m = n := by
  refine SortedMap.ext (eq_of_map_eq_map (fun e he f hf hef => ?_) (Json.Tree.object.inj heq))
  obtain ⟨hkey, hvalue⟩ := Prod.mk.inj hef
  exact Prod.ext (Option.some.inj hkey) (h e he f hf hvalue)

theorem Conditions.eq_of_tree_eq {c d : Conditions} (hc : ∀ x ∈ doubles c, x.ReadsBack)
    (hd : ∀ x ∈ doubles d, x.ReadsBack) (heq : tree c = tree d) : c = d := by
  refine SortedMap.eq_of_tree_eq (fun o ho p hp hop => ?_) heq
  refine SortedMap.eq_of_tree_eq (fun e he f hf hef => ?_) hop
  have hread : Json.Reads e.2.tree e.2 :=
    Json.reads_tree (List.forall_mem_flatMap.1 (List.forall_mem_flatMap.1 hc o ho) e he)
  have hread' : Json.Reads f.2.tree f.2 :=
    Json.reads_tree (List.forall_mem_flatMap.1 (List.forall_mem_flatMap.1 hd p hp) f hf)
  rw [hef] at hread
  exact hread.unique hread'

theorem Effect.eq_of_tree_eq {e f : Effect} (heq : e.tree = f.tree) : e = f := by
  have hname : e.name = f.name := Option.some.inj (Json.Tree.string.inj heq)
  cases e <;> cases f <;> first | rfl | exact absurd hname (by decide)

theorem Statement.eq_of_tree_eq {s t : Statement} (hs : ∀ x ∈ s.doubles, x.ReadsBack)
    (ht : ∀ x ∈ t.doubles, x.ReadsBack) (heq : s.tree = t.tree) : s = t := by
  obtain ⟨effect, resources, condition⟩ := s
  obtain ⟨effect', resources', condition'⟩ := t
  obtain ⟨-, hmembers⟩ := List.cons.inj (Json.Tree.object.inj heq)
  obtain ⟨hname, hmembers⟩ := List.cons.inj hmembers
  obtain ⟨hlist, hcondition⟩ := List.cons.inj hmembers
  obtain rfl : effect = effect' := Effect.eq_of_tree_eq (Prod.mk.inj hname).2
  obtain rfl : resources = resources' :=
    (List.map_inj_right fun _ _ hr => Option.some.inj (Json.Tree.string.inj hr)).1
      (Json.Tree.array.inj (Prod.mk.inj hlist).2)
  -- A condition is never mistaken for the lack of one, which has no member at all.
  cases condition with
  | none =>
      cases condition' with
      | none => rfl
      | some c' => cases hcondition
  | some c =>
      cases condition' with
      | none => cases hcondition
      | some c' =>
          have hc := List.forall_mem_flatMap.1 hs c (List.mem_singleton_self c)
          have hc' := List.forall_mem_flatMap.1 ht c' (List.mem_singleton_self c')
          rw [Conditions.eq_of_tree_eq hc hc' (Prod.mk.inj (List.cons.inj hcondition).1).2]

theorem Document.eq_of_tree_eq {d e : Document}
    (hd : ∀ x ∈ d.statements.flatMap Statement.doubles, x.ReadsBack)
    (he : ∀ x ∈ e.statements.flatMap Statement.doubles, x.ReadsBack) (heq : d.tree = e.tree) :
    d = e := by
  obtain ⟨statements, _⟩ := d
  obtain ⟨statements', _⟩ := e
  obtain ⟨-, hmembers⟩ := List.cons.inj (Json.Tree.object.inj heq)
  have hstatements := Json.Tree.array.inj (Prod.mk.inj (List.cons.inj hmembers).1).2
  obtain rfl : statements = statements' := by
    refine eq_of_map_eq_map (fun s hs t ht hst => ?_) hstatements
    exact Statement.eq_of_tree_eq (List.forall_mem_flatMap.1 hd s hs)
      (List.forall_mem_flatMap.1 he t ht) hst
  rfl

theorem Scalar.eq_of_tree_eq {s t : Scalar} (hs : ∀ x ∈ s.toJson.raw.doubles, x.ReadsBack)
    (ht : ∀ x ∈ t.toJson.raw.doubles, x.ReadsBack) (heq : s.tree = t.tree) : s = t := by
  have hread : Json.Reads s.tree s.toJson := Json.reads_tree hs
  rw [heq] at hread
  have hjson : ofJson? s.toJson = ofJson? t.toJson := by rw [hread.unique (Json.reads_tree ht)]
  cases s <;> cases t <;> exact Option.some.inj hjson

/-- Responses are told apart by their trees. -/
theorem Response.eq_of_tree_eq {r s : Response} (hr : ∀ x ∈ r.doubles, x.ReadsBack)
    (hs : ∀ x ∈ s.doubles, x.ReadsBack) (heq : r.tree = s.tree) : r = s := by
  obtain ⟨principal, document, context⟩ := r
  obtain ⟨principal', document', context'⟩ := s
  obtain ⟨hdocument, hcontext⟩ := List.forall_mem_append.1 hr
  obtain ⟨hdocument', hcontext'⟩ := List.forall_mem_append.1 hs
  obtain ⟨hprincipalTree, hmembers⟩ := List.cons.inj (Json.Tree.object.inj heq)
  obtain ⟨hdocumentTree, hmembers⟩ := List.cons.inj hmembers
  obtain ⟨hcontextTree, -⟩ := List.cons.inj hmembers
  obtain rfl : principal = principal' :=
    Option.some.inj (Json.Tree.string.inj (Prod.mk.inj hprincipalTree).2)
  obtain rfl : document = document' :=
    Document.eq_of_tree_eq hdocument hdocument' (Prod.mk.inj hdocumentTree).2
  obtain rfl : context = context' := by
    refine SortedMap.eq_of_tree_eq (fun e he f hf hef => ?_) (Prod.mk.inj hcontextTree).2
    exact Scalar.eq_of_tree_eq (List.forall_mem_flatMap.1 hcontext e he)
      (List.forall_mem_flatMap.1 hcontext' f hf) hef
  rfl

/-- The text of a response is read as what the response says, members in order and nothing else, and
it is the text of no other response. -/
theorem jsonText_read {response : Response} (hdepth : response.tree.depth ≤ Json.depthLimit)
    (hdoubles : ∀ x ∈ response.doubles, x.ReadsBack) :
    Json.Tree.read? response.jsonText = some response.tree ∧
      Json.read? response.jsonText = some response.value ∧
        ∀ other : Response, (∀ x ∈ other.doubles, x.ReadsBack) →
          response.jsonText = other.jsonText → response = other :=
  ⟨Json.Tree.read?_text _, Json.read?_text (Response.reads_tree hdoubles) hdepth,
    fun _ hother htext => Response.eq_of_tree_eq hdoubles hother (Json.Tree.text_inj.1 htext)⟩

/-- Texts that try to close their quotes, nested conditions and a double do no harm. -/
theorem jsonText_read_quotes :
    ∃ response : Response,
      (((Policy.new "ann\",\"context\":[" ⟨"eu-west-1", "123456789012", "api", "prod", "aws"⟩).run
          [.allow .get "/a",
            .denyIf .all "*" (SortedMap.ofList
              [("\\\n", SortedMap.ofList [("é\x00",
                .ofList [.ofText "\"", Scalar.toJson (.number (.double
                  ⟨false, 4609434218613702656, by decide⟩))])])])]).build.map
          (·.insertContext "\"\x7f😀" (.number (.negSucc ⟨0, by decide⟩)))) = .ok response ∧
      Json.Tree.read? response.jsonText = some response.tree ∧
      Json.read? response.jsonText = some response.value ∧
        ∀ other : Response, (∀ x ∈ other.doubles, x.ReadsBack) →
          response.jsonText = other.jsonText → response = other := by
  refine ⟨_, rfl, jsonText_read ?_ ?_⟩
  · decide
  · decide +kernel

end GatewayAccess
