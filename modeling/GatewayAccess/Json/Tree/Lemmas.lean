import GatewayAccess.Json.Tree

/-! # Trees and their tokens

`Tree.ofTokens?_eq_some_iff`: the reader accepts exactly the token sequences of trees, and gives the
tree whose tokens they are.

Reading the tokens of a tree takes the reader from expecting a value to having it, whatever is open
around it. Conversely the state of a reader determines the tokens that have led to it, and each step
adds the token that it reads.
-/

namespace GatewayAccess.Json.Tree

open Reader

/-! ## Reading the tokens of a tree -/

/-- Behind an opening bracket every token but the closing one begins the first item. -/
theorem step?_firstItem {t : Token} (ht : t ≠ .closeArray) (stack : List Frame) :
    step? ⟨.firstItem, stack⟩ t = step? ⟨.value, .array [] :: stack⟩ t := by
  cases t <;> simp_all [step?]

/-- No tree begins with a closing bracket. -/
theorem exists_tokens_eq_cons (t : Tree) : ∃ u us, t.tokens = u :: us ∧ u ≠ .closeArray := by
  cases t <;> simp [tokens]

/-- A first item is read like any value. -/
theorem foldlM_firstItem (t : Tree) (stack : List Frame) (rest : List Token) :
    (t.tokens ++ rest).foldlM step? ⟨.firstItem, stack⟩ =
      (t.tokens ++ rest).foldlM step? ⟨.value, .array [] :: stack⟩ := by
  obtain ⟨u, us, h, hu⟩ := exists_tokens_eq_cons t
  simp only [h, List.cons_append, List.foldlM_cons, step?_firstItem hu]

mutual

/-- The tokens of a tree are read as one value. -/
theorem foldlM_tokens (t : Tree) (stack : List Frame) (rest : List Token) :
    (t.tokens ++ rest).foldlM step? ⟨.value, stack⟩ = rest.foldlM step? ⟨.after t, stack⟩ := by
  cases t with
  | null => rfl
  | bool b => rfl
  | number n => rfl
  | string s => rfl
  | array items =>
      cases items with
      | nil => rfl
      | cons u us =>
          show (u.tokens ++ furtherItems us ++ rest).foldlM step? ⟨.firstItem, stack⟩ = _
          rw [List.append_assoc, foldlM_firstItem, foldlM_tokens u, foldlM_furtherItems us]
          rfl
  | object members =>
      cases members with
      | nil => rfl
      | cons m ms =>
          obtain ⟨key, u⟩ := m
          show (u.tokens ++ furtherMembers ms ++ rest).foldlM step?
            ⟨.value, .object [] key :: stack⟩ = _
          rw [List.append_assoc, foldlM_tokens u, foldlM_furtherMembers ms]
          rfl

/-- What follows an item completes its array. -/
theorem foldlM_furtherItems (items : List Tree) (u : Tree) (before : List Tree)
    (stack : List Frame) (rest : List Token) :
    (furtherItems items ++ rest).foldlM step? ⟨.after u, .array before :: stack⟩ =
      rest.foldlM step? ⟨.after (.array ((u :: before).reverse ++ items)), stack⟩ := by
  cases items with
  | nil =>
      show rest.foldlM step? ⟨.after (.array (u :: before).reverse), stack⟩ = _
      rw [List.append_nil]
  | cons v vs =>
      show (v.tokens ++ furtherItems vs ++ rest).foldlM step?
        ⟨.value, .array (u :: before) :: stack⟩ = _
      rw [List.append_assoc, foldlM_tokens v, foldlM_furtherItems vs]
      simp

/-- What follows a member completes its object. -/
theorem foldlM_furtherMembers (members : List (Option String × Tree)) (u : Tree)
    (before : List (Option String × Tree)) (key : Option String) (stack : List Frame)
    (rest : List Token) :
    (furtherMembers members ++ rest).foldlM step? ⟨.after u, .object before key :: stack⟩ =
      rest.foldlM step? ⟨.after (.object (((key, u) :: before).reverse ++ members)), stack⟩ := by
  cases members with
  | nil =>
      show rest.foldlM step? ⟨.after (.object ((key, u) :: before).reverse), stack⟩ = _
      rw [List.append_nil]
  | cons m ms =>
      obtain ⟨k, v⟩ := m
      show (v.tokens ++ furtherMembers ms ++ rest).foldlM step?
        ⟨.value, .object ((key, u) :: before) k :: stack⟩ = _
      rw [List.append_assoc, foldlM_tokens v, foldlM_furtherMembers ms]
      simp

end

/-- The tokens of a tree are read as that tree. -/
theorem ofTokens?_tokens (t : Tree) : ofTokens? t.tokens = some t := by
  have h := foldlM_tokens t [] []
  simp only [List.append_nil] at h
  simp only [ofTokens?, start, h]
  rfl

/-! ## The tokens behind a reader -/

/-- The tokens of items that are each followed by another. -/
def precedingItems (items : List Tree) : List Token := items.flatMap fun t => t.tokens ++ [.comma]

/-- The tokens of members that are each followed by another. -/
def precedingMembers (members : List (Option String × Tree)) : List Token :=
  members.flatMap fun m => .string m.1 :: .colon :: m.2.tokens ++ [.comma]

/-- The tokens of an open container up to the value that is being read. -/
def Frame.tokens : Frame → List Token
  | .array items => .openArray :: precedingItems items.reverse
  | .object members key =>
      .openObject :: precedingMembers members.reverse ++ [.string key, .colon]

/-- The tokens that have been read inside the innermost open container. -/
def Phase.tokens : Phase → List Token
  | .value => []
  | .firstItem => [.openArray]
  | .firstKey => [.openObject]
  | .key members => .openObject :: precedingMembers members.reverse
  | .colon members name => .openObject :: precedingMembers members.reverse ++ [.string name]
  | .after t => t.tokens

/-- The tokens that have been read. -/
def Reader.tokens (r : Reader) : List Token :=
  r.stack.reverse.flatMap Frame.tokens ++ r.phase.tokens

theorem furtherItems_append (items : List Tree) (last : Tree) :
    furtherItems (items ++ [last]) =
      .comma :: (precedingItems items ++ last.tokens ++ [.closeArray]) := by
  induction items with
  | nil => simp [furtherItems, precedingItems]
  | cons t rest ih => simp_all [furtherItems, precedingItems]

theorem tokens_array_append (items : List Tree) (last : Tree) :
    (array (items ++ [last])).tokens =
      .openArray :: (precedingItems items ++ last.tokens ++ [.closeArray]) := by
  cases items with
  | nil => simp [Tree.tokens, firstItem, furtherItems, precedingItems]
  | cons t rest =>
      simp [Tree.tokens, firstItem, furtherItems_append, precedingItems]

theorem furtherMembers_append (members : List (Option String × Tree)) (key : Option String)
    (last : Tree) :
    furtherMembers (members ++ [(key, last)]) =
      .comma :: (precedingMembers members ++ .string key :: .colon :: last.tokens ++
        [.closeObject]) := by
  induction members with
  | nil => simp [furtherMembers, precedingMembers]
  | cons m rest ih => simp_all [furtherMembers, precedingMembers]

theorem tokens_object_append (members : List (Option String × Tree)) (key : Option String)
    (last : Tree) :
    (object (members ++ [(key, last)])).tokens =
      .openObject :: (precedingMembers members ++ .string key :: .colon :: last.tokens ++
        [.closeObject]) := by
  cases members with
  | nil => simp [Tree.tokens, firstMember, furtherMembers, precedingMembers]
  | cons m rest =>
      simp [Tree.tokens, firstMember, furtherMembers_append, precedingMembers]

/-- Beginning a value adds its first token. -/
theorem tokens_of_begin? {stack : List Frame} {t : Token} {r : Reader}
    (h : begin? stack t = some r) : r.tokens = stack.reverse.flatMap Frame.tokens ++ [t] := by
  cases t <;> simp only [begin?, Option.some.injEq, reduceCtorEq] at h <;> subst h <;>
    simp [Reader.tokens, Phase.tokens, Tree.tokens]

/-- Going on behind a value adds the token behind it. -/
theorem tokens_of_continue? {value : Tree} {stack : List Frame} {t : Token} {r : Reader}
    (h : continue? value stack t = some r) :
    r.tokens = stack.reverse.flatMap Frame.tokens ++ (value.tokens ++ [t]) := by
  unfold continue? at h
  split at h
  · obtain rfl := Option.some.inj h
    simp [Reader.tokens, Phase.tokens, Frame.tokens, precedingItems]
  · obtain rfl := Option.some.inj h
    simp [Reader.tokens, Phase.tokens, Frame.tokens, tokens_array_append]
  · obtain rfl := Option.some.inj h
    simp [Reader.tokens, Phase.tokens, Frame.tokens, precedingMembers]
  · obtain rfl := Option.some.inj h
    simp [Reader.tokens, Phase.tokens, Frame.tokens, tokens_object_append]
  · simp at h

/-- A step adds the token that it reads. -/
theorem tokens_of_step? {r s : Reader} {t : Token} (h : step? r t = some s) :
    s.tokens = r.tokens ++ [t] := by
  obtain ⟨phase, stack⟩ := r
  cases phase with
  | value => simpa [Reader.tokens, Phase.tokens] using tokens_of_begin? h
  | firstItem =>
      by_cases ht : t = .closeArray
      · subst ht
        obtain rfl := Option.some.inj h
        simp [Reader.tokens, Phase.tokens, Tree.tokens, firstItem]
      · rw [step?_firstItem ht] at h
        simpa [Reader.tokens, Phase.tokens, Frame.tokens, precedingItems] using tokens_of_begin? h
  | firstKey =>
      cases t <;> simp only [step?, Option.some.injEq, reduceCtorEq] at h <;> subst h <;>
        simp [Reader.tokens, Phase.tokens, Tree.tokens, firstMember, precedingMembers]
  | key members =>
      cases t <;> simp only [step?, Option.some.injEq, reduceCtorEq] at h
      subst h
      simp [Reader.tokens, Phase.tokens]
  | colon members name =>
      cases t <;> simp only [step?, Option.some.injEq, reduceCtorEq] at h
      subst h
      simp [Reader.tokens, Phase.tokens, Frame.tokens]
  | after u => simpa [Reader.tokens, Phase.tokens] using tokens_of_continue? h

/-- A run of steps adds the tokens that it reads. -/
theorem tokens_of_foldlM {r s : Reader} {ts : List Token} (h : ts.foldlM step? r = some s) :
    s.tokens = r.tokens ++ ts := by
  induction ts generalizing r with
  | nil =>
      obtain rfl := Option.some.inj h
      simp
  | cons t rest ih =>
      simp only [List.foldlM_cons, Option.bind_eq_bind, Option.bind_eq_some_iff] at h
      obtain ⟨q, hq, hs⟩ := h
      simp [ih hs, tokens_of_step? hq]

/-- What is read are the tokens of the tree that is given. -/
theorem eq_tokens_of_ofTokens? {ts : List Token} {t : Tree} (h : ofTokens? ts = some t) :
    ts = t.tokens := by
  simp only [ofTokens?, Option.bind_eq_some_iff] at h
  obtain ⟨⟨phase, stack⟩, hr, ht⟩ := h
  have hts := tokens_of_foldlM hr
  unfold result? at ht
  split at ht
  · rename_i heq
    obtain rfl := Option.some.inj ht
    simp_all [Reader.tokens, Phase.tokens, start]
  · simp at ht

/-- The reader accepts exactly the tokens of trees. -/
theorem ofTokens?_eq_some_iff {ts : List Token} {t : Tree} :
    ofTokens? ts = some t ↔ ts = t.tokens :=
  ⟨eq_tokens_of_ofTokens?, fun h => h ▸ ofTokens?_tokens t⟩

end GatewayAccess.Json.Tree
