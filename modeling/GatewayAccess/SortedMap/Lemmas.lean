import GatewayAccess.SortedMap

/-! # Sorted maps by their values

A map is seen through `get?`. `get?_insert` says what an insertion does to that view, and
`SortedMap.ext_get?` says that nothing else is in a map.
-/

namespace GatewayAccess

variable {α β : Type}

/-- The first entry answers for its key, the others for all other keys. -/
theorem lookup_cons_eq (entry : String × α) (rest : List (String × α)) (k : String) :
    (entry :: rest).lookup k = if k = entry.1 then some entry.2 else rest.lookup k := by
  rw [List.lookup_cons]
  by_cases h : k = entry.1
  · simp [h]
  · simp [h, beq_eq_false_iff_ne.2 h]

/-- An insertion sets the value of its key and no other. -/
theorem lookup_insertEntry (key : String) (value : α) (entries : List (String × α)) (k : String) :
    (insertEntry key value entries).lookup k =
      if k = key then some value else entries.lookup k := by
  induction entries with
  | nil => rw [insertEntry, lookup_cons_eq]
  | cons head rest ih =>
      obtain ⟨l, v⟩ := head
      simp only [insertEntry]
      split
      · rw [lookup_cons_eq]
      · split
        · rename_i heq
          subst heq
          simp only [lookup_cons_eq]
          split <;> rfl
        · rename_i hne
          simp only [lookup_cons_eq, ih]
          by_cases h : k = l
          · subst h
            simp [Ne.symm hne]
          · simp [h]

/-- A key with a value has an entry. -/
theorem mem_of_lookup_eq_some {entries : List (String × α)} {k : String} {v : α}
    (h : entries.lookup k = some v) : (k, v) ∈ entries := by
  induction entries with
  | nil => simp at h
  | cons head rest ih =>
      obtain ⟨l, w⟩ := head
      rw [lookup_cons_eq] at h
      split at h
      · rename_i hk
        simp_all
      · exact List.mem_cons_of_mem _ (ih h)

/-- In ascending entries the key of the head is in no other entry. -/
theorem Ascending.lookup_tail {k : String} {v : α} {rest : List (String × α)}
    (h : Ascending ((k, v) :: rest)) : rest.lookup k = none := by
  refine Option.eq_none_iff_forall_ne_some.2 fun w hw => ?_
  exact KeyBefore.irrefl k ((List.pairwise_cons.1 h).1 _ (mem_of_lookup_eq_some hw))

/-- Ascending entries give each key the value of its entry. -/
theorem Ascending.lookup_eq_some_iff {entries : List (String × α)} {k : String} {v : α}
    (h : Ascending entries) : entries.lookup k = some v ↔ (k, v) ∈ entries := by
  refine ⟨mem_of_lookup_eq_some, fun hmem => ?_⟩
  induction entries with
  | nil => exact absurd hmem List.not_mem_nil
  | cons head rest ih =>
      obtain ⟨hhead, hrest⟩ := List.pairwise_cons.1 h
      rw [lookup_cons_eq]
      rcases List.mem_cons.1 hmem with rfl | hmem
      · exact if_pos rfl
      · have hbefore : KeyBefore head.1 k := hhead _ hmem
        have hne : k ≠ head.1 := fun heq => KeyBefore.irrefl head.1 (heq ▸ hbefore)
        rw [if_neg hne]
        exact ih hrest hmem

/-- The key of the head comes first among the keys with a value. -/
theorem Ascending.eq_or_keyBefore {k l : String} {v w : α} {rest : List (String × α)}
    (h : Ascending ((k, v) :: rest)) (hl : ((k, v) :: rest).lookup l = some w) :
    l = k ∨ KeyBefore k l := by
  rcases List.mem_cons.1 (mem_of_lookup_eq_some hl) with he | he
  · exact .inl (Prod.mk.inj he).1
  · exact .inr ((List.pairwise_cons.1 h).1 _ he)

/-- Ascending entries with the same values are the same. -/
theorem Ascending.eq_of_lookup_eq {a b : List (String × α)} (ha : Ascending a) (hb : Ascending b)
    (h : ∀ k, a.lookup k = b.lookup k) : a = b := by
  induction a generalizing b with
  | nil =>
      cases b with
      | nil => rfl
      | cons head rest =>
          have hk := h head.1
          simp [lookup_cons_eq] at hk
  | cons head rest ih =>
      obtain ⟨k, v⟩ := head
      cases b with
      | nil =>
          have hk := h k
          simp at hk
      | cons head' rest' =>
          obtain ⟨l, w⟩ := head'
          have hk := h k
          have hl := h l
          simp only [List.lookup_cons_self] at hk hl
          have hkl : k = l := by
            rcases hb.eq_or_keyBefore hk.symm with he | hlt
            · exact he
            · rcases ha.eq_or_keyBefore hl with he | hgt
              · exact he.symm
              · exact absurd (hlt.trans hgt) (KeyBefore.irrefl l)
          subst hkl
          simp only [List.lookup_cons_self, Option.some.injEq] at hk
          subst hk
          congr 1
          refine ih (List.pairwise_cons.1 ha).2 (List.pairwise_cons.1 hb).2 fun m => ?_
          by_cases hm : m = k
          · subst hm
            rw [ha.lookup_tail, hb.lookup_tail]
          · simpa [lookup_cons_eq, hm] using h m

/-! ## Writes in order -/

/-- An entry behind all others is put at the end. -/
theorem insertEntry_of_forall_before {key : String} {value : α} {entries : List (String × α)}
    (h : ∀ e ∈ entries, KeyBefore e.1 key) :
    insertEntry key value entries = entries ++ [(key, value)] := by
  induction entries with
  | nil => rfl
  | cons head rest ih =>
      obtain ⟨k, v⟩ := head
      have hk : KeyBefore k key := h _ List.mem_cons_self
      have hnot : ¬ KeyBefore key k := fun hlt => KeyBefore.irrefl _ (hlt.trans hk)
      have hne : key ≠ k := fun heq => KeyBefore.irrefl k (heq ▸ hk)
      rw [insertEntry, if_neg hnot, if_neg hne, ih fun e he => h e (List.mem_cons_of_mem _ he),
        List.cons_append]

/-- Writes in ascending order are the entries that they leave. -/
theorem Ascending.ascendingEntries_eq {entries : List (String × α)} (h : Ascending entries) :
    ascendingEntries entries = entries := by
  have go : ∀ writes before : List (String × α), Ascending (before ++ writes) →
      writes.foldl (fun entries w => GatewayAccess.insertEntry w.1 w.2 entries) before =
        before ++ writes := by
    intro writes
    induction writes with
    | nil => exact fun before _ => (List.append_nil before).symm
    | cons w writes ih =>
        intro before h
        have hbefore : ∀ e ∈ before, KeyBefore e.1 w.1 := fun e he =>
          (List.pairwise_append.1 h).2.2 e he w List.mem_cons_self
        rw [List.append_cons] at h
        rw [List.foldl_cons, insertEntry_of_forall_before hbefore, ih _ h, ← List.append_cons]
  exact go entries [] h

/-- Values may be mapped before they are inserted or after. -/
theorem insertEntry_map (f : α → β) (key : String) (value : α) (entries : List (String × α)) :
    insertEntry key (f value) (entries.map fun e => (e.1, f e.2)) =
      (insertEntry key value entries).map fun e => (e.1, f e.2) := by
  induction entries with
  | nil => rfl
  | cons head rest ih =>
      obtain ⟨k, v⟩ := head
      simp only [List.map_cons, insertEntry, ih]
      split
      · rfl
      · split <;> rfl

/-- Values may be mapped before they are written or after. -/
theorem ascendingEntries_map (f : α → β) (writes : List (String × α)) :
    ascendingEntries (writes.map fun e => (e.1, f e.2)) =
      (ascendingEntries writes).map fun e => (e.1, f e.2) := by
  have go : ∀ ws entries : List (String × α),
      (ws.map fun e => (e.1, f e.2)).foldl (fun entries w => insertEntry w.1 w.2 entries)
          (entries.map fun e => (e.1, f e.2)) =
        (ws.foldl (fun entries w => insertEntry w.1 w.2 entries) entries).map
          fun e => (e.1, f e.2) := by
    intro ws
    induction ws with
    | nil => exact fun _ => rfl
    | cons w ws ih =>
        intro entries
        rw [List.map_cons, List.foldl_cons, List.foldl_cons, insertEntry_map f w.1 w.2, ih]
  exact go writes []

namespace SortedMap

/-- The entries of a map, written in order, give the map. -/
theorem ofList_entries (m : SortedMap α) : ofList m.entries = m :=
  SortedMap.ext m.ascending.ascendingEntries_eq

theorem map_id (m : SortedMap α) : m.map id = m := SortedMap.ext (List.map_id m.entries)

@[simp] theorem get?_emptyCollection (k : String) : (∅ : SortedMap α).get? k = none := rfl

/-- A map with a value for a key has an entry. -/
theorem isEmpty_eq_false_of_get? {m : SortedMap α} {k : String} {v : α} (h : m.get? k = some v) :
    m.isEmpty = false := by
  rw [isEmpty, List.isEmpty_eq_false_iff]
  exact List.ne_nil_of_mem (mem_of_lookup_eq_some h)

/-- The entries of a map are its keys with their values. -/
theorem mem_entries_iff {m : SortedMap α} {k : String} {v : α} :
    (k, v) ∈ m.entries ↔ m.get? k = some v :=
  m.ascending.lookup_eq_some_iff.symm

/-- An insertion sets the value of its key and no other. -/
theorem get?_insert (m : SortedMap α) (key : String) (value : α) (k : String) :
    (m.insert key value).get? k = if k = key then some value else m.get? k :=
  lookup_insertEntry key value m.entries k

/-- Maps with the same values are the same. -/
theorem ext_get? {m n : SortedMap α} (h : ∀ k, m.get? k = n.get? k) : m = n :=
  SortedMap.ext (m.ascending.eq_of_lookup_eq n.ascending h)

/-- Mapping the values of a map maps the value of each key. -/
theorem get?_map (f : α → β) (m : SortedMap α) (k : String) :
    (m.map f).get? k = (m.get? k).map f := by
  obtain ⟨entries, h⟩ := m
  simp only [map, get?]
  clear h
  induction entries with
  | nil => rfl
  | cons head rest ih =>
      simp only [List.map_cons, lookup_cons_eq, ih]
      split <;> rfl

end SortedMap

end GatewayAccess
