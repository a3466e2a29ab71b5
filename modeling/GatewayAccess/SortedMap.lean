/-! # Finite maps with text keys in byte order

A map is the list of its entries, strictly ascending by the UTF-8 bytes of the keys, so two maps
with the same entries are the same value and writing a map out needs no further order.
-/

namespace GatewayAccess

/-- The UTF-8 bytes of a key, by which keys are ordered. -/
def keyBytes (key : String) : List UInt8 := key.toByteArray.data.toList

/-- One key comes before another when its bytes do, a proper initial part first. -/
def KeyBefore (a b : String) : Prop := keyBytes a < keyBytes b

instance : DecidableRel KeyBefore := fun a b =>
  inferInstanceAs (Decidable (keyBytes a < keyBytes b))

theorem keyBytes_injective {a b : String} (h : keyBytes a = keyBytes b) : a = b :=
  String.toByteArray_inj.1 (ByteArray.ext (Array.toList_inj.1 h))

theorem KeyBefore.irrefl (a : String) : ¬ KeyBefore a a := List.lt_irrefl (keyBytes a)

theorem KeyBefore.trans {a b c : String} (hab : KeyBefore a b) (hbc : KeyBefore b c) :
    KeyBefore a c :=
  List.lt_trans hab hbc

/-- Of two different keys one comes before the other. -/
theorem keyBefore_of_not {a b : String} (hab : ¬ KeyBefore a b) (hne : a ≠ b) : KeyBefore b a := by
  refine Classical.byContradiction fun hba => hne (keyBytes_injective ?_)
  exact List.le_antisymm (List.not_lt.1 hba) (List.not_lt.1 hab)

variable {α β : Type}

/-- Entries ascend strictly by key. -/
def Ascending (entries : List (String × α)) : Prop :=
  entries.Pairwise fun a b => KeyBefore a.1 b.1

/-- Puts an entry at its place in ascending entries, over an older entry of the same key. -/
def insertEntry (key : String) (value : α) : List (String × α) → List (String × α)
  | [] => [(key, value)]
  | (k, v) :: rest =>
      if KeyBefore key k then (key, value) :: (k, v) :: rest
      else if key = k then (key, value) :: rest
      else (k, v) :: insertEntry key value rest

/-- An inserted entry list holds nothing but the new entry and old ones. -/
theorem mem_of_mem_insertEntry {key : String} {value : α} {entries : List (String × α)}
    {e : String × α} (h : e ∈ insertEntry key value entries) :
    e = (key, value) ∨ e ∈ entries := by
  induction entries with
  | nil => simpa [insertEntry] using h
  | cons head rest ih =>
      obtain ⟨k, v⟩ := head
      simp only [insertEntry] at h
      split at h
      · simpa using h
      · split at h
        · rcases List.mem_cons.1 h with h | h
          · exact .inl h
          · exact .inr (List.mem_cons_of_mem _ h)
        · rcases List.mem_cons.1 h with h | h
          · exact .inr (h ▸ List.mem_cons_self)
          · exact (ih h).imp id (List.mem_cons_of_mem _)

/-- Inserting keeps entries ascending. -/
theorem Ascending.insertEntry {key : String} {value : α} {entries : List (String × α)}
    (h : Ascending entries) : Ascending (insertEntry key value entries) := by
  induction entries with
  | nil => exact List.pairwise_singleton _ _
  | cons head rest ih =>
      obtain ⟨k, v⟩ := head
      have hrest : Ascending rest := (List.pairwise_cons.1 h).2
      have hhead := (List.pairwise_cons.1 h).1
      simp only [GatewayAccess.insertEntry]
      split
      · rename_i hlt
        refine List.pairwise_cons.2 ⟨fun e he => ?_, h⟩
        rcases List.mem_cons.1 he with rfl | he
        · exact hlt
        · exact hlt.trans (hhead e he)
      · split
        · rename_i heq
          subst heq
          exact List.pairwise_cons.2 ⟨hhead, hrest⟩
        · rename_i hlt hne
          refine List.pairwise_cons.2 ⟨fun e he => ?_, ih hrest⟩
          rcases mem_of_mem_insertEntry he with rfl | he
          · exact keyBefore_of_not hlt hne
          · exact hhead e he

/-- The ascending entries of a sequence of writes; the last write to a key stands. -/
def ascendingEntries (writes : List (String × α)) : List (String × α) :=
  writes.foldl (fun entries w => insertEntry w.1 w.2 entries) []

theorem ascending_ascendingEntries (writes : List (String × α)) :
    Ascending (ascendingEntries writes) := by
  have go : ∀ (ws : List (String × α)) (entries : List (String × α)), Ascending entries →
      Ascending (ws.foldl (fun entries w => insertEntry w.1 w.2 entries) entries) := by
    intro ws
    induction ws with
    | nil => exact fun _ h => h
    | cons w ws ih => exact fun entries h => ih _ h.insertEntry
  exact go writes [] List.Pairwise.nil

/-- The entries of a sequence of writes are among the writes. -/
theorem mem_of_mem_ascendingEntries {writes : List (String × α)} {e : String × α}
    (h : e ∈ ascendingEntries writes) : e ∈ writes := by
  have go : ∀ (ws entries : List (String × α)),
      e ∈ ws.foldl (fun entries w => insertEntry w.1 w.2 entries) entries →
        e ∈ ws ∨ e ∈ entries := by
    intro ws
    induction ws with
    | nil => exact fun _ h => .inr h
    | cons w ws ih =>
        intro entries h
        rcases ih _ h with h | h
        · exact .inl (List.mem_cons_of_mem _ h)
        · rcases mem_of_mem_insertEntry h with rfl | h
          · exact .inl List.mem_cons_self
          · exact .inr h
  rcases go writes [] h with h | h
  · exact h
  · simp at h

/-- A finite map from texts, its entries ascending by the bytes of the keys. -/
@[ext]
structure SortedMap (α : Type) where
  /-- The entries in order. -/
  entries : List (String × α)
  ascending : Ascending entries

namespace SortedMap

/-- The map without entries. -/
def empty : SortedMap α := ⟨[], List.Pairwise.nil⟩

instance : EmptyCollection (SortedMap α) := ⟨empty⟩

instance [BEq α] : BEq (SortedMap α) := ⟨fun a b => a.entries == b.entries⟩

/-- Sets the value of a key. -/
def insert (m : SortedMap α) (key : String) (value : α) : SortedMap α :=
  ⟨insertEntry key value m.entries, m.ascending.insertEntry⟩

/-- The map that a sequence of writes leaves; the last write to a key stands. -/
def ofList (writes : List (String × α)) : SortedMap α :=
  ⟨ascendingEntries writes, ascending_ascendingEntries writes⟩

/-- The value of a key. -/
def get? (m : SortedMap α) (key : String) : Option α := m.entries.lookup key

/-- Whether there is no entry. -/
def isEmpty (m : SortedMap α) : Bool := m.entries.isEmpty

/-- Applies a function to every value. -/
def map (f : α → β) (m : SortedMap α) : SortedMap β :=
  ⟨m.entries.map fun e => (e.1, f e.2), by
    unfold Ascending
    rw [List.pairwise_map]
    exact m.ascending⟩

/-- Applies a function that may fail to every value; fails if one value does. -/
def mapM? (f : α → Option β) (m : SortedMap α) : Option (SortedMap β) :=
  (m.entries.mapM fun e => (f e.2).map (e.1, ·)).map ofList

end SortedMap

end GatewayAccess
