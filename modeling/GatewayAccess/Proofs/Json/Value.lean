import GatewayAccess.Grant
import GatewayAccess.Proofs.Json.Text
import GatewayAccess.SortedMap.Lemmas
import Mathlib.Data.List.Forall2

/-! # JSON values are read as they are written

`Json.reads_tree`: the tree of a value is read as the value, if each double in it is read back from
its numeral. A tree is read as a value as soon as the depth up to which containers are read is
enough for it: `Json.Reads`. Trees that are put together from others are read as the lists and maps
of what these are read as, so a text can be written in any order of members.
-/

namespace GatewayAccess

namespace Json

/-! ## Nesting -/

namespace Tree

mutual

/-- How deep containers are nested in a tree. -/
def depth : Tree → Nat
  | .null | .bool _ | .number _ | .string _ => 0
  | .array items => itemsDepth items + 1
  | .object members => membersDepth members + 1

/-- How deep containers are nested in the items of an array. -/
def itemsDepth : List Tree → Nat
  | [] => 0
  | t :: rest => max (depth t) (itemsDepth rest)

/-- How deep containers are nested in the members of an object. -/
def membersDepth : List (Option String × Tree) → Nat
  | [] => 0
  | (_, t) :: rest => max (depth t) (membersDepth rest)

end

end Tree

/-! ## Doubles -/

namespace Raw

mutual

/-- The doubles in a value. -/
def doubles : Raw → List Double
  | .number (.double x) => [x]
  | .null | .bool _ | .number _ | .string _ => []
  | .array items => itemDoubles items
  | .object members => memberDoubles members

/-- The doubles in the items of an array. -/
def itemDoubles : List Raw → List Double
  | [] => []
  | v :: rest => doubles v ++ itemDoubles rest

/-- The doubles in the members of an object. -/
def memberDoubles : List (String × Raw) → List Double
  | [] => []
  | (_, v) :: rest => doubles v ++ memberDoubles rest

end

end Raw

/-! ## Reading trees -/

/-- A tree is read as a value, unless its containers are nested too deep. -/
def Raw.Reads (t : Tree) (v : Raw) : Prop := ∀ depth, t.depth ≤ depth → Raw.ofTree? depth t = some v

namespace Raw

/-- Items are read as values one by one. -/
theorem ofItems?_eq_some {ts : List Tree} {vs : List Raw} (h : List.Forall₂ Reads ts vs)
    {depth : Nat} (hdepth : Tree.itemsDepth ts ≤ depth) : ofItems? depth ts = some vs := by
  induction h with
  | nil => rfl
  | cons hv _ ih =>
      rw [Tree.itemsDepth, Nat.max_le] at hdepth
      rw [ofItems?, hv depth hdepth.1, ih hdepth.2]
      rfl

/-- A member is read as an entry with its key. -/
def ReadsMember (m : Option String × Tree) (e : String × Raw) : Prop :=
  m.1 = some e.1 ∧ Reads m.2 e.2

/-- Members are read as entries one by one. -/
theorem ofMembers?_eq_some {ms : List (Option String × Tree)} {es : List (String × Raw)}
    (h : List.Forall₂ ReadsMember ms es) {depth : Nat} (hdepth : Tree.membersDepth ms ≤ depth) :
    ofMembers? depth ms = some es := by
  induction h with
  | nil => rfl
  | @cons m e _ _ he _ ih =>
      obtain ⟨key, t⟩ := m
      obtain ⟨rfl, hv⟩ := he
      rw [Tree.membersDepth, Nat.max_le] at hdepth
      rw [ofMembers?, hv depth hdepth.1, ih hdepth.2]
      rfl

theorem reads_array {ts : List Tree} {vs : List Raw} (h : List.Forall₂ Reads ts vs) :
    Reads (.array ts) (.array vs) := by
  intro depth hdepth
  cases depth with
  | zero => exact absurd hdepth (Nat.not_succ_le_zero _)
  | succ depth =>
      rw [ofTree?, ofItems?_eq_some h (Nat.le_of_succ_le_succ hdepth)]
      rfl

theorem reads_object {ms : List (Option String × Tree)} {es : List (String × Raw)}
    (h : List.Forall₂ ReadsMember ms es) : Reads (.object ms) (.object (ascendingEntries es)) := by
  intro depth hdepth
  cases depth with
  | zero => exact absurd hdepth (Nat.not_succ_le_zero _)
  | succ depth =>
      rw [ofTree?, ofMembers?_eq_some h (Nat.le_of_succ_le_succ hdepth)]
      rfl

/-! ## Reading what is written -/

mutual

/-- The tree of a value is read as the value, if its doubles are read back. -/
theorem reads_tree {v : Raw} (hcanonical : v.Canonical) (h : ∀ x ∈ v.doubles, x.ReadsBack) :
    Reads v.tree v := by
  cases v with
  | null => exact fun _ _ => rfl
  | bool b => exact fun _ _ => rfl
  | number n =>
      have hn : (Numeral.ofNumber n).number? = some n :=
        Numeral.number?_ofNumber fun x hx => h x (by rw [hx]; exact List.mem_singleton_self x)
      intro depth _
      rw [tree, ofTree?, hn]
      rfl
  | string s => exact fun _ _ => rfl
  | array items =>
      cases hcanonical with
      | array hitems => exact reads_array (forall₂_itemTrees hitems h)
  | object members =>
      cases hcanonical with
      | object hascending hmembers =>
          have hread := reads_object (forall₂_memberTrees hmembers h)
          rwa [hascending.ascendingEntries_eq] at hread

theorem forall₂_itemTrees {items : List Raw} (hcanonical : ∀ v ∈ items, v.Canonical)
    (h : ∀ x ∈ itemDoubles items, x.ReadsBack) : List.Forall₂ Reads (itemTrees items) items := by
  cases items with
  | nil => exact .nil
  | cons v items =>
      rw [itemDoubles, List.forall_mem_append] at h
      rw [List.forall_mem_cons] at hcanonical
      exact .cons (reads_tree hcanonical.1 h.1) (forall₂_itemTrees hcanonical.2 h.2)

theorem forall₂_memberTrees {members : List (String × Raw)}
    (hcanonical : ∀ m ∈ members, m.2.Canonical) (h : ∀ x ∈ memberDoubles members, x.ReadsBack) :
    List.Forall₂ ReadsMember (memberTrees members) members := by
  cases members with
  | nil => exact .nil
  | cons m members =>
      obtain ⟨key, v⟩ := m
      rw [memberDoubles, List.forall_mem_append] at h
      rw [List.forall_mem_cons] at hcanonical
      exact .cons ⟨rfl, reads_tree hcanonical.1 h.1⟩ (forall₂_memberTrees hcanonical.2 h.2)

end

end Raw

/-! ## Values put together -/

/-- The value of a text. -/
def ofText (s : String) : Json := ⟨.string s, .string s⟩

/-- The array of some values. -/
def ofList (vs : List Json) : Json :=
  ⟨.array (vs.map Json.raw), .array fun v hv => by
    obtain ⟨w, -, rfl⟩ := List.mem_map.1 hv
    exact w.canonical⟩

/-- The object with the members of a map. -/
def ofMap (m : SortedMap Json) : Json :=
  ⟨.object (m.map Json.raw).entries, .object (m.map Json.raw).ascending fun e he => by
    obtain ⟨f, -, rfl⟩ := List.mem_map.1 he
    exact f.2.canonical⟩

/-- A tree is read as a value, unless its containers are nested too deep. -/
def Reads (t : Tree) (v : Json) : Prop := Raw.Reads t v.raw

/-- A tree that is read as a value is read from its text, too. -/
theorem read?_text {t : Tree} {v : Json} (h : Reads t v) (hdepth : t.depth ≤ depthLimit) :
    read? t.text = some v := by
  rw [read?, Tree.read?_text, Option.bind_some, ofTree?]
  split
  · rename_i w hw
    rw [h depthLimit hdepth, Option.some.injEq] at hw
    exact congrArg some (Json.ext hw.symm)
  · rename_i hnone
    rw [h depthLimit hdepth] at hnone
    cases hnone

/-- A tree is read as one value at most. -/
theorem Reads.unique {t : Tree} {v w : Json} (hv : Reads t v) (hw : Reads t w) : v = w := by
  have heq := hv t.depth (Nat.le_refl _)
  rw [hw t.depth (Nat.le_refl _), Option.some.injEq] at heq
  exact Json.ext heq.symm

theorem reads_ofText (s : String) : Reads (.string (some s)) (ofText s) := fun _ _ => rfl

theorem reads_ofList {ts : List Tree} {vs : List Json} (h : List.Forall₂ Reads ts vs) :
    Reads (.array ts) (ofList vs) :=
  Raw.reads_array (List.forall₂_map_right_iff.2 h)

/-- A member is read as an entry with its key. -/
def ReadsMember (m : Option String × Tree) (e : String × Json) : Prop :=
  m.1 = some e.1 ∧ Reads m.2 e.2

/-- Members are read as the map that they leave when they are written in order. -/
theorem reads_ofMap {ms : List (Option String × Tree)} {es : List (String × Json)}
    (h : List.Forall₂ ReadsMember ms es) : Reads (.object ms) (ofMap (SortedMap.ofList es)) := by
  have hread : Raw.Reads (.object ms)
      (.object (ascendingEntries (es.map fun e => (e.1, e.2.raw)))) :=
    Raw.reads_object (List.forall₂_map_right_iff.2 h)
  rwa [ascendingEntries_map] at hread

/-- The tree of a map is read as the map of what the trees of its values are read as. -/
theorem reads_sortedMapTree {α : Type} {m : SortedMap α} {valueTree : α → Tree} {value : α → Json}
    (h : ∀ e ∈ m.entries, Reads (valueTree e.2) (value e.2)) :
    Reads (m.tree valueTree) (ofMap (m.map value)) := by
  have hentries : List.Forall₂ ReadsMember (m.entries.map fun e => (some e.1, valueTree e.2))
      (m.map value).entries := by
    rw [SortedMap.map, List.forall₂_map_left_iff, List.forall₂_map_right_iff]
    exact List.forall₂_same.2 fun e he => ⟨rfl, h e he⟩
  have hread := reads_ofMap hentries
  rwa [SortedMap.ofList_entries] at hread

theorem reads_tree {v : Json} (h : ∀ x ∈ v.raw.doubles, x.ReadsBack) : Reads v.tree v :=
  Raw.reads_tree v.canonical h

end Json

end GatewayAccess
