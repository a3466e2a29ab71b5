import GatewayAccess.Json.Number
import GatewayAccess.Json.Tree
import GatewayAccess.SortedMap

/-! # JSON values

JSON data apart from its text: numbers instead of numerals, and objects as maps. `Raw` is the plain
recursive type, in which an object is a list of members; a `Json` is a raw value with all members
ascending by key, so equal objects are equal values. Reading sorts the members, and the last of
several members with one key stands.
-/

namespace GatewayAccess

/-- JSON data without regard to the order and repetition of members. -/
inductive Json.Raw where
  | null
  | bool (b : Bool)
  | number (n : Json.Number)
  | string (s : String)
  | array (items : List Json.Raw)
  | object (members : List (String × Json.Raw))

namespace Json.Raw

/-- Every object lists its members in ascending order. -/
inductive Canonical : Raw → Prop where
  | null : Canonical .null
  | bool (b : Bool) : Canonical (.bool b)
  | number (n : Number) : Canonical (.number n)
  | string (s : String) : Canonical (.string s)
  | array {items : List Raw} : (∀ v ∈ items, Canonical v) → Canonical (.array items)
  | object {members : List (String × Raw)} :
      Ascending members → (∀ m ∈ members, Canonical m.2) → Canonical (.object members)

theorem Canonical.of_mem_object {members : List (String × Raw)} (h : Canonical (.object members))
    {m : String × Raw} (hm : m ∈ members) : Canonical m.2 := by
  cases h with
  | object _ hall => exact hall m hm

theorem Canonical.ascending {members : List (String × Raw)} (h : Canonical (.object members)) :
    Ascending members := by
  cases h with
  | object hasc _ => exact hasc

mutual

/-- The same data; numbers are compared by kind and value. -/
def same : Raw → Raw → Bool
  | .null, .null => true
  | .bool a, .bool b => a == b
  | .number m, .number n => m == n
  | .string s, .string t => s == t
  | .array xs, .array ys => sameItems xs ys
  | .object xs, .object ys => sameMembers xs ys
  | _, _ => false

/-- The same items in order. -/
def sameItems : List Raw → List Raw → Bool
  | [], [] => true
  | x :: xs, y :: ys => same x y && sameItems xs ys
  | _, _ => false

/-- The same members in order. -/
def sameMembers : List (String × Raw) → List (String × Raw) → Bool
  | [], [] => true
  | (k, x) :: xs, (l, y) :: ys => k == l && same x y && sameMembers xs ys
  | _, _ => false

end

mutual

/-- The tree of a value. -/
def tree : Raw → Tree
  | .null => .null
  | .bool b => .bool b
  | .number n => .number (.ofNumber n)
  | .string s => .string (some s)
  | .array items => .array (itemTrees items)
  | .object members => .object (memberTrees members)

/-- The trees of the items of an array. -/
def itemTrees : List Raw → List Tree
  | [] => []
  | v :: rest => tree v :: itemTrees rest

/-- The trees of the members of an object. -/
def memberTrees : List (String × Raw) → List (Option String × Tree)
  | [] => []
  | (key, v) :: rest => (some key, tree v) :: memberTrees rest

end

mutual

/-- The value of a tree whose containers are nested at most `depth` deep; `none` if they are deeper,
if a literal stands for no text, or if a numeral is too large. -/
def ofTree? (depth : Nat) : Tree → Option Raw
  | .null => some .null
  | .bool b => some (.bool b)
  | .number n => n.number?.map .number
  | .string s => s.map .string
  | .array items =>
      match depth with
      | 0 => none
      | depth + 1 => (ofItems? depth items).map .array
  | .object members =>
      match depth with
      | 0 => none
      | depth + 1 => (ofMembers? depth members).map fun ms => .object (ascendingEntries ms)

/-- The values of the items of an array. -/
def ofItems? (depth : Nat) : List Tree → Option (List Raw)
  | [] => some []
  | t :: rest => do
      let v ← ofTree? depth t
      return v :: (← ofItems? depth rest)

/-- The members of an object as they are written. -/
def ofMembers? (depth : Nat) : List (Option String × Tree) → Option (List (String × Raw))
  | [] => some []
  | (key, t) :: rest => do
      let key ← key
      let v ← ofTree? depth t
      return (key, v) :: (← ofMembers? depth rest)

end

mutual

/-- Values that are read have ascending members. -/
theorem canonical_of_ofTree? {depth : Nat} {t : Tree} {v : Raw} (h : ofTree? depth t = some v) :
    v.Canonical := by
  cases t with
  | null => simp only [ofTree?, Option.some.injEq] at h; exact h ▸ .null
  | bool b => simp only [ofTree?, Option.some.injEq] at h; exact h ▸ .bool b
  | number n =>
      simp only [ofTree?, Option.map_eq_some_iff] at h
      obtain ⟨m, -, rfl⟩ := h
      exact .number m
  | string s =>
      simp only [ofTree?, Option.map_eq_some_iff] at h
      obtain ⟨s, -, rfl⟩ := h
      exact .string s
  | array items =>
      cases depth with
      | zero => simp [ofTree?] at h
      | succ depth =>
          simp only [ofTree?, Option.map_eq_some_iff] at h
          obtain ⟨vs, hvs, rfl⟩ := h
          exact .array (canonical_of_ofItems? hvs)
  | object members =>
      cases depth with
      | zero => simp [ofTree?] at h
      | succ depth =>
          simp only [ofTree?, Option.map_eq_some_iff] at h
          obtain ⟨ms, hms, rfl⟩ := h
          exact .object (ascending_ascendingEntries ms) fun m hm =>
            canonical_of_ofMembers? hms m (mem_of_mem_ascendingEntries hm)

theorem canonical_of_ofItems? {depth : Nat} {ts : List Tree} {vs : List Raw}
    (h : ofItems? depth ts = some vs) : ∀ v ∈ vs, v.Canonical := by
  cases ts with
  | nil =>
      simp only [ofItems?, Option.some.injEq] at h
      subst h
      simp
  | cons t rest =>
      simp only [ofItems?, Option.bind_eq_bind, Option.bind_eq_some_iff, Option.pure_def] at h
      obtain ⟨v, hv, vs', hvs', he⟩ := h
      obtain rfl := Option.some.inj he
      intro w hw
      rcases List.mem_cons.1 hw with rfl | hw
      · exact canonical_of_ofTree? hv
      · exact canonical_of_ofItems? hvs' w hw

theorem canonical_of_ofMembers? {depth : Nat} {ts : List (Option String × Tree)}
    {ms : List (String × Raw)} (h : ofMembers? depth ts = some ms) : ∀ m ∈ ms, m.2.Canonical := by
  cases ts with
  | nil =>
      simp only [ofMembers?, Option.some.injEq] at h
      subst h
      simp
  | cons t rest =>
      obtain ⟨key, t⟩ := t
      simp only [ofMembers?, Option.bind_eq_bind, Option.bind_eq_some_iff, Option.pure_def] at h
      obtain ⟨k, -, v, hv, ms', hms', he⟩ := h
      obtain rfl := Option.some.inj he
      intro w hw
      rcases List.mem_cons.1 hw with rfl | hw
      · exact canonical_of_ofTree? hv
      · exact canonical_of_ofMembers? hms' w hw

end

end Json.Raw

/-- A JSON value: data with the members of every object ascending by key. -/
@[ext]
structure Json where
  raw : Json.Raw
  canonical : raw.Canonical

namespace Json

instance : BEq Json := ⟨fun a b => a.raw.same b.raw⟩

/-- Values are read with at most this many containers inside one another. -/
def depthLimit : Nat := 127

/-- The value of a tree. -/
def ofTree? (t : Tree) : Option Json :=
  match h : Raw.ofTree? depthLimit t with
  | some v => some ⟨v, Raw.canonical_of_ofTree? h⟩
  | none => none

/-- The value of a text. -/
def read? (text : String) : Option Json := (Tree.read? text).bind ofTree?

/-- The tree of a value. -/
def tree (v : Json) : Tree := v.raw.tree

/-- The compact text of a value. -/
def text (v : Json) : String := v.tree.text

/-- The members of an object with a proof for each that it is a value. -/
def membersOf (members : List (String × Raw)) (h : Raw.Canonical (.object members)) :
    List (String × Json) :=
  members.attach.map fun m => (m.1.1, ⟨m.1.2, h.of_mem_object m.2⟩)

/-- The members of an object. -/
def object? (v : Json) : Option (SortedMap Json) :=
  match v with
  | ⟨.object members, h⟩ =>
      some ⟨membersOf members h, by
        unfold Ascending membersOf
        rw [List.pairwise_map]
        have hasc := h.ascending
        unfold Ascending at hasc
        rw [← List.attach_map_subtype_val members, List.pairwise_map] at hasc
        exact hasc⟩
  | _ => none

/-- The items of an array. -/
def array? (v : Json) : Option (List Json) :=
  match v with
  | ⟨.array items, h⟩ =>
      some (items.attach.map fun x => ⟨x.1, by
        cases h with
        | array hall => exact hall x.1 x.2⟩)
  | _ => none

/-- The text of a string. -/
def string? (v : Json) : Option String :=
  match v.raw with
  | .string s => some s
  | _ => none

end Json

end GatewayAccess
