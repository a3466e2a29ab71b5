import GatewayAccess.Json.Record
import Mathlib.Data.List.Forall2

/-! # Records are read field by field

`record?_object_eq_some_iff`: a record is read from an object exactly if each key of the object
stands for a text and each field has one value or none, whatever other members there are and in
whatever order. From an array it is read exactly if there is one item for each field
(`record?_array_eq_some_iff`).
-/

namespace GatewayAccess

/-- A list is read exactly if each of its items is. -/
theorem mapM_eq_some_iff {α β : Type} {f : α → Option β} {l : List α} {m : List β} :
    l.mapM f = some m ↔ List.Forall₂ (fun a b => f a = some b) l m := by
  induction l generalizing m with
  | nil =>
      rw [List.mapM_nil, List.forall₂_nil_left_iff, Option.pure_def, Option.some.injEq, eq_comm]
  | cons a rest ih =>
      simp only [List.mapM_cons, Option.bind_eq_bind, Option.bind_eq_some_iff, Option.pure_def,
        Option.some.injEq, List.forall₂_cons_left_iff, ih]
      constructor
      · rintro ⟨b, hb, bs, hbs, rfl⟩
        exact ⟨b, bs, hb, hbs, rfl⟩
      · rintro ⟨b, bs, hb, hbs, rfl⟩
        exact ⟨b, hb, bs, hbs, rfl⟩

namespace Json.Tree

variable {members : List (Option String × Tree)} {named : List (String × Tree)}
  {items : List Tree} {name : String} {names : List String} {values : List (Option Tree)}

/-- A string that stands for a text. -/
def IsText (t : Tree) : Prop := ∃ s : String, t = .string (some s)

theorem string?_eq_some_iff {t : Tree} {s : String} :
    t.string? = some s ↔ t = .string (some s) := by
  cases t with
  | string s' => rw [string?, string.injEq]
  | _ => exact ⟨(nomatch ·), (nomatch ·)⟩

/-- The values of the members with a key, in order. -/
def valuesAt (members : List (Option String × Tree)) (key : String) : List Tree :=
  (members.filter (·.1 = some key)).map (·.2)

/-- The members whose keys are the given texts. -/
def unkeyed (named : List (String × Tree)) : List (Option String × Tree) :=
  named.map fun m => (some m.1, m.2)

theorem keyed?_eq_some_iff : keyed? members = some named ↔ members = unkeyed named := by
  have hmember (m : Option String × Tree) (n : String × Tree) :
      m.1.map (·, m.2) = some n ↔ m = (some n.1, n.2) := by
    obtain ⟨_ | key, value⟩ := m
    · simp
    · simp [Prod.ext_iff]
  rw [keyed?, mapM_eq_some_iff, unkeyed, ← List.forall₂_eq_eq_eq, List.forall₂_map_right_iff]
  simp only [hmember]

/-- The keys are all read exactly if each stands for a text. -/
theorem exists_eq_unkeyed_iff : (∃ named, members = unkeyed named) ↔ ∀ m ∈ members, m.1 ≠ none := by
  constructor
  · rintro ⟨named, rfl⟩ m hm
    obtain ⟨n, -, rfl⟩ := List.mem_map.1 hm
    exact Option.some_ne_none _
  · intro h
    induction members with
    | nil => exact ⟨[], rfl⟩
    | cons m rest ih =>
        obtain ⟨hm, hrest⟩ := List.forall_mem_cons.1 h
        obtain ⟨named, rfl⟩ := ih hrest
        obtain ⟨key, hkey⟩ := Option.ne_none_iff_exists'.1 hm
        exact ⟨(key, m.2) :: named, by rw [unkeyed, unkeyed, List.map_cons, ← hkey]⟩

/-- A field is read exactly if there is at most one value for it. -/
theorem field?_eq_some_iff {value : Option Tree} :
    field? named name = some value ↔ valuesAt (unkeyed named) name = value.toList := by
  have hvalues : valuesAt (unkeyed named) name = (named.filter (·.1 = name)).map (·.2) := by
    rw [valuesAt, unkeyed, List.filter_map, List.map_map]
    simp only [Function.comp_def, Option.some.injEq]
  rw [hvalues, field?]
  generalize named.filter (·.1 = name) = found
  rcases found with _ | ⟨m, _ | ⟨m', rest⟩⟩
  · cases value <;> simp
  · cases value <;> simp
  · cases value <;> simp

theorem record?_array_eq_some_iff :
    record? names (.array items) = some values ↔
      items.length = names.length ∧ values = items.map some := by
  rw [record?, Option.ite_none_right_eq_some, Option.some.injEq, eq_comm (a := values)]

/-- An object is read as a record exactly if its keys stand for texts and no field has two
values. -/
theorem record?_object_eq_some_iff :
    record? names (.object members) = some values ↔
      (∀ m ∈ members, m.1 ≠ none) ∧
        List.Forall₂ (fun name value => valuesAt members name = value.toList) names values := by
  simp only [record?, Option.bind_eq_bind, Option.bind_eq_some_iff, keyed?_eq_some_iff,
    mapM_eq_some_iff, ← exists_eq_unkeyed_iff, field?_eq_some_iff]
  constructor
  · rintro ⟨named, rfl, hfields⟩
    exact ⟨⟨named, rfl⟩, hfields⟩
  · rintro ⟨⟨named, rfl⟩, hfields⟩
    exact ⟨named, rfl, hfields⟩

end Json.Tree

end GatewayAccess
