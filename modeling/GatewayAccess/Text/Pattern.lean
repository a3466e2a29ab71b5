/-! # Patterns

Regular expressions with the few signs that a grammar of names needs: `^` and `$` hold the ends of
the text, brackets stand for one character of a set, and `+` lets what is before it occur more than
once. `Pattern.read?` reads a pattern as it is written down, `Pattern.Matches` says which stretch of
a text matches it, and `Pattern.FoundIn` that some stretch does. A pattern that holds both ends is
found just if it matches the whole text: `Pattern.foundIn_anchored_iff`.
-/

namespace GatewayAccess

/-- The characters from one to another. -/
structure CharRange where
  first : Char
  last : Char
deriving DecidableEq, Repr

/-- A set of characters, as ranges. -/
abbrev CharSet := List CharRange

namespace CharSet

/-- The ranges of a set as it is written: a hyphen between two characters makes a range of them, any
other character stands for itself. -/
def ofChars : List Char → CharSet
  | first :: '-' :: last :: rest => ⟨first, last⟩ :: ofChars rest
  | c :: rest => ⟨c, c⟩ :: ofChars rest
  | [] => []

/-- A character is in some range of the set. -/
def Holds (s : CharSet) (c : Char) : Prop := ∃ r ∈ s, r.first ≤ c ∧ c ≤ r.last

end CharSet

/-- A pattern for stretches of a text. -/
inductive Pattern where
  /-- The empty stretch. -/
  | nothing
  /-- The empty stretch at the beginning of the text. -/
  | start
  /-- The empty stretch at the end of the text. -/
  | finish
  /-- One character of a set. -/
  | oneOf (s : CharSet)
  /-- One stretch or more, one behind the other. -/
  | repeated (p : Pattern)
  /-- A stretch and another behind it. -/
  | followed (p q : Pattern)
deriving DecidableEq, Repr

namespace Pattern

/-! ## From text to patterns -/

/-- The reader of a pattern between two characters: the parts that are complete, latest first, and
the characters of the set that is open, latest first. -/
structure Reader where
  parts : List Pattern
  inside : Option (List Char)

namespace Reader

/-- The reader before the first character. -/
def begin : Reader := ⟨[], none⟩

/-- Reads one character. Signs that are not part of this small language are turned down, in a set
those that would mean more than themselves. -/
def step? (r : Reader) (c : Char) : Option Reader :=
  match r.inside with
  | some cs =>
      if c = ']' then some ⟨.oneOf (.ofChars cs.reverse) :: r.parts, none⟩
      else if c ∈ ['^', '[', '\\', '&', '~'] then none
      else some ⟨r.parts, some (c :: cs)⟩
  | none =>
      match c, r.parts with
      | '^', parts => some ⟨.start :: parts, none⟩
      | '$', parts => some ⟨.finish :: parts, none⟩
      | '[', parts => some ⟨parts, some []⟩
      | '+', p :: parts => some ⟨.repeated p :: parts, none⟩
      | _, _ => none

/-- The pattern that has been read, if no set is open. -/
def result? (r : Reader) : Option Pattern :=
  match r.inside with
  | some _ => none
  | none => some (r.parts.foldl (fun p part => .followed part p) .nothing)

end Reader

/-- The pattern of a text. -/
def read? (text : String) : Option Pattern :=
  (text.toList.foldlM Reader.step? .begin).bind (·.result?)

/-! ## From patterns to texts -/

/-- `p.Matches before inside after`: in the text made of the three, the middle one matches. -/
inductive Matches : Pattern → List Char → List Char → List Char → Prop
  | nothing {before after : List Char} : Matches .nothing before [] after
  | start {after : List Char} : Matches .start [] [] after
  | finish {before : List Char} : Matches .finish before [] []
  | oneOf {s : CharSet} {c : Char} {before after : List Char} (hc : s.Holds c) :
      Matches (.oneOf s) before [c] after
  | once {p : Pattern} {before inside after : List Char} (h : Matches p before inside after) :
      Matches (.repeated p) before inside after
  | again {p : Pattern} {before xs ys after : List Char} (h : Matches p before xs (ys ++ after))
      (hrest : Matches (.repeated p) (before ++ xs) ys after) :
      Matches (.repeated p) before (xs ++ ys) after
  | followed {p q : Pattern} {before xs ys after : List Char}
      (hp : Matches p before xs (ys ++ after)) (hq : Matches q (before ++ xs) ys after) :
      Matches (.followed p q) before (xs ++ ys) after

/-- The whole text matches. -/
def MatchesAll (p : Pattern) (text : String) : Prop := p.Matches [] text.toList []

/-- Some stretch of the text matches. -/
def FoundIn (p : Pattern) (text : String) : Prop :=
  ∃ before inside after, text.toList = before ++ (inside ++ after) ∧ p.Matches before inside after

variable {p q : Pattern} {before inside after : List Char}

theorem matches_start_iff : start.Matches before inside after ↔ before = [] ∧ inside = [] := by
  constructor
  · rintro ⟨⟩
    exact ⟨rfl, rfl⟩
  · rintro ⟨rfl, rfl⟩
    exact .start

theorem matches_followed_iff :
    (followed p q).Matches before inside after ↔
      ∃ xs ys, inside = xs ++ ys ∧ p.Matches before xs (ys ++ after) ∧
        q.Matches (before ++ xs) ys after := by
  constructor
  · intro h
    cases h with
    | followed hp hq => exact ⟨_, _, rfl, hp, hq⟩
  · rintro ⟨xs, ys, rfl, hp, hq⟩
    exact .followed hp hq

/-- Behind the end of the text there is nothing. -/
theorem matches_finish_nothing_iff :
    (finish.followed nothing).Matches before inside after ↔ inside = [] ∧ after = [] := by
  rw [matches_followed_iff]
  constructor
  · rintro ⟨_, _, rfl, hfinish, hnothing⟩
    cases hnothing
    cases hfinish
    exact ⟨rfl, rfl⟩
  · rintro ⟨rfl, rfl⟩
    exact ⟨[], [], rfl, .finish, .nothing⟩

/-- Repeated characters of a set are one character or more, all from the set. -/
theorem matches_repeated_oneOf_iff {s : CharSet} :
    (repeated (oneOf s)).Matches before inside after ↔ inside ≠ [] ∧ ∀ c ∈ inside, s.Holds c := by
  constructor
  · intro h
    generalize hrepeated : repeated (oneOf s) = r at h
    induction h with
    | once h =>
        obtain rfl := Pattern.repeated.inj hrepeated
        cases h with
        | oneOf hc => exact ⟨List.cons_ne_nil _ _, by simpa using hc⟩
    | again h _ _ ih =>
        obtain rfl := Pattern.repeated.inj hrepeated
        cases h with
        | oneOf hc =>
            obtain ⟨-, hrest⟩ := ih rfl
            exact ⟨List.cons_ne_nil _ _, List.forall_mem_cons.2 ⟨hc, hrest⟩⟩
    | _ => cases hrepeated
  · rintro ⟨hne, hall⟩
    induction inside generalizing before with
    | nil => exact absurd rfl hne
    | cons c cs ih =>
        obtain ⟨hc, hcs⟩ := List.forall_mem_cons.1 hall
        cases cs with
        | nil => exact .once (.oneOf hc)
        | cons d ds => exact .again (.oneOf hc) (ih (List.cons_ne_nil _ _) hcs)

/-- The pattern, held at both ends of the text. -/
def anchored (p : Pattern) : Pattern := start.followed (p.followed (finish.followed nothing))

/-- A pattern that holds both ends matches no stretch but the whole text. -/
theorem matches_anchored_iff :
    (anchored p).Matches before inside after ↔
      before = [] ∧ after = [] ∧ p.Matches [] inside [] := by
  rw [anchored, matches_followed_iff]
  constructor
  · rintro ⟨_, ys, rfl, hstart, hrest⟩
    obtain ⟨rfl, rfl⟩ := matches_start_iff.1 hstart
    obtain ⟨xs, _, rfl, hp, hfinish⟩ := matches_followed_iff.1 hrest
    obtain ⟨rfl, rfl⟩ := matches_finish_nothing_iff.1 hfinish
    rw [List.nil_append, List.append_nil]
    exact ⟨rfl, rfl, hp⟩
  · rintro ⟨rfl, rfl, hp⟩
    refine ⟨[], inside, rfl, .start, matches_followed_iff.2 ⟨inside, [], ?_, hp, ?_⟩⟩
    · rw [List.append_nil]
    · exact matches_finish_nothing_iff.2 ⟨rfl, rfl⟩

/-- Held at both ends, a pattern is found just if it matches the whole text. -/
theorem foundIn_anchored_iff {text : String} : (anchored p).FoundIn text ↔ p.MatchesAll text := by
  constructor
  · rintro ⟨before, inside, after, htext, h⟩
    obtain ⟨rfl, rfl, hp⟩ := matches_anchored_iff.1 h
    rw [List.nil_append, List.append_nil] at htext
    rwa [MatchesAll, htext]
  · intro hp
    refine ⟨[], text.toList, [], ?_, matches_anchored_iff.2 ⟨rfl, rfl, hp⟩⟩
    rw [List.nil_append, List.append_nil]

end Pattern

end GatewayAccess
