import GatewayAccess.Json.Tree.Lemmas
import GatewayAccess.Proofs.Json.Numeral
import GatewayAccess.Proofs.Json.StringLiteral
import Mathlib.Data.List.Chain
import Mathlib.Data.List.TakeWhile

/-! # JSON texts are read as they are written

`Tree.SpelledBy` says which texts a tree has: its tokens one behind the other, each in any of its
spellings, with blanks where one likes. The reader accepts exactly these texts and gives that tree
(`Tree.read?_eq_some_iff`), so it reads in particular the compact text of a tree as the tree
(`Tree.read?_text`).

Where a token ends rests on the token alone. Only a number depends on what is behind it, and in the
tokens of a tree no number follows another.
-/

namespace GatewayAccess.Json

namespace Token

/-- Whether the token is a number. -/
def isNumber : Token → Bool
  | number _ => true
  | _ => false

/-! ## One token -/

/-- The texts of a token. Numerals and literals have several, the others one. -/
def SpelledBy : Token → List Char → Prop
  | number n, w => n.SpelledBy w
  | string s, w => LiteralSpelledBy s w
  | t, w => w = t.text

theorem spelledBy_text (t : Token) : t.SpelledBy t.text := by
  cases t with
  | number n => exact n.spelledBy_text
  | string s =>
      cases s with
      | none => exact ⟨[.ofUnit 0xD800], _, .cons (.code rfl) .nil, rfl, rfl⟩
      | some s => exact literalSpelledBy_quote s
  | _ => rfl

/-- What begins with a minus or a digit is read as a numeral. -/
theorem take?_of_numeral {c : Char} (hc : c = '-' ∨ ∃ d : Digit, d.char = c) (cs : List Char) :
    take? (c :: cs) = (Numeral.take? (c :: cs)).map fun (n, after) => (number n, after) := by
  rw [take?]
  -- None of the characters with which the other tokens begin is a minus or a digit.
  all_goals
    rintro _ heq
    obtain ⟨rfl, -⟩ := List.cons.inj heq
    exact absurd hc (by decide)

/-- A token is read however it is written, and what follows it is left. -/
theorem take?_of_spelledBy {t : Token} {w rest : List Char} (hw : t.SpelledBy w)
    (h : t.isNumber = true → Numeral.Ends rest) : take? (w ++ rest) = some (t, rest) := by
  cases t with
  | bool b => cases b <;> (obtain rfl := hw; rfl)
  | number n =>
      obtain ⟨c, cs, rfl, hc⟩ := Numeral.exists_cons_of_spelledBy hw
      rw [List.cons_append, take?_of_numeral hc, ← List.cons_append,
        Numeral.take?_of_spelledBy hw (h rfl)]
      rfl
  | string s =>
      obtain ⟨inside, hinside, hread⟩ := takeString?_of_spelledBy hw rest
      rw [hinside, take?, hread]
      rfl
  | _ =>
      obtain rfl := hw
      rfl

/-- What is read as a token is a text of it. -/
theorem exists_spelledBy_of_take? {t : Token} {cs after : List Char}
    (h : take? cs = some (t, after)) : ∃ w, t.SpelledBy w ∧ cs = w ++ after := by
  rw [take?.eq_def] at h
  split at h
  case h_10 rest =>
    obtain ⟨⟨s, after'⟩, hs, heq⟩ := Option.map_eq_some_iff.1 h
    obtain ⟨rfl, rfl⟩ := Prod.mk.inj heq
    exact exists_spelledBy_of_takeString? hs
  case h_11 =>
    obtain ⟨⟨n, after'⟩, hn, heq⟩ := Option.map_eq_some_iff.1 h
    obtain ⟨rfl, rfl⟩ := Prod.mk.inj heq
    exact Numeral.exists_spelledBy_of_take? hn
  all_goals
    obtain ⟨rfl, rfl⟩ := Prod.mk.inj (Option.some.inj h)
    exact ⟨_, spelledBy_text _, rfl⟩

/-- A token begins with a character that is no blank and that, unless the token is a number, goes on
no numeral. -/
theorem exists_cons_isBlank_eq_false {t : Token} {w : List Char} (h : t.SpelledBy w) :
    ∃ (c : Char) (cs : List Char), w = c :: cs ∧ isBlank c = false ∧
      (t.isNumber = false → Numeral.goesOn c = false) := by
  cases t with
  | bool b => cases b <;> exact ⟨_, _, h, rfl, fun _ => rfl⟩
  | number n =>
      obtain ⟨c, cs, rfl, hc⟩ := Numeral.exists_cons_of_spelledBy h
      have hblank (d : Digit) : isBlank d.char = false := by revert d; decide
      refine ⟨c, cs, rfl, ?_, fun h => nomatch h⟩
      rcases hc with rfl | ⟨d, rfl⟩
      · rfl
      · exact hblank d
  | string s =>
      obtain ⟨_, _, -, -, rfl⟩ := h
      exact ⟨_, _, rfl, rfl, fun _ => rfl⟩
  | _ => exact ⟨_, _, h, rfl, fun _ => rfl⟩

/-- The reader goes on behind a token and the blanks before it. -/
theorem readFrom?_of_spelledBy (before : List Token) {t : Token} {blanks w rest : List Char}
    (hblanks : ∀ c ∈ blanks, isBlank c) (hw : t.SpelledBy w)
    (h : t.isNumber = true → Numeral.Ends rest) :
    readFrom? before (blanks ++ (w ++ rest)) = readFrom? (t :: before) rest := by
  have htake := take?_of_spelledBy hw h
  obtain ⟨c, cs, rfl, hblank, -⟩ := exists_cons_isBlank_eq_false hw
  have hdrop : (blanks ++ (c :: cs ++ rest)).dropWhile isBlank = c :: (cs ++ rest) := by
    rw [List.dropWhile_append_of_pos hblanks, List.cons_append,
      List.dropWhile_cons_of_neg (by rw [hblank]; exact Bool.false_ne_true)]
  rw [readFrom?]
  split
  · rename_i heq
    rw [hdrop] at heq
    cases heq
  · rename_i heq
    rw [hdrop] at heq
    obtain ⟨rfl, rfl⟩ := List.cons.inj heq
    split
    · rename_i hnone
      rw [← List.cons_append, htake] at hnone
      cases hnone
    · rename_i hsome
      rw [← List.cons_append, htake] at hsome
      cases hsome
      rfl

/-! ## Sequences of tokens -/

/-- No number is next to another. -/
def Apart (ts : List Token) : Prop := ts.IsChain fun a b => a.isNumber = true → b.isNumber = false

theorem Apart.cons {t : Token} {ts : List Token} (ht : t.isNumber = false) (h : Apart ts) :
    Apart (t :: ts) := by
  refine List.isChain_cons.2 ⟨fun _ _ hnumber => ?_, h⟩
  rw [ht] at hnumber
  cases hnumber

/-- A number may stand where no number follows. -/
theorem Apart.number_cons {n : Numeral} {ts : List Token}
    (hhead : ∀ t ∈ ts.head?, t.isNumber = false) (h : Apart ts) : Apart (number n :: ts) :=
  List.isChain_cons.2 ⟨fun t ht _ => hhead t ht, h⟩

/-- The texts of tokens: each in one of its spellings, and blanks before, between and behind
them. -/
inductive Layout : List Token → List Char → Prop
  | nil {blanks : List Char} (hblanks : ∀ c ∈ blanks, isBlank c) : Layout [] blanks
  | cons {blanks w cs : List Char} {t : Token} {ts : List Token}
      (hblanks : ∀ c ∈ blanks, isBlank c) (ht : t.SpelledBy w) (hts : Layout ts cs) :
      Layout (t :: ts) (blanks ++ (w ++ cs))

theorem layout_flatMap_text (ts : List Token) : Layout ts (ts.flatMap text) := by
  induction ts with
  | nil => exact .nil (fun _ hc => nomatch hc)
  | cons t ts ih =>
      have hblanks : ∀ c ∈ ([] : List Char), isBlank c := fun _ hc => nomatch hc
      exact .cons hblanks t.spelledBy_text ih

/-- Blanks do not go on a numeral. -/
theorem ends_append {blanks rest : List Char} (hblanks : ∀ c ∈ blanks, isBlank c)
    (h : Numeral.Ends rest) : Numeral.Ends (blanks ++ rest) := by
  cases blanks with
  | nil => exact h
  | cons b bs =>
      intro c hc
      obtain rfl : b = c := Option.some.inj hc
      have hb := hblanks b List.mem_cons_self
      simp only [isBlank, Bool.or_eq_true, decide_eq_true_eq] at hb
      rcases hb with ((rfl | rfl) | rfl) | rfl <;> rfl

/-- A text of tokens that do not begin with a number does not go on a numeral. -/
theorem Layout.ends {ts : List Token} {cs : List Char} (hl : Layout ts cs)
    (h : ∀ t ∈ ts.head?, t.isNumber = false) : Numeral.Ends cs := by
  cases hl with
  | nil hblanks =>
      rw [← List.append_nil cs]
      exact ends_append hblanks (fun _ hc => nomatch hc)
  | cons hblanks ht hts =>
      refine ends_append hblanks ?_
      obtain ⟨c, cs, rfl, -, hc⟩ := exists_cons_isBlank_eq_false ht
      intro b hb
      obtain rfl : c = b := Option.some.inj hb
      exact hc (h _ rfl)

/-- Tokens are read however they are laid out, if no number is next to another. -/
theorem readFrom?_of_layout {ts : List Token} {cs : List Char} (hl : Layout ts cs) (h : Apart ts)
    (before : List Token) : readFrom? before cs = some (before.reverse ++ ts) := by
  induction hl generalizing before with
  | nil hblanks =>
      have hdrop := List.dropWhile_eq_nil_iff.2 hblanks
      rw [readFrom?, List.append_nil]
      split
      · rfl
      · rename_i heq
        rw [hdrop] at heq
        cases heq
  | @cons blanks w cs t ts hblanks ht hts ih =>
      obtain ⟨hhead, htail⟩ := List.isChain_cons.1 h
      have hends (hnumber : t.isNumber = true) : Numeral.Ends cs :=
        hts.ends fun u hu => hhead u hu hnumber
      rw [readFrom?_of_spelledBy before hblanks ht hends, ih htail, List.reverse_cons,
        List.append_assoc, List.singleton_append]

/-- What is read as tokens is a text of them. -/
theorem exists_layout_of_readFrom? {before ts : List Token} {cs : List Char}
    (h : readFrom? before cs = some ts) : ∃ ts', ts = before.reverse ++ ts' ∧ Layout ts' cs := by
  have hblanks (cs : List Char) : ∀ c ∈ cs.takeWhile isBlank, isBlank c :=
    fun _ hc => List.mem_takeWhile_imp hc
  fun_induction readFrom? before cs with
  | case1 before cs hdrop =>
      obtain rfl := Option.some.inj h
      have hcs := List.takeWhile_append_dropWhile (p := isBlank) (l := cs)
      rw [hdrop, List.append_nil] at hcs
      exact ⟨[], (List.append_nil _).symm, hcs ▸ .nil (hblanks cs)⟩
  | case2 => cases h
  | case3 before cs c rest hdrop t after htake ih =>
      obtain ⟨ts', rfl, hlayout⟩ := ih h
      obtain ⟨w, hw, hrest⟩ := exists_spelledBy_of_take? htake
      have hcs := List.takeWhile_append_dropWhile (p := isBlank) (l := cs)
      rw [hdrop, hrest] at hcs
      refine ⟨t :: ts', ?_, hcs ▸ .cons (hblanks cs) hw hlayout⟩
      rw [List.reverse_cons, List.append_assoc, List.singleton_append]

end Token

/-! ## Trees -/

namespace Tree

open Token

theorem isNumber_head?_furtherItems (items : List Tree) (rest : List Token) :
    ∀ t ∈ (furtherItems items ++ rest).head?, t.isNumber = false := by
  intro u hu
  cases items with
  | nil =>
      obtain rfl : .closeArray = u := Option.some.inj hu
      rfl
  | cons t items =>
      obtain rfl : .comma = u := Option.some.inj hu
      rfl

theorem isNumber_head?_furtherMembers (members : List (Option String × Tree)) (rest : List Token) :
    ∀ t ∈ (furtherMembers members ++ rest).head?, t.isNumber = false := by
  intro u hu
  cases members with
  | nil =>
      obtain rfl : .closeObject = u := Option.some.inj hu
      rfl
  | cons m members =>
      obtain rfl : .comma = u := Option.some.inj hu
      rfl

mutual

/-- In the tokens of a tree no number is next to another, nor is one added in front of tokens that
do not begin with a number. -/
theorem apart_tokens (t : Tree) {rest : List Token} (hhead : ∀ t ∈ rest.head?, t.isNumber = false)
    (h : Apart rest) : Apart (t.tokens ++ rest) := by
  cases t with
  | null => exact .cons rfl h
  | bool b => exact .cons rfl h
  | number n => exact .number_cons hhead h
  | string s => exact .cons rfl h
  | array items =>
      cases items with
      | nil => exact .cons rfl (.cons rfl h)
      | cons t items =>
          have hitem := apart_tokens t (isNumber_head?_furtherItems items rest)
            (apart_furtherItems items h)
          rw [tokens, firstItem, List.cons_append, List.append_assoc]
          exact .cons rfl hitem
  | object members =>
      cases members with
      | nil => exact .cons rfl (.cons rfl h)
      | cons m members =>
          obtain ⟨key, t⟩ := m
          have hmember := apart_tokens t (isNumber_head?_furtherMembers members rest)
            (apart_furtherMembers members h)
          rw [tokens, firstMember, List.cons_append, List.cons_append, List.cons_append,
            List.append_assoc]
          exact .cons rfl (.cons rfl (.cons rfl hmember))

theorem apart_furtherItems (items : List Tree) {rest : List Token} (h : Apart rest) :
    Apart (furtherItems items ++ rest) := by
  cases items with
  | nil => exact .cons rfl h
  | cons t items =>
      have hitem := apart_tokens t (isNumber_head?_furtherItems items rest)
        (apart_furtherItems items h)
      rw [furtherItems, List.cons_append, List.append_assoc]
      exact .cons rfl hitem

theorem apart_furtherMembers (members : List (Option String × Tree)) {rest : List Token}
    (h : Apart rest) : Apart (furtherMembers members ++ rest) := by
  cases members with
  | nil => exact .cons rfl h
  | cons m members =>
      obtain ⟨key, t⟩ := m
      have hmember := apart_tokens t (isNumber_head?_furtherMembers members rest)
        (apart_furtherMembers members h)
      rw [furtherMembers, List.cons_append, List.cons_append, List.cons_append, List.append_assoc]
      exact .cons rfl (.cons rfl (.cons rfl hmember))

end

/-- The texts of a tree. -/
def SpelledBy (t : Tree) (text : String) : Prop := Layout t.tokens text.toList

/-- A text is read as a tree exactly if it is a text of this tree. -/
theorem read?_eq_some_iff {text : String} {t : Tree} : read? text = some t ↔ t.SpelledBy text := by
  have happart : Apart t.tokens := by
    have h : Apart (t.tokens ++ []) := apart_tokens t (fun _ hu => nomatch hu) List.isChain_nil
    rwa [List.append_nil] at h
  rw [read?, Option.bind_eq_some_iff]
  constructor
  · rintro ⟨ts, hread, hts⟩
    obtain ⟨ts', rfl, hlayout⟩ := exists_layout_of_readFrom? hread
    rwa [ofTokens?_eq_some_iff.1 hts] at hlayout
  · intro h
    exact ⟨t.tokens, readFrom?_of_layout h happart [], ofTokens?_tokens t⟩

/-- A text is one of a tree if it has the tokens of the tree. -/
theorem spelledBy_of_tokens {text : String} {t : Tree}
    (h : Token.read? text.toList = some t.tokens) : t.SpelledBy text := by
  rw [← read?_eq_some_iff, read?, h, Option.bind_some, ofTokens?_tokens]

/-- A text is turned down exactly if no tree has it. -/
theorem read?_eq_none_iff {text : String} : read? text = none ↔ ∀ t : Tree, ¬ t.SpelledBy text := by
  simp only [Option.eq_none_iff_forall_ne_some, ne_eq, read?_eq_some_iff]

/-- The compact text of a tree is read as the tree. -/
theorem read?_text (t : Tree) : read? t.text = some t := by
  rw [read?_eq_some_iff, SpelledBy, text, String.toList_ofList]
  exact layout_flatMap_text t.tokens

/-- Trees with the same text are the same. -/
theorem text_inj {t u : Tree} : t.text = u.text ↔ t = u := by
  constructor
  · intro h
    rw [← Option.some.injEq, ← read?_text t, ← read?_text u, h]
  · rintro rfl
    rfl

end Tree

end GatewayAccess.Json
