import Mathlib.Data.List.Forall2
import SheetExport.Json.Reader
import SheetExport.Proofs.Json.Lexeme

/-!
# Laid out values

A layout says which gaps a written value has. The two ways of writing are two
layouts, so what is read back from every layout is read back from both:
`Reads` and, for the members of an object, `ReadsMembers`.
-/

namespace SheetExport.Json

/-- The gaps of a written value: before an element, a member or the bracket that
closes them, by nesting depth, and after a colon. -/
structure Layout where
  line : Nat → List Char
  space : List Char
  gaps_line : ∀ n, Gaps (line n)
  gaps_space : Gaps space

namespace Layout

mutual

def text (l : Layout) (n : Nat) : Json → List Char
  | .array [] => ['[', ']']
  | .object [] => ['\x7b', '\x7d']
  | .array (v :: vs) => '[' :: (l.line (n + 1) ++ (l.text (n + 1) v ++ l.afterItem (n + 1) vs))
  | .object ((k, v) :: ms) =>
    '\x7b' :: (l.line (n + 1) ++ (stringText k ++
      ':' :: (l.space ++ (l.text (n + 1) v ++ l.afterMember (n + 1) ms))))
  | .null => "null".toList
  | .bool true => "true".toList
  | .bool false => "false".toList
  | .number x => x.text.toList
  | .string s => stringText s

/-- What follows an element, given the elements to come. -/
def afterItem (l : Layout) (n : Nat) : List Json → List Char
  | [] => l.line (n - 1) ++ [']']
  | v :: vs => ',' :: (l.line n ++ (l.text n v ++ l.afterItem n vs))

/-- What follows a member, given the members to come. -/
def afterMember (l : Layout) (n : Nat) : List (String × Json) → List Char
  | [] => l.line (n - 1) ++ ['\x7d']
  | (k, v) :: ms =>
    ',' :: (l.line n ++ (stringText k ++ ':' :: (l.space ++ (l.text n v ++ l.afterMember n ms))))

end

def plain : Layout where
  line _ := []
  space := []
  gaps_line _ := rfl
  gaps_space := rfl

/-- Every element and member on its own line. -/
def indented : Layout where
  line := newline
  space := [' ']
  gaps_line n := by simp [newline, Gaps, isGap]
  gaps_space := rfl

mutual

theorem text_plain (n : Nat) : (v : Json) → plain.text n v = compact v
  | .null => rfl
  | .bool true => rfl
  | .bool false => rfl
  | .number _ => rfl
  | .string _ => rfl
  | .array [] => rfl
  | .array (v :: vs) => by
    rw [compact, compactItems_plain (n + 1) v vs, ← text_plain (n + 1) v]
    rfl
  | .object [] => rfl
  | .object ((k, v) :: ms) => by
    rw [compact, compactMembers_plain (n + 1) k v ms, ← text_plain (n + 1) v]
    rfl

theorem compactItems_plain (n : Nat) (w : Json) : (vs : List Json) →
    compactItems (w :: vs) = compact w ++ plain.afterItem n vs
  | [] => rfl
  | v :: vs => by
    rw [compactItems, compactItems_plain n v vs, ← text_plain n v]
    rfl

theorem compactMembers_plain (n : Nat) (k : String) (w : Json) : (ms : List (String × Json)) →
    compactMembers ((k, w) :: ms) = stringText k ++ ':' :: (compact w ++ plain.afterMember n ms)
  | [] => by simp [compactMembers, afterMember, plain]
  | (k', v) :: ms => by
    rw [compactMembers, compactMembers_plain n k' v ms, ← text_plain n v, List.append_assoc]
    rfl

end

mutual

theorem text_indented (n : Nat) : (v : Json) → indented.text n v = pretty n v
  | .null => rfl
  | .bool true => rfl
  | .bool false => rfl
  | .number _ => rfl
  | .string _ => rfl
  | .array [] => rfl
  | .array (v :: vs) => by
    rw [pretty, prettyItems_indented (n + 1) v vs, ← text_indented (n + 1) v]
    rfl
  | .object [] => rfl
  | .object ((k, v) :: ms) => by
    rw [pretty, prettyMembers_indented (n + 1) k v ms, ← text_indented (n + 1) v]
    rfl

theorem prettyItems_indented (n : Nat) (w : Json) : (vs : List Json) →
    prettyItems n (w :: vs) = newline n ++ (pretty n w ++ indented.afterItem n vs)
  | [] => by simp [prettyItems, afterItem, indented]
  | v :: vs => by
    rw [prettyItems, prettyItems_indented n v vs, ← text_indented n v, List.append_assoc]
    rfl

theorem prettyMembers_indented (n : Nat) (k : String) (w : Json) : (ms : List (String × Json)) →
    prettyMembers n ((k, w) :: ms) =
      newline n ++ (stringText k ++ ':' :: ' ' :: (pretty n w ++ indented.afterMember n ms))
  | [] => by simp [prettyMembers, afterMember, indented]
  | (k', v) :: ms => by
    rw [prettyMembers, prettyMembers_indented n k' v ms, ← text_indented n v]
    simp [afterMember, indented]

end

/-- A value begins with a character that shows it. -/
theorem begins_text (l : Layout) (n : Nat) (v : Json) : Begins (l.text n v) := by
  cases v with
  | null => exact ⟨'n', _, rfl, by decide⟩
  | bool b => cases b <;> exact ⟨_, _, rfl, by decide⟩
  | number x => simpa only [text] using begins_number x
  | string s => exact ⟨'"', _, rfl, by decide⟩
  | array vs => cases vs <;> exact ⟨'[', _, rfl, by decide⟩
  | object ms =>
    cases ms with
    | nil => exact ⟨'\x7b', _, rfl, by decide⟩
    | cons m ms => exact ⟨'\x7b', _, rfl, by decide⟩

theorem follows_afterItem (l : Layout) (n : Nat) (vs : List Json) (rest : List Char) :
    Follows (l.afterItem n vs ++ rest) := by
  cases vs with
  | nil =>
    rw [afterItem, List.append_assoc]
    exact .gaps (l.gaps_line _) (by simp)
  | cons v vs => simp [afterItem]

theorem follows_afterMember (l : Layout) (n : Nat) (ms : List (String × Json))
    (rest : List Char) : Follows (l.afterMember n ms ++ rest) := by
  cases ms with
  | nil =>
    rw [afterMember, List.append_assoc]
    exact .gaps (l.gaps_line _) (by simp)
  | cons m ms => simp [afterMember]

theorem length_lt_afterItem (l : Layout) (n : Nat) (vs : List Json) :
    vs.length < (l.afterItem n vs).length := by
  induction vs with
  | nil => simp [afterItem]
  | cons v vs ih => simp [afterItem]; omega

theorem length_lt_afterMember (l : Layout) (n : Nat) (ms : List (String × Json)) :
    ms.length < (l.afterMember n ms).length := by
  induction ms with
  | nil => simp [afterMember]
  | cons m ms ih => simp [afterMember]; omega

end Layout

/-! ## Reading -/

variable {α κ σ : Type} {l : Layout} {n : Nat} {rest : List Char}

/-- However a value is laid out, a reader takes it for `a`. -/
def Reads (R : Reader α) (v : Json) (a : α) : Prop :=
  ∀ (l : Layout) (n : Nat) (g rest : List Char), Gaps g → Follows rest →
    R (g ++ (l.text n v ++ rest)) = .ok (a, rest)

/-- However a member is laid out, a reader that has its key goes from one state
to another. -/
def ReadsMember (step : String → σ → Reader σ) (m : String × Json) (s s' : σ) : Prop :=
  ∀ (l : Layout) (n : Nat) (rest : List Char), Follows rest →
    step m.1 s (':' :: (l.space ++ (l.text n m.2 ++ rest))) = .ok (s', rest)

/-- A reader of members goes through many of them. -/
inductive ReadsMembers (step : String → σ → Reader σ) : List (String × Json) → σ → σ → Prop where
  | nil (s : σ) : ReadsMembers step [] s s
  | cons {m : String × Json} {ms : List (String × Json)} {s s' s'' : σ} :
      ReadsMember step m s s' → ReadsMembers step ms s' s'' → ReadsMembers step (m :: ms) s s''

theorem ReadsMembers.append {step : String → σ → Reader σ} {s s' s'' : σ}
    {ms ms' : List (String × Json)} (h : ReadsMembers step ms s s')
    (h' : ReadsMembers step ms' s' s'') : ReadsMembers step (ms ++ ms') s s'' := by
  induction h with
  | nil => exact h'
  | cons hm _ ih => exact .cons hm (ih h')

/-- What stands before an element or a member: nothing or a comma. -/
def comma (first : Bool) : List Char := if first then [] else [',']

theorem nextElement_comma {g cs : List Char} (strict first : Bool) (hg : Gaps g)
    (hc : Begins cs) : ∃ g', Gaps g' ∧
      nextElement strict first (comma first ++ (g ++ cs)) = .ok (true, g' ++ cs) := by
  obtain ⟨c, ds, rfl, hgap, hcomma, hclose⟩ := hc
  cases first with
  | true => exact ⟨[], rfl, by simp [nextElement, comma, skipGaps_append hg, skipGaps_cons hgap]⟩
  | false =>
    have hnext : skipGaps (',' :: (g ++ c :: ds)) = ',' :: (g ++ c :: ds) := skipGaps_cons rfl
    cases strict with
    | true =>
      refine ⟨[], rfl, ?_⟩
      simp [nextElement, comma, hnext, skipGaps_append hg, skipGaps_cons hgap, hclose]
    | false => exact ⟨g, hg, by simp [nextElement, comma, hnext]⟩

theorem nextElement_end {g : List Char} (strict first : Bool) (hg : Gaps g) :
    nextElement strict first (g ++ ']' :: rest) = .ok (false, ']' :: rest) := by
  have hend : skipGaps (']' :: rest) = ']' :: rest := skipGaps_cons rfl
  simp [nextElement, skipGaps_append hg, hend]

theorem elements_cons {item : Reader α} {v : Json} {a : α} (hv : Reads item v a)
    (hf : Follows rest) (strict : Bool) (rounds : Nat) (first : Bool) :
    elements strict item (rounds + 1) first (comma first ++ (l.line n ++ (l.text n v ++ rest))) =
      elements strict item rounds false rest >>= fun x => .ok (a :: x.1, x.2) := by
  obtain ⟨g, hg, hnext⟩ :=
    nextElement_comma strict first (l.gaps_line n) ((l.begins_text n v).append rest)
  rw [elements, hnext]
  simp only [bind, Except.bind, if_true, hv l n g rest hg hf]
  rfl

theorem elements_afterItem {item : Reader α} {vs : List Json} {as : List α}
    (h : List.Forall₂ (Reads item) vs as) (strict : Bool) {rounds : Nat}
    (hr : vs.length < rounds) :
    elements strict item rounds false (l.afterItem n vs ++ rest) = .ok (as, ']' :: rest) := by
  induction h generalizing rounds with
  | nil =>
    obtain ⟨rounds, rfl⟩ := Nat.exists_eq_add_of_lt hr
    rw [Layout.afterItem, List.append_assoc, List.singleton_append, elements,
      nextElement_end strict false (l.gaps_line (n - 1))]
    rfl
  | @cons v a vs as hv _ ih =>
    obtain ⟨rounds, rfl⟩ : ∃ k, rounds = k + 1 := ⟨rounds - 1, by omega⟩
    have hvs : vs.length < rounds := by simpa using hr
    have hcons :=
      elements_cons (l := l) (n := n) hv (l.follows_afterItem n vs rest) strict rounds false
    have htext : l.afterItem n (v :: vs) ++ rest =
        comma false ++ (l.line n ++ (l.text n v ++ (l.afterItem n vs ++ rest))) := by
      simp [Layout.afterItem, comma]
    rw [htext, hcons, ih hvs]
    rfl

theorem elements_text {item : Reader α} {v : Json} {vs : List Json} {as : List α}
    (h : List.Forall₂ (Reads item) (v :: vs) as) (strict : Bool) {rounds : Nat}
    (hr : vs.length + 1 < rounds) :
    elements strict item rounds true
        (l.line n ++ (l.text n v ++ (l.afterItem n vs ++ rest))) = .ok (as, ']' :: rest) := by
  cases h with
  | @cons _ a _ as hv hvs =>
    obtain ⟨rounds, rfl⟩ : ∃ k, rounds = k + 1 := ⟨rounds - 1, by omega⟩
    have hcons :=
      elements_cons (l := l) (n := n) hv (l.follows_afterItem n vs rest) strict rounds true
    rw [comma, if_pos rfl, List.nil_append] at hcons
    rw [hcons, elements_afterItem hvs strict (by omega)]
    rfl

/-- What stands between the brackets of an array is read as its elements. -/
theorem exists_elements {item : Reader α} {vs : List Json} {as : List α}
    (h : List.Forall₂ (Reads item) vs as) (strict : Bool) (l : Layout) (n : Nat)
    (rest : List Char) :
    ∃ inside, l.text n (.array vs) = '[' :: inside ∧
      elements strict item ((inside ++ rest).length + 1) true (inside ++ rest) =
        .ok (as, ']' :: rest) := by
  cases vs with
  | nil =>
    cases h
    refine ⟨[']'], rfl, ?_⟩
    rw [List.singleton_append, elements]
    have hend : nextElement strict true (']' :: rest) = .ok (false, ']' :: rest) :=
      nextElement_end strict true gaps_nil
    rw [hend]
    rfl
  | cons v vs =>
    have hlen := l.length_lt_afterItem (n + 1) vs
    refine ⟨_, by rw [Layout.text], ?_⟩
    simp only [List.append_assoc]
    exact elements_text h strict (by simp; omega)

/-! ## Members -/

theorem nextKey_comma {g cs : List Char} (strict first : Bool) (hg : Gaps g) :
    nextKey strict first (comma first ++ (g ++ '"' :: cs)) = .ok (true, cs) := by
  have hq : skipGaps ('"' :: cs) = '"' :: cs := skipGaps_cons rfl
  cases first with
  | true => simp [nextKey, comma, skipGaps_append hg, hq]
  | false =>
    have hnext : skipGaps (',' :: (g ++ '"' :: cs)) = ',' :: (g ++ '"' :: cs) := skipGaps_cons rfl
    simp [nextKey, comma, hnext, skipGaps_append hg, hq]

theorem nextKey_end {g : List Char} (strict first : Bool) (hg : Gaps g) :
    nextKey strict first (g ++ '\x7d' :: rest) = .ok (false, '\x7d' :: rest) := by
  have hend : skipGaps ('\x7d' :: rest) = '\x7d' :: rest := skipGaps_cons rfl
  simp [nextKey, skipGaps_append hg, hend]

theorem colon_cons (cs : List Char) : colon (':' :: cs) = .ok cs := by
  simp [colon, skipGaps, isGap]

/-- What a reader of keys takes the text of a string for, after its opening quote. -/
def ReadsKey (key : Reader κ) (name : String → κ) : Prop :=
  ∀ s rest, key (s.toList.flatMap escapedChar ++ '"' :: rest) = .ok (name s, rest)

theorem readsKey_readKey : ReadsKey readKey id := readKey_flatMap

section

variable {key : Reader κ} {name : String → κ} {step : κ → σ → Reader σ}

theorem members_cons (hkey : ReadsKey key name) {m : String × Json} {s s' : σ}
    (hm : ReadsMember (fun k => step (name k)) m s s') (hf : Follows rest) (strict : Bool)
    (rounds : Nat) (first : Bool) :
    members strict key step (rounds + 1) first s (comma first ++ (l.line n ++
        (stringText m.1 ++ ':' :: (l.space ++ (l.text n m.2 ++ rest))))) =
      members strict key step rounds false s' rest := by
  rw [stringText_append, members, nextKey_comma strict first (l.gaps_line n)]
  simp only [bind, Except.bind, if_true, hkey m.1, hm l n rest hf]

theorem members_afterMember (hkey : ReadsKey key name) {ms : List (String × Json)} {s s' : σ}
    (h : ReadsMembers (fun k => step (name k)) ms s s') (strict : Bool) {rounds : Nat}
    (hr : ms.length < rounds) :
    members strict key step rounds false s (l.afterMember n ms ++ rest) =
      .ok (s', '\x7d' :: rest) := by
  induction h generalizing rounds with
  | nil =>
    obtain ⟨rounds, rfl⟩ := Nat.exists_eq_add_of_lt hr
    rw [Layout.afterMember, List.append_assoc, List.singleton_append, members,
      nextKey_end strict false (l.gaps_line (n - 1))]
    rfl
  | @cons m ms s _ _ hm _ ih =>
    obtain ⟨rounds, rfl⟩ : ∃ k, rounds = k + 1 := ⟨rounds - 1, by omega⟩
    have hms : ms.length < rounds := by simpa using hr
    have hcons := members_cons (l := l) (n := n) hkey hm (l.follows_afterMember n ms rest) strict
      rounds false
    have htext : l.afterMember n (m :: ms) ++ rest = comma false ++ (l.line n ++ (stringText m.1 ++
        ':' :: (l.space ++ (l.text n m.2 ++ (l.afterMember n ms ++ rest))))) := by
      simp [Layout.afterMember, comma]
    rw [htext, hcons, ih hms]

theorem members_text (hkey : ReadsKey key name) {m : String × Json}
    {ms : List (String × Json)} {s s' : σ}
    (h : ReadsMembers (fun k => step (name k)) (m :: ms) s s') (strict : Bool) {rounds : Nat}
    (hr : ms.length + 1 < rounds) :
    members strict key step rounds true s (l.line n ++ (stringText m.1 ++
        ':' :: (l.space ++ (l.text n m.2 ++ (l.afterMember n ms ++ rest))))) =
      .ok (s', '\x7d' :: rest) := by
  cases h with
  | cons hm hms =>
    obtain ⟨rounds, rfl⟩ : ∃ k, rounds = k + 1 := ⟨rounds - 1, by omega⟩
    have hcons := members_cons (l := l) (n := n) hkey hm (l.follows_afterMember n ms rest) strict
      rounds true
    rw [comma, if_pos rfl, List.nil_append] at hcons
    rw [hcons, members_afterMember hkey hms strict (by omega)]

/-- What stands between the braces of an object is read as its members. -/
theorem exists_members (hkey : ReadsKey key name) {ms : List (String × Json)} {s s' : σ}
    (h : ReadsMembers (fun k => step (name k)) ms s s') (strict : Bool) (l : Layout) (n : Nat)
    (rest : List Char) :
    ∃ inside, l.text n (.object ms) = '\x7b' :: inside ∧
      members strict key step ((inside ++ rest).length + 1) true s (inside ++ rest) =
        .ok (s', '\x7d' :: rest) := by
  cases ms with
  | nil =>
    cases h
    refine ⟨['\x7d'], rfl, ?_⟩
    have hend : nextKey strict true ('\x7d' :: rest) = .ok (false, '\x7d' :: rest) :=
      nextKey_end strict true gaps_nil
    rw [List.singleton_append, members, hend]
    rfl
  | cons m ms =>
    have hlen := l.length_lt_afterMember (n + 1) ms
    refine ⟨_, by rw [Layout.text], ?_⟩
    simp only [List.append_assoc, List.cons_append]
    exact members_text hkey h strict (by simp; omega)

end

end SheetExport.Json
