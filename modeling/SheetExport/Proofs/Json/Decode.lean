import Mathlib.Data.List.Forall2
import SheetExport.Json.Reader
import SheetExport.Proofs.Effect
import SheetExport.Proofs.Json.Layout

/-!
# Documents read by schemas

What schemas read of written values, and readers compared with each other.
-/

/-!
## Reading by a schema what was written

What a schema reads of a written value follows from what its parts read of the
parts of the value, for strings, options, lists and records.
`parseJson_prettyText` is about whole texts.
-/

namespace SheetExport.Schema

open Json

variable {α δ σ : Type} {s : Schema α} {d : Nat} {a : α}

theorem skipGaps_text {g cs : List Char} {c : Char} (hg : Gaps g) (hc : isGap c = false) :
    skipGaps (g ++ c :: cs) = c :: cs :=
  (skipGaps_append hg).trans (skipGaps_cons hc)

/-! ### Texts, numbers and options -/

theorem reads_text {expected : String} {read : String → Except String α} {x : String}
    (h : read x = .ok a) : Reads ((Schema.text expected read).ofJson d) (.string x) a := by
  intro l n g rest hg _
  rw [Layout.text, stringText_append, Schema.ofJson, expectString, skipGaps_text hg rfl]
  simp only [readString, readKey_flatMap, bind, Except.bind, h]
  rfl

theorem reads_string {x : String} : Reads (Schema.string.ofJson d) (.string x) x := reads_text rfl

theorem scalar?_toDigits {n : Nat} {rest : List Char} (hn : n < UInt64.size) (hf : Follows rest) :
    scalar? (Nat.toDigits 10 n ++ rest) = .ok (some (.number (.int n), rest)) := by
  have hread : readNumber false _ = .ok (.int n, rest) := readNumber_toDigits false hn hf
  obtain ⟨c, cs, hd, hc⟩ := exists_toDigits n
  rw [hd, List.cons_append] at hread ⊢
  unfold scalar?
  split
  case h_9 c' rest' _ _ _ _ _ _ _ heq =>
    obtain ⟨rfl, rfl⟩ := List.cons.inj heq
    simp only [hc, if_true, hread, bind, Except.bind, pure, Except.pure]
  case h_1 heq => cases heq
  all_goals
    next heq =>
      obtain ⟨rfl, -⟩ := List.cons.inj heq
      cases hc

theorem text_natural (l : Layout) (i n : Nat) :
    l.text i (.number (.int (n : Int))) = Nat.toDigits 10 n := by
  simp [Layout.text, Number.text, intText, Int.toString_eq_repr, Int.repr_eq_if,
    Nat.toList_repr]

theorem reads_natural {n : Nat} (hn : n < UInt64.size) :
    Reads (Schema.natural.ofJson d) (.number (.int (n : Int))) n := by
  intro l i g rest hg hf
  rw [text_natural]
  obtain ⟨c, cs, hc, hopens⟩ := begins_toDigits n
  have hgaps : skipGaps (g ++ (Nat.toDigits 10 n ++ rest)) = Nat.toDigits 10 n ++ rest := by
    rw [hc, List.cons_append]
    exact skipGaps_text hg hopens.1
  simp only [Schema.ofJson, readNatural, hgaps, scalar?_toDigits hn hf, bind, Except.bind, pure,
    Except.pure]
  simp

/-- A value that is there is that of an option, unless it could be a null. -/
theorem reads_some_of_text {v : Json} (h : Reads (s.ofJson d) v a)
    (hv : ∀ (l : Layout) (n : Nat), ∃ c cs, l.text n v = c :: cs ∧ isGap c = false ∧ c ≠ 'n') :
    Reads ((Schema.optional s).ofJson d) v (some a) := by
  intro l n g rest hg hf
  obtain ⟨c, cs, htext, hgap, hc⟩ := hv l n
  have hx := h l n [] rest rfl hf
  rw [htext, List.cons_append, List.nil_append] at hx
  rw [htext, List.cons_append, Schema.ofJson, skipGaps_text hg hgap]
  simp [hc, hx, bind, Except.bind, pure, Except.pure]

theorem reads_some {x : String} (h : Reads (s.ofJson d) (.string x) a) :
    Reads ((Schema.optional s).ofJson d) (.string x) (some a) :=
  reads_some_of_text h fun l n => ⟨'"', _, rfl, by decide, by decide⟩

theorem reads_some_natural {n : Nat} (hn : n < UInt64.size) :
    Reads ((Schema.optional .natural).ofJson d) (.number (.int (n : Int))) (some n) := by
  refine reads_some_of_text (reads_natural hn) fun l i => ?_
  rw [text_natural]
  obtain ⟨c, cs, hd, hc⟩ := exists_toDigits n
  refine ⟨c, cs, hd, (opens_of_isDigit hc).1, ?_⟩
  rintro rfl
  cases hc

theorem reads_none : Reads ((Schema.optional s).ofJson d) .null none := by
  intro l n g rest hg _
  show (Schema.optional s).ofJson d (g ++ 'n' :: ('u' :: 'l' :: 'l' :: rest)) = _
  rw [Schema.ofJson, skipGaps_text hg rfl]
  rfl

/-! ### Choices -/

theorem reads_readChoice {options : List (String × α)} {x : String}
    (h : options.lookup x = some a) : Reads (readChoice options) (.string x) a := by
  intro l n g rest hg _
  rw [Layout.text, stringText_append, readChoice, expectString, skipGaps_text hg rfl]
  simp only [readString, readKey_flatMap, bind, Except.bind, h]
  rfl

theorem reads_choice {options : List (String × α)} {x : String}
    (h : options.lookup x = some a) : Reads ((Schema.choice options).ofJson d) (.string x) a := by
  intro l n g rest hg hf
  have hchoice := reads_readChoice h l n [] rest rfl hf
  rw [Layout.text, stringText_append, List.nil_append] at hchoice
  rw [Layout.text, stringText_append, Schema.ofJson, readOption, skipGaps_text hg rfl]
  exact hchoice

/-! ### Lists -/

variable {cs rest after : List Char}

theorem closing_list (a : α) (rest : List Char) :
    closing endList pastList (.ok (a, ']' :: rest)) = .ok (a, rest) := by
  have hend : skipGaps (']' :: rest) = ']' :: rest := skipGaps_cons rfl
  simp [closing, endList, hend, bind, Except.bind, pure, Except.pure]

theorem ofJson_list {as : List α} (h : skipGaps cs = '[' :: rest)
    (he : elements true (s.ofJson d) (rest.length + 1) true rest = .ok (as, ']' :: after)) :
    (Schema.list s).ofJson (d + 1) cs = .ok (as, after) := by
  simp only [Schema.ofJson, h, he]
  exact closing_list as after

theorem reads_list {vs : List Json} {as : List α}
    (h : List.Forall₂ (Reads (s.ofJson d)) vs as) :
    Reads ((Schema.list s).ofJson (d + 1)) (.array vs) as := by
  intro l n g rest hg _
  obtain ⟨inside, htext, hread⟩ := exists_elements h true l n rest
  rw [htext, List.cons_append]
  exact ofJson_list (skipGaps_text hg rfl) hread

/-! ### Records -/

section

variable {fields : Fields δ σ} {build : σ → α} {name : String}

theorem closing_object (a : α) (rest : List Char) :
    closing endObject pastObject (.ok (a, '\x7d' :: rest)) = .ok (a, rest) := by
  have hend : skipGaps ('\x7d' :: rest) = '\x7d' :: rest := skipGaps_cons rfl
  simp [closing, endObject, hend, bind, Except.bind, pure, Except.pure]

variable {draft : δ} {r : σ}

theorem ofJson_record (h : skipGaps cs = '\x7b' :: rest)
    (hm : members true readKey (fields.readMember d) (rest.length + 1) true fields.empty rest =
      .ok (draft, '\x7d' :: after))
    (hr : fields.finish draft = .ok r) :
    (Schema.record name fields build).ofJson (d + 1) cs = .ok (build r, after) := by
  simp only [Schema.ofJson, h, hm, hr, bind, Except.bind, pure, Except.pure]
  exact closing_object (build r) after

/-- A record is read from its members, whatever their order. -/
theorem reads_record {ms : List (String × Json)}
    (h : ReadsMembers (fields.readMember d) ms fields.empty draft)
    (hr : fields.finish draft = .ok r) :
    Reads ((Schema.record name fields build).ofJson (d + 1)) (.object ms) (build r) := by
  intro l n g rest hg _
  obtain ⟨inside, htext, hread⟩ := exists_members readsKey_readKey h true l n rest
  rw [htext, List.cons_append]
  exact ofJson_record (skipGaps_text hg rfl) hread hr

end

/-! ### Members -/

section

variable {fields : Fields δ σ} {name : String} {missing : Missing α} {v : Json} {draft draft' : δ}

theorem readsMember_here (h : Reads (s.ofJson d) v a) (draft : δ) :
    ReadsMember ((Fields.cons name missing s fields).readMember d) (name, v) (none, draft)
      (some a, draft) := by
  intro l n rest hf
  have hv := h l n l.space rest l.gaps_space hf
  simp [Fields.readMember, colon_cons, hv, bind, Except.bind, pure, Except.pure]

theorem readsMember_there {m : String × Json} (hk : m.1 ≠ name)
    (h : ReadsMember (fields.readMember d) m draft draft') (o : Option α) :
    ReadsMember ((Fields.cons name missing s fields).readMember d) m (o, draft) (o, draft') := by
  intro l n rest hf
  have hm := h l n rest hf
  simp [Fields.readMember, hk, hm, bind, Except.bind, pure, Except.pure]

theorem readsMembers_there {ms : List (String × Json)} (hk : ∀ m ∈ ms, m.1 ≠ name)
    (h : ReadsMembers (fields.readMember d) ms draft draft') (o : Option α) :
    ReadsMembers ((Fields.cons name missing s fields).readMember d) ms (o, draft) (o, draft') := by
  induction h with
  | nil => exact .nil _
  | cons hm _ ih =>
    exact .cons (readsMember_there (hk _ List.mem_cons_self) hm o)
      (ih fun m hm => hk m (List.mem_cons_of_mem _ hm))

end

/-- What stands in for a field that is missing. -/
def Missing.standing? : Missing α → Option α
  | .required => none
  | .byName a => some a
  | .always a => some a

theorem finish_found {fields : Fields δ σ} {name : String} {missing : Missing α} {draft : δ} {r : σ}
    (h : fields.finish draft = .ok r) (a : α) :
    (Fields.cons name missing s fields).finish (some a, draft) = .ok (a, r) := by
  simp [Fields.finish, h, bind, Except.bind, pure, Except.pure]

theorem finish_absent {fields : Fields δ σ} {name : String} {missing : Missing α} {draft : δ}
    {r : σ} (h : fields.finish draft = .ok r) (ha : missing.standing? = some a) :
    (Fields.cons name missing s fields).finish (none, draft) = .ok (a, r) := by
  cases missing with
  | required => cases ha
  | byName b => cases ha; simp [Fields.finish, h, bind, Except.bind, pure, Except.pure]
  | always b => cases ha; simp [Fields.finish, h, bind, Except.bind, pure, Except.pure]

/-- Members that hold the values of fields in their order. A field may be left
out when something stands in for it. -/
inductive Held (d : Nat) : {δ σ : Type} → Fields δ σ → List (String × Json) → σ → Prop where
  | nil : Held d .nil [] ()
  | found {α δ σ : Type} {name : String} {missing : Missing α} {s : Schema α} {rest : Fields δ σ}
      {v : Json} {a : α} {ms : List (String × Json)} {r : σ} :
      name ∉ rest.names → Reads (s.ofJson d) v a → Held d rest ms r →
      Held d (.cons name missing s rest) ((name, v) :: ms) (a, r)
  | absent {α δ σ : Type} {name : String} {missing : Missing α} {s : Schema α} {rest : Fields δ σ}
      {a : α} {ms : List (String × Json)} {r : σ} :
      name ∉ rest.names → missing.standing? = some a → Held d rest ms r →
      Held d (.cons name missing s rest) ms (a, r)

theorem Held.mem_names {fields : Fields δ σ} {ms : List (String × Json)} {r : σ}
    (h : Held d fields ms r) : ∀ m ∈ ms, m.1 ∈ fields.names := by
  induction h with
  | nil => simp
  | found _ _ _ ih =>
    intro m hm
    rcases List.mem_cons.1 hm with rfl | hm
    · exact List.mem_cons_self
    · exact List.mem_cons_of_mem _ (ih m hm)
  | absent _ _ _ ih => exact fun m hm => List.mem_cons_of_mem _ (ih m hm)

theorem Held.exists_draft {fields : Fields δ σ} {ms : List (String × Json)} {r : σ}
    (h : Held d fields ms r) :
    ∃ draft, ReadsMembers (fields.readMember d) ms fields.empty draft ∧
      fields.finish draft = .ok r := by
  induction h with
  | nil => exact ⟨(), .nil _, rfl⟩
  | @found α δ σ name missing s rest v a ms r hn hv hms ih =>
    obtain ⟨draft, hread, hfinish⟩ := ih
    have hk : ∀ m ∈ ms, m.1 ≠ name := fun m hm e => hn (e ▸ hms.mem_names m hm)
    exact ⟨(some a, draft), .cons (readsMember_here hv _) (readsMembers_there hk hread _),
      finish_found hfinish a⟩
  | @absent α δ σ name missing s rest a ms r hn ha hms ih =>
    obtain ⟨draft, hread, hfinish⟩ := ih
    have hk : ∀ m ∈ ms, m.1 ≠ name := fun m hm e => hn (e ▸ hms.mem_names m hm)
    exact ⟨(none, draft), readsMembers_there hk hread _, finish_absent hfinish ha⟩

/-- A record is read from members that hold its fields. -/
theorem Held.reads_record {fields : Fields δ σ} {ms : List (String × Json)} {r : σ}
    (h : Held d fields ms r) (name : String) (build : σ → α) :
    Reads ((Schema.record name fields build).ofJson (d + 1)) (.object ms) (build r) := by
  obtain ⟨draft, hread, hfinish⟩ := h.exists_draft
  exact Schema.reads_record hread hfinish

/-! ### Whole texts -/

theorem parseJson_text {v : Json} (h : Reads (s.ofJson depthLimit) v a) (l : Layout) :
    s.parseJson (String.ofList (l.text 0 v)) = .ok a := by
  have hv := h l 0 [] [] rfl follows_nil
  rw [List.nil_append, List.append_nil] at hv
  simp [Schema.parseJson, document, hv, skipGaps]

theorem parseJson_compactText {v : Json} (h : Reads (s.ofJson depthLimit) v a) :
    s.parseJson v.text = .ok a := by
  rw [Json.text, ← Layout.text_plain 0]
  exact parseJson_text h .plain

theorem parseJson_prettyText {v : Json} (h : Reads (s.ofJson depthLimit) v a) :
    s.parseJson v.prettyText = .ok a := by
  rw [Json.prettyText, ← Layout.text_indented]
  exact parseJson_text h .indented

end SheetExport.Schema

/-!
## Readers that take less than others

`Narrows` says that one reader takes a text just if another one does and gives
something that stands for a result of the first. It passes from elements to lists
and to whole texts. An array is read where a bracket opens: `value_eq_array`.
-/

namespace SheetExport.Json

variable {α β : Type} {item : Reader α} {item' : Reader β} {R : α → β → Prop}
  {cs rest : List Char} {d : Nat} {s : String} {b : β}

/-- A reader takes of the texts that another one takes those whose results stand for
results of its own, and leaves the same. -/
def Narrows (item' : Reader β) (item : Reader α) (R : α → β → Prop) : Prop :=
  ∀ cs b rest, item' cs = .ok (b, rest) ↔ ∃ a, item cs = .ok (a, rest) ∧ R a b

theorem elements_succ_eq_ok {strict first : Bool} {rounds : Nat} {as : List α} :
    elements strict item (rounds + 1) first cs = .ok (as, rest) ↔
      (nextElement strict first cs = .ok (false, rest) ∧ as = []) ∨
      ∃ a as' cs' cs'', nextElement strict first cs = .ok (true, cs') ∧
        item cs' = .ok (a, cs'') ∧ elements strict item rounds false cs'' = .ok (as', rest) ∧
        as = a :: as' := by
  rw [elements, Except.bind_eq_ok]
  constructor
  · rintro ⟨⟨_ | _, cs'⟩, hnext, h⟩
    · cases h
      exact .inl ⟨hnext, rfl⟩
    · obtain ⟨⟨a, cs''⟩, ha, h⟩ := Except.bind_eq_ok.1 h
      obtain ⟨⟨as', rest'⟩, has, h⟩ := Except.bind_eq_ok.1 h
      cases h
      exact .inr ⟨a, as', cs', cs'', hnext, ha, has, rfl⟩
  · rintro (⟨hnext, rfl⟩ | ⟨a, as', cs', cs'', hnext, ha, has, rfl⟩)
    · exact ⟨(false, rest), hnext, rfl⟩
    · have hread := Except.bind_eq_ok (f := fun p => pure (a :: p.1, p.2)).2
        ⟨(as', rest), has, rfl⟩
      exact ⟨(true, cs'), hnext, Except.bind_eq_ok.2 ⟨(a, cs''), ha, hread⟩⟩

theorem Narrows.elements (h : Narrows item' item R) (strict : Bool) (rounds : Nat)
    (first : Bool) :
    Narrows (elements strict item' rounds first) (elements strict item rounds first)
      (List.Forall₂ R) := by
  induction rounds generalizing first with
  | zero =>
    intro cs bs rest
    simp [Json.elements, fault]
  | succ rounds ih =>
    intro cs bs rest
    simp only [elements_succ_eq_ok]
    constructor
    · rintro (⟨hnext, rfl⟩ | ⟨b, bs, cs', cs'', hnext, hb, hbs, rfl⟩)
      · exact ⟨[], .inl ⟨hnext, rfl⟩, .nil⟩
      · obtain ⟨a, ha, hab⟩ := (h _ _ _).1 hb
        obtain ⟨as, has, hasbs⟩ := (ih false _ _ _).1 hbs
        exact ⟨a :: as, .inr ⟨a, as, cs', cs'', hnext, ha, has, rfl⟩, .cons hab hasbs⟩
    · rintro ⟨_, ⟨hnext, rfl⟩ | ⟨a, as, cs', cs'', hnext, ha, has, rfl⟩, hread⟩
      · cases hread
        exact .inl ⟨hnext, rfl⟩
      · obtain _ | ⟨hab, hasbs⟩ := hread
        exact .inr ⟨_, _, cs', cs'', hnext, (h _ _ _).2 ⟨a, ha, hab⟩,
          (ih false _ _ _).2 ⟨as, has, hasbs⟩, rfl⟩

/-- The end of a list or object is read only after its content was. -/
theorem closing_eq_ok {ending : List Char → Except Fault (List Char)}
    {past : List Char → List Char} {x : Except Fault (α × List Char)} {a : α} :
    closing ending past x = .ok (a, rest) ↔ ∃ cs, x = .ok (a, cs) ∧ ending cs = .ok rest := by
  rcases x with e | ⟨a', cs⟩
  · simp [closing]
  · rw [closing, Except.bind_eq_ok]
    constructor
    · rintro ⟨rest', hend, hout⟩
      cases hout
      exact ⟨cs, rfl, hend⟩
    · rintro ⟨cs', hout, hend⟩
      cases hout
      exact ⟨rest, hend, rfl⟩

theorem Narrows.closing {ending : List Char → Except Fault (List Char)}
    {past : List Char → List Char} (h : Narrows item' item R) :
    closing ending past (item' cs) = .ok (b, rest) ↔
      ∃ a, closing ending past (item cs) = .ok (a, rest) ∧ R a b := by
  simp only [closing_eq_ok, h _ _ _]
  constructor
  · rintro ⟨cs', ⟨a, ha, hab⟩, hend⟩
    exact ⟨a, ⟨cs', ha, hend⟩, hab⟩
  · rintro ⟨a, ⟨cs', ha, hend⟩, hab⟩
    exact ⟨cs', ⟨a, ha, hab⟩, hend⟩

theorem document_eq_ok {read : Reader α} {a : α} :
    document read s = .ok a ↔ ∃ rest, read s.toList = .ok (a, rest) ∧ skipGaps rest = [] := by
  cases h : read s.toList with
  | error e => simp [document, h]
  | ok x =>
    obtain ⟨a', rest⟩ := x
    cases hrest : skipGaps rest with
    | nil => simp [document, h, hrest]
    | cons c cs => simp [document, h, hrest]

theorem Narrows.document (h : Narrows item' item R) :
    document item' s = .ok b ↔ ∃ a, document item s = .ok a ∧ R a b := by
  simp only [document_eq_ok, h _ _ _]
  constructor
  · rintro ⟨rest, ⟨a, ha, hab⟩, hrest⟩
    exact ⟨a, ⟨rest, ha, hrest⟩, hab⟩
  · rintro ⟨a, ⟨rest, ha, hrest⟩, hab⟩
    exact ⟨rest, ⟨a, ha, hab⟩, hrest⟩

/-! ### Scalars and arrays -/

/-- Neither an array nor an object. -/
def IsScalar : Json → Prop
  | .array _ => False
  | .object _ => False
  | _ => True

theorem isScalar_of_scalar? {v : Json} (h : scalar? cs = .ok (some (v, rest))) : IsScalar v := by
  revert h
  fun_cases scalar? cs
  all_goals
    intro h
    first
    | cases h
    | obtain ⟨r, -, h⟩ := Except.bind_eq_ok.1 h
      cases h
      exact trivial

/-- An array is read just where its bracket opens, as a list of values. -/
theorem value_eq_array {vs : List Json} : value d cs = .ok (.array vs, rest) ↔
    ∃ cs' d', skipGaps cs = '[' :: cs' ∧ d = d' + 1 ∧
      closing endList pastList (elements true (value d') (cs'.length + 1) true cs') =
        .ok (vs, rest) := by
  constructor
  · intro h
    rw [value.eq_def, Except.bind_eq_ok] at h
    obtain ⟨_ | ⟨v, cs'⟩, hs, h⟩ := h
    · cases d with
      | zero => cases h
      | succ d =>
        dsimp only at h
        split at h
        · next hhead =>
          obtain ⟨cs', hcs⟩ := List.head?_eq_some_iff.1 hhead
          rw [hcs, Except.bind_eq_ok] at h
          obtain ⟨⟨vs', rest'⟩, hread, hout⟩ := h
          cases hout
          exact ⟨cs', d, hcs, rfl, hread⟩
        · rw [Except.bind_eq_ok] at h
          obtain ⟨⟨ms, rest'⟩, -, hout⟩ := h
          cases hout
    · cases h
      exact (isScalar_of_scalar? hs).elim
  · rintro ⟨cs', d, hcs, rfl, hread⟩
    rw [value, hcs, scalar?]
    simp only [List.length_cons, List.tail_cons, List.head?_cons, if_true, hread, bind, Except.bind]
    rfl

theorem unlike_ne_ok {expected : String} {a : α} : unlike expected cs ≠ .ok a := by
  unfold unlike
  rw [ne_eq, Except.bind_eq_ok]
  rintro ⟨_ | ⟨v, rest⟩, -, h⟩ <;> cases h

end SheetExport.Json
