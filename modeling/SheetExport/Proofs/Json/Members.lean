import SheetExport.Proofs.Json.Decode
import SheetExport.Proofs.Json.Skip

/-!
# Values and records that are read back

Written values are read back, and records also among members that are none of theirs.
-/

/-!
## Values that are read back

A value whose numbers are integers of 64 bits, with no more brackets open at a
time than a reader allows, is read back from its own text: `Plain.reads` for any
layout, `parse_text` for a whole text.
-/

namespace SheetExport.Json

open Schema (closing_list closing_object scalar?_toDigits skipGaps_text text_natural)

/-- A value of integers of 64 bits, texts and the like within a depth of brackets. -/
inductive Plain : Nat → Json → Prop where
  | null (d : Nat) : Plain d .null
  | bool (d : Nat) (b : Bool) : Plain d (.bool b)
  | int (d : Nat) {i : Int} :
      Int64.minValue.toInt ≤ i → i < UInt64.size → Plain d (.number (.int i))
  | string (d : Nat) (s : String) : Plain d (.string s)
  | array {d : Nat} {vs : List Json} : (∀ v ∈ vs, Plain d v) → Plain (d + 1) (.array vs)
  | object {d : Nat} {ms : List (String × Json)} :
      (∀ m ∈ ms, Plain d m.2) → Plain (d + 1) (.object ms)

variable {d : Nat} {i : Int} {v : Json} {vs : List Json} {ms : List (String × Json)}

/-! ### Values without brackets -/

theorem reads_of_scalar (h : ∀ (l : Layout) (n : Nat) (rest : List Char), Follows rest →
    scalar? (l.text n v ++ rest) = .ok (some (v, rest))) : Reads (value d) v v := by
  intro l n g rest hg hf
  obtain ⟨c, ds, hc, hopens⟩ := l.begins_text n v
  have hgaps : skipGaps (g ++ (l.text n v ++ rest)) = l.text n v ++ rest := by
    rw [hc, List.cons_append]
    exact skipGaps_text hg hopens.1
  rw [value.eq_def]
  simp only [hgaps, h l n rest hf, bind, Except.bind, pure, Except.pure]

theorem text_negative (l : Layout) (k n : Nat) :
    l.text k (.number (.int (Int.negSucc n))) = '-' :: Nat.toDigits 10 (n + 1) := by
  simp [Layout.text, Number.text, intText, Int.toString_eq_repr, Int.repr_eq_if]

theorem scalar?_int (hlo : Int64.minValue.toInt ≤ i) (hhi : i < UInt64.size) (l : Layout)
    (k : Nat) (rest : List Char) (hf : Follows rest) :
    scalar? (l.text k (.number (.int i)) ++ rest) = .ok (some (.number (.int i), rest)) := by
  cases i with
  | ofNat n =>
    rw [Int.ofNat_eq_natCast, text_natural]
    exact scalar?_toDigits (Int.ofNat_lt.1 hhi) hf
  | negSucc n =>
    have hmin : Int64.minValue.toInt = -9223372036854775808 := rfl
    have hn : n + 1 ≤ Int64.minValue.toInt.natAbs := by
      rw [hmin] at hlo ⊢
      omega
    have hread := readNumber_toDigits true
      (Nat.lt_of_le_of_lt hn (by decide : Int64.minValue.toInt.natAbs < UInt64.size)) hf
    have hwhole : wholeNumber true (n + 1) = .int (Int.negSucc n) := by
      rw [wholeNumber, if_pos rfl, if_pos ⟨Nat.succ_pos n, hn⟩]
      rfl
    rw [text_negative, List.cons_append, scalar?, hread, hwhole]
    rfl

theorem scalar?_string (s : String) (l : Layout) (n : Nat) (rest : List Char) :
    scalar? (l.text n (.string s) ++ rest) = .ok (some (.string s, rest)) := by
  rw [Layout.text, stringText_append, scalar?]
  simp only [readString, readKey_flatMap, bind, Except.bind, pure, Except.pure]

/-! ### Arrays and objects -/

theorem readsMembers_value (h : ∀ m ∈ ms, Reads (value d) m.2 m.2)
    (done : List (String × Json)) :
    ReadsMembers (memberWith (value d)) ms done (ms.reverse ++ done) := by
  induction ms generalizing done with
  | nil => exact .nil done
  | cons m ms ih =>
    obtain ⟨hm, hms⟩ := List.forall_mem_cons.1 h
    rw [List.reverse_cons, List.append_assoc, List.singleton_append]
    refine .cons (fun l n rest hf => ?_) (ih hms (m :: done))
    simp only [memberWith, colon_cons, hm l n l.space rest l.gaps_space hf, bind, Except.bind, pure,
      Except.pure]

theorem reads_array (h : ∀ v ∈ vs, Reads (value d) v v) :
    Reads (value (d + 1)) (.array vs) (.array vs) := by
  intro l n g rest hg _
  obtain ⟨inside, htext, hread⟩ := exists_elements (List.forall₂_same.2 h) true l n rest
  rw [htext, List.cons_append, value, skipGaps_text hg rfl, scalar?]
  simp only [List.length_cons, List.tail_cons, List.head?_cons, if_true, hread, closing_list, bind,
    Except.bind]
  rfl

theorem reads_object (h : ∀ m ∈ ms, Reads (value d) m.2 m.2) :
    Reads (value (d + 1)) (.object ms) (.object ms) := by
  intro l n g rest hg _
  obtain ⟨inside, htext, hread⟩ :=
    exists_members readsKey_readKey (readsMembers_value h []) true l n rest
  rw [htext, List.cons_append, value, skipGaps_text hg rfl, scalar?]
  simp only [List.length_cons, List.tail_cons, List.head?_cons, hread, closing_object, bind,
    Except.bind]
  simp [pure, Except.pure]

/-! ### Whole values -/

theorem Plain.reads (h : Plain d v) : Reads (value d) v v := by
  induction h with
  | null d => exact reads_of_scalar fun _ _ _ _ => rfl
  | bool d b => cases b <;> exact reads_of_scalar fun _ _ _ _ => rfl
  | int d hlo hhi => exact reads_of_scalar (scalar?_int hlo hhi)
  | string d s => exact reads_of_scalar fun l n rest _ => scalar?_string s l n rest
  | array _ ih => exact reads_array ih
  | object _ ih => exact reads_object ih

/-- The text of a value is parsed as the value. -/
theorem parse_text (h : Plain depthLimit v) : parse v.text = .ok v := by
  have hv := h.reads .plain 0 [] [] rfl follows_nil
  rw [List.nil_append, List.append_nil, Layout.text_plain] at hv
  simp [parse, document, Json.text, hv, skipGaps]

end SheetExport.Json

/-!
## Records among other members

The members of a record may come in any order and among others, whose values may
be anything: what is read depends on the members that name its fields alone.
`PartOf` is a choice of written members among others; `Among.reads_record` reads
them as a record. A union is read from its tag and the members after it.
-/

namespace SheetExport.Schema

open Json

variable {α δ σ : Type} {s : Schema α} {d : Nat} {a : α} {name : String} {missing : Missing α}
  {fields : Fields δ σ} {draft draft' : δ} {r : σ} {ms : List (String × Json)} {v : Json}

/-! ### One field after the other -/

theorem readsMembers_nil (ms : List (String × Json)) (u : Unit) :
    ReadsMembers (Fields.nil.readMember d) ms u u := by
  induction ms with
  | nil => exact .nil u
  | cons m ms ih =>
    refine .cons (fun l n rest hf => ?_) ih
    have hskip := reads_skip m.2 l n l.space rest l.gaps_space hf
    simp [Fields.readMember, colon_cons, hskip, bind, Except.bind, pure, Except.pure]

theorem readsMembers_append {step : String → δ → Reader δ} {ms' : List (String × Json)} :
    ReadsMembers step (ms ++ ms') draft draft' ↔
      ∃ e, ReadsMembers step ms draft e ∧ ReadsMembers step ms' e draft' := by
  constructor
  · intro h
    induction ms generalizing draft with
    | nil => exact ⟨draft, .nil draft, h⟩
    | cons m ms ih =>
      obtain _ | ⟨hm, hms⟩ := h
      obtain ⟨e, hpre, hpost⟩ := ih hms
      exact ⟨e, .cons hm hpre, hpost⟩
  · rintro ⟨e, hpre, hpost⟩
    exact hpre.append hpost

/-- A field takes the only member of its name, and leaves the others to the other
fields. -/
theorem readsMembers_field (hname : ms.filter (fun m => m.1 = name) = [(name, v)])
    (hv : Reads (s.ofJson d) v a)
    (h : ReadsMembers (fields.readMember d) (ms.filter fun m => m.1 ≠ name) draft draft') :
    ReadsMembers ((Fields.cons name missing s fields).readMember d) ms (none, draft)
      (some a, draft') := by
  obtain ⟨pre, post, rfl, hpre, -, hpost⟩ := List.filter_eq_cons_iff.1 hname
  have hpre : ∀ m ∈ pre, m.1 ≠ name := by simpa using hpre
  have hpost : ∀ m ∈ post, m.1 ≠ name := by simpa [List.filter_eq_nil_iff] using hpost
  have hothers : (pre ++ (name, v) :: post).filter (fun m => m.1 ≠ name) = pre ++ post := by
    rw [List.filter_append, List.filter_cons_of_neg (by simp)]
    rw [List.filter_eq_self.2 (by simpa using hpre), List.filter_eq_self.2 (by simpa using hpost)]
  rw [hothers] at h
  obtain ⟨e, hreadPre, hreadPost⟩ := readsMembers_append.1 h
  refine (readsMembers_there hpre hreadPre none).append (.cons (readsMember_here hv e) ?_)
  exact readsMembers_there hpost hreadPost (some a)

/-! ### Records -/

/-- Members in any order that hold the values of fields, among others that name none
of the fields. A field may be left out when something stands in for it. -/
inductive Among (d : Nat) (ms : List (String × Json)) : {δ σ : Type} → Fields δ σ → σ → Prop where
  | nil : Among d ms .nil ()
  | found {α δ σ : Type} {name : String} {missing : Missing α} {s : Schema α} {rest : Fields δ σ}
      {v : Json} {a : α} {r : σ} :
      ms.filter (fun m => m.1 = name) = [(name, v)] → Reads (s.ofJson d) v a → Among d ms rest r →
      Among d ms (.cons name missing s rest) (a, r)
  | absent {α δ σ : Type} {name : String} {missing : Missing α} {s : Schema α} {rest : Fields δ σ}
      {a : α} {r : σ} :
      ms.filter (fun m => m.1 = name) = [] → missing.standing? = some a → Among d ms rest r →
      Among d ms (.cons name missing s rest) (a, r)

theorem Among.exists_draft (h : Among d ms fields r) (hnames : fields.names.Nodup)
    {ms' : List (String × Json)}
    (hms : ∀ n ∈ fields.names, ms'.filter (fun m => m.1 = n) = ms.filter fun m => m.1 = n) :
    ∃ draft, ReadsMembers (fields.readMember d) ms' fields.empty draft ∧
      fields.finish draft = .ok r := by
  induction h generalizing ms' with
  | nil => exact ⟨(), readsMembers_nil ms' (), rfl⟩
  | @found α δ σ name missing s rest v a r hname hv h ih =>
    obtain ⟨hfresh, hnames⟩ := List.nodup_cons.1 hnames
    obtain ⟨hms, hrest⟩ := List.forall_mem_cons.1 hms
    have hothers : ∀ n ∈ rest.names, (ms'.filter fun m => m.1 ≠ name).filter (fun m => m.1 = n) =
        ms.filter fun m => m.1 = n := by
      intro n hn
      have hne : n ≠ name := fun e => hfresh (e ▸ hn)
      rw [← hrest n hn, List.filter_filter]
      refine List.filter_congr fun m _ => ?_
      by_cases hm : m.1 = n <;> simp [hm, hne]
    obtain ⟨draft, hread, hfinish⟩ := ih hnames hothers
    exact ⟨(some a, draft), readsMembers_field (hms.trans hname) hv hread,
      finish_found hfinish a⟩
  | @absent α δ σ name missing s rest a r hname ha h ih =>
    obtain ⟨-, hnames⟩ := List.nodup_cons.1 hnames
    obtain ⟨hms, hrest⟩ := List.forall_mem_cons.1 hms
    obtain ⟨draft, hread, hfinish⟩ := ih hnames hrest
    have hnone : ∀ m ∈ ms', m.1 ≠ name := by
      simpa [List.filter_eq_nil_iff] using hms.trans hname
    exact ⟨(none, draft), readsMembers_there hnone hread none, finish_absent hfinish ha⟩

/-- A record is read from members among which are its own. -/
theorem Among.reads_record (h : Among d ms fields r) (hnames : fields.names.Nodup)
    (name : String) (build : σ → α) :
    Reads ((Schema.record name fields build).ofJson (d + 1)) (.object ms) (build r) := by
  obtain ⟨draft, hread, hfinish⟩ := h.exists_draft hnames fun _ _ => rfl
  exact Schema.reads_record hread hfinish

/-! ### Parts of documents -/

variable {written : List (String × Json)} {F : List String}

/-- Members in any order, some of which are those of a document that have certain
names; all others have names that the document does not use. -/
def PartOf (written : List (String × Json)) (F : List String) (ms : List (String × Json)) : Prop :=
  ∃ extras, (∀ m ∈ extras, m.1 ∉ written.map Prod.fst) ∧
    ms.Perm (written.filter (fun m => m.1 ∈ F) ++ extras)

theorem filter_name (hwritten : (written.map Prod.fst).Nodup) (hv : (name, v) ∈ written) :
    written.filter (fun m => m.1 = name) = [(name, v)] := by
  obtain ⟨pre, post, rfl⟩ := List.append_of_mem hv
  rw [List.map_append, List.map_cons, List.perm_middle.nodup_iff, List.nodup_cons,
    ← List.map_append, List.mem_map] at hwritten
  have hfresh : ∀ m ∈ pre ++ post, m.1 ≠ name := fun m hm e => hwritten.1 ⟨m, hm, e⟩
  obtain ⟨hpre, hpost⟩ := List.forall_mem_append.1 hfresh
  rw [List.filter_append, List.filter_cons_of_pos (by simp),
    List.filter_eq_nil_iff.2 (by simpa using hpre), List.filter_eq_nil_iff.2 (by simpa using hpost),
    List.nil_append]

theorem PartOf.filter_name (h : PartOf written F ms) (hwritten : (written.map Prod.fst).Nodup)
    (hv : (name, v) ∈ written) :
    ms.filter (fun m => m.1 = name) = if name ∈ F then [(name, v)] else [] := by
  obtain ⟨extras, hextras, hms⟩ := h
  have hnone : extras.filter (fun m => m.1 = name) = [] := by
    refine List.filter_eq_nil_iff.2 fun m hm hname => hextras m hm ?_
    exact List.mem_map.2 ⟨(name, v), hv, (of_decide_eq_true hname).symm⟩
  have hperm := hms.filter fun m => m.1 = name
  rw [List.filter_append, hnone, List.append_nil, List.filter_comm,
    Schema.filter_name hwritten hv] at hperm
  split
  · next hF => exact List.perm_singleton.1 (by simpa [hF] using hperm)
  · next hF => exact List.perm_nil.1 (by simpa [hF] using hperm)

/-- A field that a document holds is read from a part of it, or something stands in
for it. -/
theorem Among.field {b : α} (h : Among d ms fields r) (hpart : PartOf written F ms)
    (hwritten : (written.map Prod.fst).Nodup) (hv : (name, v) ∈ written)
    (hread : Reads (s.ofJson d) v a) (hb : missing.standing? = some b) :
    Among d ms (.cons name missing s fields) (if name ∈ F then a else b, r) := by
  have hname := hpart.filter_name hwritten hv
  split at hname
  · next hF =>
    rw [if_pos hF]
    exact .found hname hread h
  · next hF =>
    rw [if_neg hF]
    exact .absent hname hb h

/-! ### Unions -/

theorem lookup_self {names : List String} {t : String} (h : t ∈ names) :
    (names.map fun n => (n, n)).lookup t = some t := by
  induction names with
  | nil => cases h
  | cons n names ih =>
    rw [List.map_cons, List.lookup_cons]
    by_cases hn : t = n
    · simp [hn]
    · have hmem : t ∈ names := (List.mem_cons.1 h).resolve_left hn
      simp [beq_eq_false_iff_ne.2 hn, ih hmem]

theorem readsMembers_tagged {tag : String} (names : List String) (t : Option String)
    (h : ∀ m ∈ ms, m.1 ≠ tag ∧ Reads (value d) m.2 m.2) (done : List (String × Json)) :
    ReadsMembers (readTagged d tag names) ms (t, done) (t, ms.reverse ++ done) := by
  induction ms generalizing done with
  | nil => exact .nil (t, done)
  | cons m ms ih =>
    obtain ⟨⟨htag, hm⟩, hms⟩ := List.forall_mem_cons.1 h
    rw [List.reverse_cons, List.append_assoc, List.singleton_append]
    refine .cons (fun l n rest hf => ?_) (ih hms (m :: done))
    simp only [readTagged, htag, if_false, colon_cons, hm l n l.space rest l.gaps_space hf, bind,
      Except.bind, pure, Except.pure]

theorem readsMember_tag {tag t : String} {names : List String} (h : t ∈ names)
    (done : List (String × Json)) :
    ReadsMember (readTagged d tag names) (tag, .string t) (none, done) (some t, done) := by
  intro l n rest hf
  have ht := reads_readChoice (lookup_self h) l n l.space rest l.gaps_space hf
  simp [readTagged, colon_cons, ht, bind, Except.bind, pure, Except.pure]

theorem readUnion_object {cs rest after : List Char} {title tag t : String} {names : List String}
    (h : skipGaps cs = '\x7b' :: rest)
    (hm : members true readKey (readTagged d tag names) (rest.length + 1) true (none, []) rest =
      .ok ((some t, ms), '\x7d' :: after)) :
    readUnion (d + 1) title tag names cs = .ok ((t, .map (toPairs ms.reverse)), after) := by
  simp only [readUnion, h, hm, bind, Except.bind, pure, Except.pure]
  exact closing_object _ after

/-- A union is read from its tag and the members of the variant that this names. -/
theorem reads_union {tag title t : String} {variants : Variants α} (ht : t ∈ variants.names)
    (hms : ∀ m ∈ ms, m.1 ≠ tag ∧ Reads (value d) m.2 m.2)
    (h : variants.ofContent variants.names t (.map (toPairs ms)) = .ok a) :
    Reads ((Schema.union title tag variants).ofJson (d + 1)) (.object ((tag, .string t) :: ms))
      a := by
  intro l n g rest hg _
  have hmembers : ReadsMembers (readTagged d tag variants.names) ((tag, .string t) :: ms)
      (none, []) (some t, ms.reverse ++ []) :=
    .cons (readsMember_tag ht []) (readsMembers_tagged variants.names (some t) hms [])
  obtain ⟨inside, htext, hread⟩ := exists_members readsKey_readKey hmembers true l n rest
  have hunion : readUnion (d + 1) title tag variants.names _ = _ :=
    readUnion_object (skipGaps_text hg rfl) hread
  rw [List.append_nil, List.reverse_reverse] at hunion
  rw [htext, List.cons_append, Schema.ofJson, hunion]
  simp only [bind, Except.bind, h, pure, Except.pure]

end SheetExport.Schema
