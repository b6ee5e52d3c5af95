import SheetExport.Tab

/-!
# Delimited text that is read back

Two readers of delimited text: one ends records at line feeds, the other at carriage
returns too. The first recovers every grid, the second those that it does not split.
-/

/-!
## Reading delimited text

`Csv.records` reads a text back as records of fields, one character at a time:
`Mode` is where in a field the reader stands. A field that starts with a
double quote ends at the first double quote that is not doubled; any other
double quote is malformed and there is no answer. Main statement: what
`Csv.grid` writes reads back as what its cells show.
-/

namespace SheetExport.Csv

/-! ### The reader -/

/-- Where a reader stands: at the start of a field, there but just after a
carriage return that ended a record, inside a plain or a quoted field, or after
a double quote in a quoted field. -/
inductive Mode where
  | start
  | returned
  | plain
  | quoted
  | closed
  deriving DecidableEq, Repr

/-- Records of fields; the first field of the first record is being read. -/
abbrev Records := List (List (List Char))

def pushChar (c : Char) : Records → Records
  | (f :: fs) :: rs => ((c :: f) :: fs) :: rs
  | rs => rs

def pushField : Records → Records
  | r :: rs => ([] :: r) :: rs
  | [] => []

def pushRecord (rs : Records) : Records := [[]] :: rs

/-- The records of what is left of a text. Line feeds end a record and, if
`returns`, so do carriage returns with or without a line feed after them. -/
def records (f : Csv) (returns : Bool) : Mode → List Char → Option Records
  | .quoted, [] => none
  | _, [] => some [[[]]]
  | .quoted, c :: cs =>
    if c = '"' then records f returns .closed cs
    else (records f returns .quoted cs).map (pushChar c)
  | p, c :: cs =>
    if p = .returned ∧ c = '\n' then records f returns .start cs
    else if c = f.delimiter then (records f returns .start cs).map pushField
    else if c = '\n' then (records f returns .start cs).map pushRecord
    else if returns ∧ c = '\r' then (records f returns .returned cs).map pushRecord
    else if c = '"' then
      match p with
      | .plain => none
      | .closed => (records f returns .quoted cs).map (pushChar '"')
      | _ => records f returns .quoted cs
    else if p = .closed then none
    else (records f returns .plain cs).map (pushChar c)

/-- The records of a text, with line feeds between them. -/
def read? (f : Csv) (text : String) : Option (List (List String)) :=
  (f.records false .start text.toList).map (List.map (List.map String.ofList))

/-! ### Fields -/

/-- A field or the whole text ends here. -/
def EndsField (f : Csv) (returns : Bool) : List Char → Prop
  | [] => True
  | c :: _ => c = f.delimiter ∨ c = '\n' ∨ (returns = true ∧ c = '\r')

def pushText (cs : List Char) (rs : Records) : Records := cs.foldr pushChar rs

variable {f : Csv} {returns : Bool} {rest : List Char} {rs : Records}

theorem pushText_cons_cons (cs g : List Char) (fs : List (List Char)) (rs : Records) :
    pushText cs ((g :: fs) :: rs) = ((cs ++ g) :: fs) :: rs := by
  induction cs with
  | nil => rfl
  | cons c cs ih => exact congrArg (pushChar c) ih

theorem map_pushText_cons (c : Char) (cs : List Char) (o : Option Records) :
    o.map (pushText (c :: cs)) = (o.map (pushText cs)).map (pushChar c) := by
  rw [Option.map_map]
  rfl

theorem map_pushText_nil (o : Option Records) : o.map (pushText []) = o := by
  cases o <;> rfl

/-- Where a field ends it does not matter whether it was begun, plain or quoted. -/
theorem records_of_endsField (h : f.EndsField returns rest) {p : Mode}
    (hp : p = .start ∨ p = .plain) :
    f.records returns p rest = f.records returns .closed rest := by
  cases rest with
  | nil => rcases hp with rfl | rfl <;> rfl
  | cons c cs =>
    by_cases hd : c = f.delimiter
    · rcases hp with rfl | rfl <;> simp [records, hd]
    · rcases h.resolve_left hd with rfl | ⟨hr, rfl⟩
      · rcases hp with rfl | rfl <;> simp [records, hd]
      · rcases hp with rfl | rfl <;> simp [records, hd, hr]

theorem records_doubled (hq : f.delimiter ≠ '"') (cs : List Char) :
    f.records returns .quoted (doubled cs ++ '"' :: rest) =
      (f.records returns .closed rest).map (pushText cs) := by
  induction cs with
  | nil => simp [doubled, records, map_pushText_nil]
  | cons c cs ih =>
    simp only [doubled, List.flatMap_cons, List.append_assoc] at ih ⊢
    rw [map_pushText_cons, ← ih]
    by_cases hc : c = '"'
    · subst hc
      simp [records, Ne.symm hq]
    · simp [records, hc]

theorem records_cons {c : Char} {p : Mode} (hp : p = .start ∨ p = .plain)
    (hc : f.needsQuotes [c] = false) (hr : returns = true → c ≠ '\r') (cs : List Char) :
    f.records returns p (c :: cs) = (f.records returns .plain cs).map (pushChar c) := by
  simp only [needsQuotes, List.any_cons, List.any_nil, Bool.or_false, Bool.or_eq_false_iff,
    beq_eq_false_iff_ne, ne_eq] at hc
  obtain ⟨⟨hd, hq⟩, hn⟩ := hc
  have hret : ¬(returns = true ∧ c = '\r') := fun h => hr h.1 h.2
  rcases hp with rfl | rfl <;> simp only [records] <;> simp [hd, hq, hn, hret]

theorem needsQuotes_cons (c : Char) (cs : List Char) :
    f.needsQuotes (c :: cs) = (f.needsQuotes [c] || f.needsQuotes cs) := by
  simp [needsQuotes]

theorem records_plain (he : f.EndsField returns rest) {cs : List Char}
    (hc : f.needsQuotes cs = false) (hr : returns = true → '\r' ∉ cs) {p : Mode}
    (hp : p = .start ∨ p = .plain) :
    f.records returns p (cs ++ rest) = (f.records returns .closed rest).map (pushText cs) := by
  induction cs generalizing p with
  | nil => rw [List.nil_append, records_of_endsField he hp, map_pushText_nil]
  | cons c cs ih =>
    rw [needsQuotes_cons, Bool.or_eq_false_iff] at hc
    have hr' : returns = true → c ≠ '\r' ∧ '\r' ∉ cs := fun e => by simpa [eq_comm] using hr e
    rw [List.cons_append, records_cons hp hc.1 fun e => (hr' e).1,
      ih hc.2 (fun e => (hr' e).2) (.inr rfl), map_pushText_cons]

/-- A text that is written as a field and need not fear carriage returns. -/
def Safe (f : Csv) (returns : Bool) (cs : List Char) : Prop :=
  returns = true → '\r' ∈ cs → f.needsQuotes cs = true

/-- A field is read as the text it was written for. -/
theorem records_quoteField (hq : f.delimiter ≠ '"') (he : f.EndsField returns rest)
    {cs : List Char} (hs : f.Safe returns cs) :
    f.records returns .start (f.quoteField cs ++ rest) =
      (f.records returns .closed rest).map (pushText cs) := by
  unfold quoteField
  split
  · rw [← records_doubled hq]
    simp [records, Ne.symm hq]
  · next hn =>
    have hn : f.needsQuotes cs = false := by simpa using hn
    have hr : returns = true → '\r' ∉ cs := fun e hm => by simp [hs e hm] at hn
    exact records_plain he hn hr (.inl rfl)

/-! ### Rows and grids -/

/-- What a row is read as: what its cells show, or one empty field. -/
def shownRow (cells : List Cell) : List String :=
  if cells = [] then [""] else cells.map Cell.display

@[simp] theorem shownRow_nil : shownRow [] = [""] := rfl

@[simp] theorem shownRow_cons (c : Cell) (cells : List Cell) :
    shownRow (c :: cells) = c.display :: cells.map Cell.display := rfl

theorem length_shownRow (cells : List Cell) : (shownRow cells).length = max 1 cells.length := by
  cases cells <;> simp

/-- What a row is read as, as characters. -/
def shownChars (cells : List Cell) : List (List Char) := (shownRow cells).map String.toList

/-- Every text of the row can be written as a field. -/
def SafeRow (f : Csv) (returns : Bool) (cells : List Cell) : Prop :=
  ∀ c ∈ cells, f.Safe returns c.display.toList

theorem records_row (hq : f.delimiter ≠ '"') (he : rest = [] ∨ ∃ cs, rest = '\n' :: cs)
    (h : f.records returns .closed rest = some ([[]] :: rs)) {cells : List Cell}
    (hs : f.SafeRow returns cells) :
    f.records returns .start (f.row cells ++ rest) = some (shownChars cells :: rs) := by
  have hend : f.EndsField returns rest := by rcases he with rfl | ⟨cs, rfl⟩ <;> simp [EndsField]
  induction cells with
  | nil => simpa [row, shownChars, records_of_endsField hend (.inl rfl)] using h
  | cons c cells ih =>
    have hc := hs c List.mem_cons_self
    cases cells with
    | nil =>
      have hfield := records_quoteField hq hend hc
      rw [h, Option.map_some, pushText_cons_cons] at hfield
      simpa [row, shownChars, field] using hfield
    | cons c' cells =>
      have ih := ih fun x hx => hs x (List.mem_cons_of_mem _ hx)
      have hend' : f.EndsField returns (f.delimiter :: (f.row (c' :: cells) ++ rest)) := .inl rfl
      have hfield := records_quoteField hq hend' hc
      have hnext : f.records returns .closed (f.delimiter :: (f.row (c' :: cells) ++ rest)) =
          some (([] :: shownChars (c' :: cells)) :: rs) := by
        simp [records, ih, pushField]
      rw [hnext, Option.map_some, pushText_cons_cons] at hfield
      simpa [row, shownChars, field, List.intercalate_cons_cons] using hfield

theorem records_rows (hq : f.delimiter ≠ '"') (hn : f.delimiter ≠ '\n') {rows : Grid}
    (hne : rows ≠ []) (hs : ∀ cells ∈ rows, f.SafeRow returns cells) :
    f.records returns .start (['\n'].intercalate (rows.map f.row)) =
      some (rows.map shownChars) := by
  induction rows with
  | nil => exact absurd rfl hne
  | cons cells rows ih =>
    have hc := hs cells List.mem_cons_self
    cases rows with
    | nil =>
      have hlast : f.records returns .closed [] = some ([[]] :: []) := rfl
      simpa using records_row hq (.inl rfl) hlast hc
    | cons cells' rows =>
      have ih := ih (by simp) fun x hx => hs x (List.mem_cons_of_mem _ hx)
      have hnext : f.records returns .closed
          ('\n' :: ['\n'].intercalate ((cells' :: rows).map f.row)) =
          some ([[]] :: (cells' :: rows).map shownChars) := by
        simp only [records]
        rw [ih]
        simp [Ne.symm hn, pushRecord]
      have := records_row hq (.inr ⟨_, rfl⟩) hnext hc
      simpa [List.intercalate_cons_cons] using this

theorem read?_text (hq : f.delimiter ≠ '"') (hn : f.delimiter ≠ '\n') {g : Grid} {text : String}
    (h : f.grid g = some text) : f.read? text = some (g.map shownRow) := by
  have hne : g ≠ [] := fun e => by simp [grid, e] at h
  simp only [grid, if_neg hne, Option.some.injEq] at h
  have hs : ∀ cells ∈ g, f.SafeRow false cells := fun _ _ _ _ e => by cases e
  rw [read?, ← h, String.toList_ofList, records_rows hq hn hne hs]
  simp [shownChars, Function.comp_def]

/-- Reading undoes writing: a grid that is not empty has a text, which is read
without complaint as one record for each row and one field for each cell, and
only grids that show the same have the same text. -/
theorem read?_grid (f : Csv) (hq : f.delimiter ≠ '"') (hn : f.delimiter ≠ '\n') (g : Grid)
    (hg : g ≠ []) :
    ∃ text, f.grid g = some text ∧ f.read? text = some (g.map shownRow) ∧
      (g.map shownRow).map List.length = g.map (fun cells => max 1 cells.length) ∧
      ∀ g', f.grid g' = some text → g'.map shownRow = g.map shownRow := by
  have htext : f.grid g = some (String.ofList (['\n'].intercalate (g.map f.row))) := if_neg hg
  have hread := read?_text hq hn htext
  refine ⟨_, htext, hread, ?_, fun g' h' => ?_⟩
  · simp [Function.comp_def, length_shownRow]
  · have hread' := read?_text hq hn h'
    exact Option.some.inj (hread'.symm.trans hread)

theorem read?_grid_quoted :
    (⟨','⟩ : Csv).delimiter ≠ '"' ∧
      (⟨','⟩ : Csv).read? "\"a\"\"\n\",b\n" = some [["a\"\n", "b"], [""]] := by
  obtain ⟨text, htext, hread, -⟩ := read?_grid ⟨','⟩ (by decide) (by decide)
    [[.text "a\"\n", .text "b"], []] (by simp)
  have : text = "\"a\"\"\n\",b\n" := by
    rw [← Option.some.injEq, ← htext]
    decide
  exact ⟨by decide, this ▸ hread⟩

end SheetExport.Csv

/-!
## Carriage returns in delimited text

Many readers end a record at a carriage return too, alone or before a line
feed. A carriage return alone puts no quotes around a cell, so such a reader
splits a cell that holds one and nothing that asks for quotes. Main statement:
it reads every grid without complaint, and recovers what the cells show exactly
if there is no cell that it splits.
-/

namespace SheetExport.Csv

/-- The records of a text, with line feeds, carriage returns or both between them. -/
def readReturns? (f : Csv) (text : String) : Option (List (List String)) :=
  (f.records true .start text.toList).map (List.map (List.map String.ofList))

variable {f : Csv} {rest : List Char} {rs : Records}

theorem row_singleton (f : Csv) (c : Cell) : f.row [c] = f.quoteField c.display.toList := by
  simp [row, field]

theorem row_cons_cons (f : Csv) (c c' : Cell) (cells : List Cell) :
    f.row (c :: c' :: cells) =
      f.quoteField c.display.toList ++ f.delimiter :: f.row (c' :: cells) := by
  simp [row, field, List.intercalate_cons_cons]

/-! ### Every grid is read -/

/-- A field ends here, and what comes after it is read. -/
def Continues (f : Csv) : List Char → Prop
  | [] => True
  | c :: cs => (c = f.delimiter ∨ c = '\n') ∧ (f.records true .start cs).isSome = true

theorem Continues.isSome (h : f.Continues rest) {p : Mode} (hp : p ≠ .quoted) :
    (f.records true p rest).isSome = true := by
  cases rest with
  | nil => cases p <;> first | rfl | exact absurd rfl hp
  | cons c cs =>
    obtain ⟨hc, hcs⟩ := h
    by_cases hd : c = f.delimiter
    · cases p <;> simp_all [records]
      -- after a carriage return it depends on whether the delimiter is a line feed
      split <;> simp [hcs]
    · have hn : c = '\n' := hc.resolve_left hd
      subst hn
      cases p <;> simp_all [records]

theorem isSome_plain {cs : List Char} (hc : f.needsQuotes cs = false) (h : f.Continues rest)
    {p : Mode} (hp : p ≠ .quoted) (hp' : p ≠ .closed) :
    (f.records true p (cs ++ rest)).isSome = true := by
  induction cs generalizing p with
  | nil => exact h.isSome hp
  | cons c cs ih =>
    rw [needsQuotes_cons, Bool.or_eq_false_iff] at hc
    obtain ⟨hfirst, hcs⟩ := hc
    simp only [needsQuotes, List.any_cons, List.any_nil, Bool.or_false, Bool.or_eq_false_iff,
      beq_eq_false_iff_ne, ne_eq] at hfirst
    obtain ⟨⟨hd, hq⟩, hn⟩ := hfirst
    have hplain := ih hcs (p := .plain) (by decide) (by decide)
    have hreturned := ih hcs (p := .returned) (by decide) (by decide)
    by_cases hr : c = '\r'
    · subst hr
      cases p <;> simp_all [records]
    · cases p <;> simp_all [records]

theorem isSome_quoteField (hq : f.delimiter ≠ '"') (h : f.Continues rest) (cs : List Char) :
    (f.records true .start (f.quoteField cs ++ rest)).isSome = true := by
  by_cases hc : f.needsQuotes cs = true
  · have hopen : f.records true .start (f.quoteField cs ++ rest) =
        f.records true .quoted (doubled cs ++ '"' :: rest) := by
      simp [quoteField, hc, records, Ne.symm hq]
    rw [hopen, records_doubled hq, Option.isSome_map]
    exact h.isSome (by decide)
  · have hc : f.needsQuotes cs = false := by simpa using hc
    have hplain : f.quoteField cs = cs := by simp [quoteField, hc]
    rw [hplain]
    exact isSome_plain hc h (by decide) (by decide)

theorem isSome_row (hq : f.delimiter ≠ '"') (h : f.Continues rest) (cells : List Cell) :
    (f.records true .start (f.row cells ++ rest)).isSome = true := by
  induction cells with
  | nil => exact h.isSome (by decide)
  | cons c cells ih =>
    cases cells with
    | nil =>
      rw [row_singleton]
      exact isSome_quoteField hq h _
    | cons c' cells =>
      have hnext : f.Continues (f.delimiter :: (f.row (c' :: cells) ++ rest)) := ⟨.inl rfl, ih⟩
      rw [row_cons_cons, List.append_assoc]
      exact isSome_quoteField hq hnext _

theorem isSome_rows (hq : f.delimiter ≠ '"') (rows : Grid) :
    (f.records true .start (['\n'].intercalate (rows.map f.row))).isSome = true := by
  induction rows with
  | nil => rfl
  | cons cells rows ih =>
    cases rows with
    | nil =>
      have hend : f.Continues [] := trivial
      have hrow := isSome_row hq hend cells
      rw [List.append_nil] at hrow
      simpa using hrow
    | cons cells' rows =>
      have hnext : f.Continues ('\n' :: ['\n'].intercalate ((cells' :: rows).map f.row)) :=
        ⟨.inr rfl, ih⟩
      simpa [List.intercalate_cons_cons] using isSome_row hq hnext cells

/-! ### Cells that are split -/

/-- A cell with a carriage return and no quotes ends its record too early. -/
theorem exists_split (hr : f.delimiter ≠ '\r') {cs : List Char} (hc : f.needsQuotes cs = false)
    (hm : '\r' ∈ cs) (rest : List Char) :
    ∃ pre, '\r' ∉ pre ∧ ∃ o : Option Records,
      f.records true .start (f.quoteField cs ++ rest) = o.map ([pre] :: ·) := by
  obtain ⟨pre, post, rfl, hpre⟩ := List.eq_append_cons_of_mem hm
  have hprefix : f.needsQuotes pre = false := by
    simp only [needsQuotes, List.any_append, Bool.or_eq_false_iff] at hc ⊢
    exact hc.1
  have hplain : f.quoteField (pre ++ '\r' :: post) = pre ++ '\r' :: post := by
    simp [quoteField, hc]
  have hend : f.EndsField true ('\r' :: (post ++ rest)) := .inr (.inr ⟨rfl, rfl⟩)
  have hreturn : f.records true .closed ('\r' :: (post ++ rest)) =
      (f.records true .returned (post ++ rest)).map pushRecord := by
    simp [records, Ne.symm hr]
  refine ⟨pre, hpre, f.records true .returned (post ++ rest), ?_⟩
  rw [hplain, List.append_assoc, List.cons_append,
    records_plain hend hprefix (fun _ => hpre) (.inl rfl), hreturn, Option.map_map]
  congr 1
  funext rs
  simp [pushRecord, pushText_cons_cons]

theorem pushText_nil_right (cs : List Char) : pushText cs [] = [] := by
  induction cs with
  | nil => rfl
  | cons c cs ih => exact congrArg (pushChar c) ih

theorem safe_of_records (hr : f.delimiter ≠ '\r') {cs : List Char} {fs : List (List Char)}
    (h : f.records true .start (f.quoteField cs ++ rest) = some ((cs :: fs) :: rs)) :
    f.Safe true cs := by
  intro _ hm
  cases hc : f.needsQuotes cs with
  | true => rfl
  | false =>
    obtain ⟨pre, hpre, o, ho⟩ := exists_split hr hc hm rest
    rw [ho, Option.map_eq_some_iff] at h
    obtain ⟨rs', -, heq⟩ := h
    obtain ⟨rfl, -⟩ := List.cons.inj (List.cons.inj heq).1
    exact absurd hm hpre

theorem safeRow_of_records (hq : f.delimiter ≠ '"') (hr : f.delimiter ≠ '\r')
    {cells : List Cell} (hne : cells ≠ [])
    (h : f.records true .start (f.row cells ++ rest) = some (shownChars cells :: rs)) :
    f.SafeRow true cells := by
  induction cells with
  | nil => exact absurd rfl hne
  | cons c cells ih =>
    cases cells with
    | nil =>
      rw [row_singleton] at h
      simpa [SafeRow] using safe_of_records hr h
    | cons c' cells =>
      rw [row_cons_cons, List.append_assoc, List.cons_append] at h
      have hsafe : f.Safe true c.display.toList := safe_of_records hr h
      have hend : f.EndsField true (f.delimiter :: (f.row (c' :: cells) ++ rest)) := .inl rfl
      have hnext : f.records true .closed (f.delimiter :: (f.row (c' :: cells) ++ rest)) =
          (f.records true .start (f.row (c' :: cells) ++ rest)).map pushField := by
        simp [records]
      rw [records_quoteField hq hend hsafe, hnext, Option.map_map, Option.map_eq_some_iff] at h
      obtain ⟨rs', hrest', heq⟩ := h
      have hcells : rs' = shownChars (c' :: cells) :: rs := by
        cases rs' with
        | nil =>
          rw [Function.comp_apply, pushField, pushText_nil_right] at heq
          cases heq
        | cons r rs' =>
          rw [Function.comp_apply, pushField, pushText_cons_cons, List.append_nil] at heq
          obtain ⟨hrow, rfl⟩ := List.cons.inj heq
          exact congrArg (· :: rs') (List.cons.inj hrow).2
      rw [hcells] at hrest'
      intro x hx
      rcases List.mem_cons.1 hx with rfl | hx
      · exact hsafe
      · exact ih (by simp) hrest' x hx

theorem safeRows_of_records (hq : f.delimiter ≠ '"') (hn : f.delimiter ≠ '\n')
    (hr : f.delimiter ≠ '\r') {rows : Grid} (hne : [] ∉ rows)
    (h : f.records true .start (['\n'].intercalate (rows.map f.row)) =
      some (rows.map shownChars)) : ∀ cells ∈ rows, f.SafeRow true cells := by
  induction rows with
  | nil => simp
  | cons cells rows ih =>
    simp only [List.mem_cons, not_or] at hne
    have hcells : cells ≠ [] := Ne.symm hne.1
    cases rows with
    | nil =>
      have hrow : f.records true .start (f.row cells ++ []) = some [shownChars cells] := by
        simpa using h
      simpa using safeRow_of_records hq hr hcells hrow
    | cons cells' rows =>
      obtain ⟨rs, hrs⟩ := Option.isSome_iff_exists.1 (isSome_rows hq (cells' :: rows))
      have hlines : f.records true .start
          (f.row cells ++ '\n' :: ['\n'].intercalate ((cells' :: rows).map f.row)) =
          some (shownChars cells :: (cells' :: rows).map shownChars) := by
        simpa [List.intercalate_cons_cons] using h
      have hsafe := safeRow_of_records hq hr hcells hlines
      have hnext : f.records true .closed
          ('\n' :: ['\n'].intercalate ((cells' :: rows).map f.row)) = some ([[]] :: rs) := by
        simp only [records]
        rw [hrs]
        simp [Ne.symm hn, pushRecord]
      -- the rows after this one are read by themselves
      rw [records_row hq (.inr ⟨_, rfl⟩) hnext hsafe] at hlines
      obtain rfl : rs = (cells' :: rows).map shownChars := by
        simpa using hlines
      intro x hx
      rcases List.mem_cons.1 hx with rfl | hx
      · exact hsafe
      · exact ih hne.2 hrs x hx

/-! ### Grids -/

theorem needsQuotes_eq_true {cs : List Char} :
    f.needsQuotes cs = true ↔ ∃ c ∈ cs, c = f.delimiter ∨ c = '"' ∨ c = '\n' := by
  simp [needsQuotes, or_assoc]

/-- A grid without empty rows is read by a reader for which carriage returns
end records, and is recovered by it exactly if every cell with a carriage return
also holds something for which it is quoted. -/
theorem readReturns?_grid_iff (f : Csv) (hq : f.delimiter ≠ '"') (hn : f.delimiter ≠ '\n')
    (hr : f.delimiter ≠ '\r') (g : Grid) (hg : g ≠ []) (hrows : [] ∉ g) :
    ∃ text rows, f.grid g = some text ∧ f.readReturns? text = some rows ∧
      (rows = g.map (List.map Cell.display) ↔
        ∀ cells ∈ g, ∀ c ∈ cells, '\r' ∈ c.display.toList →
          ∃ x ∈ c.display.toList, x = f.delimiter ∨ x = '"' ∨ x = '\n') := by
  obtain ⟨rs, hrs⟩ := Option.isSome_iff_exists.1 (isSome_rows hq g)
  have hread : f.readReturns? (String.ofList (['\n'].intercalate (g.map f.row))) =
      some (rs.map (List.map String.ofList)) := by
    rw [readReturns?, String.toList_ofList, hrs, Option.map_some]
  have hshown : g.map (List.map Cell.display) =
      (g.map shownChars).map (List.map String.ofList) := by
    rw [List.map_map]
    refine List.map_congr_left fun cells hcells => ?_
    have hne : cells ≠ [] := fun e => hrows (e ▸ hcells)
    simp [shownChars, shownRow, hne, Function.comp_def]
  have hchars : rs.map (List.map String.ofList) = g.map (List.map Cell.display) ↔
      rs = g.map shownChars := by
    rw [hshown]
    refine List.map_inj_right fun xs ys hxs => ?_
    exact (List.map_inj_right fun x y hxy => String.ofList_injective hxy).1 hxs
  have hsafe : (∀ cells ∈ g, f.SafeRow true cells) ↔
      ∀ cells ∈ g, ∀ c ∈ cells, '\r' ∈ c.display.toList →
        ∃ x ∈ c.display.toList, x = f.delimiter ∨ x = '"' ∨ x = '\n' := by
    simp only [SafeRow, Safe, needsQuotes_eq_true, forall_const]
  refine ⟨_, _, if_neg hg, hread, ?_⟩
  rw [hchars, ← hsafe]
  constructor
  · rintro rfl
    exact safeRows_of_records hq hn hr hrows hrs
  · intro h
    exact Option.some.inj (hrs.symm.trans (records_rows hq hn hg h))

/-- A carriage return before the line feed between two rows is lost. -/
theorem readReturns?_grid_iff_lost : ∃ text rows,
    (⟨','⟩ : Csv).grid [[.text "a\r"], [.text "b\r,"]] = some text ∧
      (⟨','⟩ : Csv).readReturns? text = some rows ∧ rows ≠ [["a\r"], ["b\r,"]] := by
  obtain ⟨text, rows, htext, hread, hiff⟩ := readReturns?_grid_iff ⟨','⟩ (by decide) (by decide)
    (by decide) [[.text "a\r"], [.text "b\r,"]] (by simp) (by simp)
  refine ⟨text, rows, htext, hread, fun h => ?_⟩
  obtain ⟨x, hx, hcases⟩ := hiff.1 h [.text "a\r"] (by simp) (.text "a\r") (by simp) (by decide)
  have hall : ∀ x ∈ ['a', '\r'], ¬(x = ',' ∨ x = '"' ∨ x = '\n') := by simp
  exact hall x hx hcases

end SheetExport.Csv
