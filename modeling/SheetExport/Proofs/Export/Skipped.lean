import SheetExport.Proofs.Export.Files

/-!
# Runs that fail and tabs that are skipped

A run that fails did what a run over the tabs before does. What becomes of a tab is
told by its grid.
-/

/-!
## Exports that fail

The first failure ends a run. Until then it did what a run over the tabs before
the failure does, and after it nothing is asked for, told or written:
`run_keeps_finished`. `Aborted` says this of the tab at which the run failed.
-/

namespace SheetExport

def Sheets.Service.listing {σ : Type} (a : Service σ) (names : List String) : Service σ :=
  { a with tabNames := fun id v => (.ok names, (a.tabNames id v).2) }

namespace Export

open Sheets (Service)

variable {σ : Type} {a : Service σ} {o : Options} {id : String} {s s' : Session σ} {f : Failure}

/-! ### Tabs that cannot be exported -/

/-- Why a tab cannot be exported: its values are refused, or its file cannot be
written. -/
inductive TabFails (a : Service σ) (o : Options) (id name : String) (v : σ) (t : FileTree) :
    Failure → σ → Prop where
  | refused {f : Failure} {v' : σ} : a.values id (o.range.forTab name) v = (.error f, v') →
      TabFails a o id name v t f v'
  | unwritten {rows : Grid} {v' : σ} {text : String} {e : FileFault} :
      a.values id (o.range.forTab name) v = (.ok rows, v') → o.textOf rows = some text →
      t.write (o.path name) text = .error e → TabFails a o id name v t (.io e) v'

/-- A tab that cannot be exported is told to be started, and that is all. -/
theorem run_exportTab_eq_error {r : Report} {name : String}
    (h : Effect.run (exportTab a o id r name) s = (.error f, s')) :
    ∃ v, TabFails a o id name s.service s.files f v ∧
      s' = ⟨v, s.files, s.events ++ [.tabStarted name], s.calls ++ [o.callFor id name]⟩ := by
  rw [run_exportTab] at h
  rcases hv : a.values id (o.range.forTab name) s.service with ⟨e | rows, v⟩
  · simp only [hv] at h
    cases h
    exact ⟨v, .refused hv, rfl⟩
  · simp only [hv, writeAll_writes, Options.saved?] at h
    cases ht : o.textOf rows with
    | none =>
      simp only [ht, Option.map_none] at h
      cases h
    | some text =>
      simp only [ht, Option.map_some] at h
      cases hw : s.files.write (o.path name) text with
      | ok t =>
        simp only [hw] at h
        cases h
      | error e =>
        simp only [hw] at h
        cases h
        exact ⟨v, .unwritten hv ht hw, rfl⟩

/-! ### The tabs before -/

theorem Fetched.listing {v v' : σ} {ts : List Tab} (h : Fetched a o id v ts v')
    (names : List String) : Fetched (a.listing names) o id v ts v' := by
  induction h with
  | nil v => exact .nil v
  | cons hv _ ih => exact .cons hv ih

/-- A run fails at a tab of these names, after others were exported. -/
structure Aborted (a : Service σ) (o : Options) (id : String) (s s' : Session σ) (f : Failure)
    (names : List String) (done : List Tab) (name : String) (later : List String) : Prop where
  /-- The tab is the next one after those that are done. -/
  selected : o.selected names = done.map Tab.name ++ name :: later
  /-- Those were fetched, and then the tab failed. -/
  fails : ∃ v v', a.tabNames id s.service = (.ok names, v) ∧ Fetched a o id v done v' ∧
    TabFails a o id name v' s'.files f s'.service
  /-- Nothing is asked for after that. -/
  calls : s'.calls = s.calls ++
    .tabNames id :: (done.map Tab.name ++ [name]).map fun n => .values id (o.range.forTab n)
  /-- Nothing is told of the tab but that it is started, and nothing of later ones. -/
  events : s'.events = s.events ++ o.announced names ++ done.flatMap o.told ++ [.tabStarted name]
  /-- The files are those after a run over the tabs that are done. -/
  files : ∃ r u, Effect.run (run (a.listing (done.map Tab.name)) o id) s = (.ok r, u) ∧
    u.files = s'.files

/-- A run that fails has kept what was finished: it failed for want of the names
and changed no file, it could not create the directory, or it failed at a tab. -/
theorem run_keeps_finished (h : Effect.run (run a o id) s = (.error f, s')) :
    (∃ v, a.tabNames id s.service = (.error f, v) ∧
      s' = ⟨v, s.files, s.events, s.calls ++ [.tabNames id]⟩) ∨
    (∃ names v e t, a.tabNames id s.service = (.ok names, v) ∧
      s.files.createDirs o.outputDir = (.error e, t) ∧ f = .io e ∧
      s' = ⟨v, t, s.events ++ o.announced names, s.calls ++ [.tabNames id]⟩) ∨
    ∃ names done name later, Aborted a o id s s' f names done name later := by
  rw [run_run] at h
  rcases hn : a.tabNames id s.service with ⟨e | names, v⟩
  · simp only [hn] at h
    cases h
    exact .inl ⟨v, rfl, rfl⟩
  · simp only [hn] at h
    rcases hd : s.files.createDirs o.outputDir with ⟨e | ⟨⟩, t⟩
    · simp only [hd] at h
      cases h
      exact .inr (.inl ⟨names, v, e, t, rfl, rfl, rfl, rfl⟩)
    · simp only [hd] at h
      refine .inr (.inr ?_)
      -- the tabs before the one that failed went well
      obtain ⟨before, name, later, r, u, hsel, hdone, htab⟩ := Effect.run_foldlM_eq_error.1 h
      obtain ⟨done, v', t', rfl, hf, hw, -, rfl⟩ := run_exportTabs_eq_ok.1 hdone
      obtain ⟨v'', hfails, rfl⟩ := run_exportTab_eq_error htab
      have hagain : o.selected (done.map Tab.name) = done.map Tab.name :=
        Options.selected_of_subset fun n hmem => hsel ▸ List.mem_append_left _ hmem
      have hlist : (a.listing (done.map Tab.name)).tabNames id s.service =
          (.ok (done.map Tab.name), v) := by simp [Service.listing, hn]
      have hshort := run_eq_ok.2
        ⟨_, v, t, done, v', t', hlist, hd, hagain.symm, hf.listing _, hw, rfl, rfl⟩
      exact ⟨names, done, name, later, hsel, ⟨v, v', hn, hf, hfails⟩,
        by simp [Options.callFor, Function.comp_def], rfl, ⟨_, _, hshort, rfl⟩⟩

/-- Two tabs that share a file, one that is refused and one after it. -/
def refusedTabs : Session Sheets.Answers where
  service :=
    { names := .ok ["a/b", "a_b", "c", "d"]
      grids := [.ok [[.text "x"]], .ok [[.text "y"]], .error (.api 500 "down")] }
  files := {}

theorem run_keeps_finished_refusedTabs :
    ∃ s', Effect.run (run Sheets.prepared intoOut "id") refusedTabs =
        (.error (.api 500 "down"), s') ∧
      s'.files.read (intoOut.path "a_b") = .ok "y" ∧
      ∃ names done name later, Aborted Sheets.prepared intoOut "id" refusedTabs s'
        (.api 500 "down") names done name later := by
  obtain ⟨s', hrun, hread⟩ : ∃ s', Effect.run (run Sheets.prepared intoOut "id") refusedTabs =
      (.error (.api 500 "down"), s') ∧ s'.files.read (intoOut.path "a_b") = .ok "y" :=
    ⟨_, rfl, by decide⟩
  refine ⟨s', hrun, hread, ?_⟩
  obtain ⟨v, hnames, -⟩ | ⟨names, v, e, t, -, hdirs, -⟩ | haborted := run_keeps_finished hrun
  · cases hnames
  · cases hdirs
  · exact haborted

end Export

end SheetExport

/-!
## Tabs that are skipped

A tab is skipped if the text of its grid is empty. That is so for a grid without
cells and for a single cell that shows nothing, but not for more blank cells: the
delimiters and line feeds between them are text. Main statement: what becomes of
each tab that a run comes to, told by its grid alone.
-/

namespace SheetExport

/-! ### Grids whose text is empty -/

/-- No cell shows anything. -/
def Grid.Blank (g : Grid) : Prop := ∀ cells ∈ g, ∀ c ∈ cells, c.display = ""

/-- There is at most one cell, and no second row. -/
def Grid.Single (g : Grid) : Prop := g.length ≤ 1 ∧ ∀ cells ∈ g, cells.length ≤ 1

instance (g : Grid) : Decidable g.Blank :=
  inferInstanceAs (Decidable (∀ cells ∈ g, ∀ c ∈ cells, c.display = ""))

instance (g : Grid) : Decidable g.Single :=
  inferInstanceAs (Decidable (g.length ≤ 1 ∧ ∀ cells ∈ g, cells.length ≤ 1))

theorem intercalate_eq_nil_iff {α : Type} {d : α} {xss : List (List α)} :
    [d].intercalate xss = [] ↔ xss = [] ∨ xss = [[]] := by
  match xss with
  | [] => simp
  | [xs] => simp
  | xs :: ys :: yss => simp [List.intercalate_cons_cons]

namespace Csv

variable {f : Csv} {g : Grid}

theorem quoteField_eq_nil_iff {cs : List Char} : f.quoteField cs = [] ↔ cs = [] := by
  unfold quoteField
  split
  · next h =>
    constructor
    · intro he
      simp at he
    · rintro rfl
      cases h
  · exact Iff.rfl

theorem row_eq_nil_iff {cells : List Cell} :
    f.row cells = [] ↔ cells.length ≤ 1 ∧ ∀ c ∈ cells, c.display = "" := by
  rw [row, intercalate_eq_nil_iff]
  match cells with
  | [] => simp
  | [c] => simp [field, quoteField_eq_nil_iff]
  | c :: d :: cells => simp

theorem grid_eq_some_empty_iff : f.grid g = some "" ↔ g ≠ [] ∧ g.Blank ∧ g.Single := by
  have hempty {cs : List Char} : String.ofList cs = "" ↔ cs = [] := by
    rw [← String.toList_inj, String.toList_ofList]
    rfl
  rw [grid]
  match g with
  | [] => simp
  | [cells] =>
    simp [hempty, row_eq_nil_iff, Grid.Blank, Grid.Single, and_comm]
  | cells :: cells' :: g => simp [hempty, intercalate_eq_nil_iff, Grid.Single]

end Csv

namespace Export

open Sheets (Service)

variable {o : Options} {g : Grid}

/-- There is nothing to save for a grid exactly if it is blank and has at most one
cell. -/
theorem Options.textOf_eq_none_iff : o.textOf g = none ↔ g.Blank ∧ g.Single := by
  by_cases hg : g = []
  · simp [textOf, Csv.grid, hg, Grid.Blank, Grid.Single]
  · obtain ⟨text, htext⟩ : ∃ text, o.csv.grid g = some text := ⟨_, if_neg hg⟩
    have hempty : text = "" ↔ g.Blank ∧ g.Single := by
      rw [← Option.some_inj, ← htext, Csv.grid_eq_some_empty_iff]
      exact and_iff_right hg
    rw [textOf, htext, ← hempty, Option.filter_eq_none_iff]
    simp

/-! ### Handling tabs -/

/-- How a tab is handled: from which files, with which last event, to which files. A
tab that is blank and has at most one cell is skipped, and no file changes. Any
other tab is saved, and its file holds its text then. -/
inductive HandlesTab (o : Options) (tab : Tab) : FileTree → Event → FileTree → Prop where
  | skip (t : FileTree) : tab.rows.Blank → tab.rows.Single →
      HandlesTab o tab t (.tabSkipped tab.name) t
  | save {t u : FileTree} {text : String} : ¬(tab.rows.Blank ∧ tab.rows.Single) →
      o.csv.grid tab.rows = some text → t.write (o.path tab.name) text = .ok u →
      u.read (o.path tab.name) = .ok text →
      HandlesTab o tab t (.tabSaved tab.name (o.path tab.name)) u

/-- Tabs are handled in turn, each told of when it is started and at its end. -/
inductive Handles (o : Options) : FileTree → List Tab → List Event → FileTree → Prop where
  | nil (t : FileTree) : Handles o t [] [] t
  | cons {t t' u : FileTree} {tab : Tab} {ts : List Tab} {e : Event} {es : List Event} :
      HandlesTab o tab t e t' → Handles o t' ts es u →
      Handles o t (tab :: ts) (.tabStarted tab.name :: e :: es) u

variable {t u : FileTree} {tab : Tab} {ts : List Tab}

theorem exists_handlesTab (h : t.writeAll (o.writes [tab]) = .ok u) :
    ∃ e, o.told tab = [.tabStarted tab.name, e] ∧ HandlesTab o tab t e u := by
  rw [writeAll_writes, Options.saved?] at h
  rw [Options.told, Options.saved?]
  cases htext : o.textOf tab.rows with
  | none =>
    rw [htext] at h
    cases h
    obtain ⟨hblank, hsingle⟩ := Options.textOf_eq_none_iff.1 htext
    exact ⟨_, rfl, .skip t hblank hsingle⟩
  | some text =>
    rw [htext] at h
    have hshown : ¬(tab.rows.Blank ∧ tab.rows.Single) := fun hb => by
      cases htext.symm.trans (Options.textOf_eq_none_iff.2 hb)
    have hgrid := (Option.filter_eq_some_iff.1 htext).1
    exact ⟨_, rfl, .save hshown hgrid h (FileTree.read_write h)⟩

theorem handles_of_writeAll (h : t.writeAll (o.writes ts) = .ok u) :
    Handles o t ts (ts.flatMap o.told) u := by
  induction ts generalizing t with
  | nil =>
    cases h
    exact .nil _
  | cons tab ts ih =>
    rw [Options.writes_cons, writeAll_append] at h
    obtain ⟨t', htab, hrest⟩ := h
    obtain ⟨e, htold, he⟩ := exists_handlesTab htab
    rw [List.flatMap_cons, htold]
    exact .cons he (ih hrest)

theorem Options.isNone_saved?_iff :
    (o.saved? tab).isNone = true ↔ tab.rows.Blank ∧ tab.rows.Single := by
  rw [saved?, Option.isNone_map, Option.isNone_iff_eq_none, textOf_eq_none_iff]

theorem Options.blanks_eq (o : Options) (ts : List Tab) :
    o.blanks ts = (ts.filter fun t => t.rows.Blank ∧ t.rows.Single).map Tab.name := by
  refine congrArg (List.map Tab.name) (List.filter_congr fun tab _ => ?_)
  rw [Bool.eq_iff_iff, isNone_saved?_iff, decide_eq_true_iff]

theorem Options.savedTabs_eq (o : Options) (ts : List Tab) :
    o.savedTabs ts = ts.filter fun t => ¬(t.rows.Blank ∧ t.rows.Single) := by
  refine List.filter_congr fun tab _ => ?_
  rw [Bool.eq_iff_iff, decide_eq_true_iff, ← isNone_saved?_iff, Option.isNone_iff_eq_none]
  exact Option.isSome_iff_ne_none

/-! ### Runs -/

variable {σ : Type} {a : Service σ} {id : String} {s s' : Session σ}

/-- What a run did with result `res`: it handled the selected tabs `ts`, telling
`es`, and `rest` was left when it failed. -/
structure Handled (a : Service σ) (o : Options) (id : String) (s s' : Session σ)
    (res : Except Failure Report) (names : List String) (ts : List Tab) (rest : List String)
    (es : List Event) : Prop where
  selected : o.selected names = ts.map Tab.name ++ rest
  /-- The grids are those that the service gave for the tabs. -/
  fetched : ∃ v v', a.tabNames id s.service = (.ok names, v) ∧ Fetched a o id v ts v'
  handles : ∃ t, s.files.createDirs o.outputDir = (.ok (), t) ∧ Handles o t ts es s'.files
  /-- Of what is left at most the first tab is told of, as started. -/
  events : s'.events = s.events ++ o.announced names ++ es ++ (rest.take 1).map .tabStarted
  /-- A run that ends well leaves nothing. It reports as skipped the tabs that are
  blank and have at most one cell, and as written the files of all others. -/
  reported : ∀ r, res = .ok r → rest = [] ∧
    r.skipped = (ts.filter fun t => t.rows.Blank ∧ t.rows.Single).map Tab.name ∧
    r.written = (ts.filter fun t => ¬(t.rows.Blank ∧ t.rows.Single)).map fun t => o.path t.name

/-- However it ends, a run has handled every tab that it came to. -/
theorem run_handles {res : Except Failure Report} (h : Effect.run (run a o id) s = (res, s')) :
    (∃ f, res = .error f ∧
      (s'.events = s.events ∨ ∃ names, s'.events = s.events ++ o.announced names)) ∨
    ∃ names ts rest es, Handled a o id s s' res names ts rest es := by
  rw [run_run] at h
  rcases hn : a.tabNames id s.service with ⟨f | names, v⟩
  · simp only [hn] at h
    cases h
    exact .inl ⟨f, rfl, .inl rfl⟩
  rcases hd : s.files.createDirs o.outputDir with ⟨e | ⟨⟩, t⟩
  · simp only [hn, hd] at h
    cases h
    exact .inl ⟨.io e, rfl, .inr ⟨names, rfl⟩⟩
  refine .inr ⟨names, ?_⟩
  simp only [hn, hd] at h
  cases res with
  | ok r =>
    obtain ⟨ts, v', t', hts, hf, hw, rfl, rfl⟩ := run_exportTabs_eq_ok.1 h
    refine ⟨ts, [], _, by simp [hts], ⟨v, v', hn, hf⟩, ⟨t, hd, handles_of_writeAll hw⟩, by simp, ?_⟩
    rintro r ⟨rfl⟩
    refine ⟨rfl, (List.nil_append _).trans (o.blanks_eq ts), ?_⟩
    rw [← Options.savedTabs_eq, ← Options.map_fst_writes]
    exact List.nil_append _
  | error f =>
    -- the tabs before the one that failed were handled
    obtain ⟨before, name, later, r, u, hsel, hdone, htab⟩ := Effect.run_foldlM_eq_error.1 h
    obtain ⟨ts, v', t', rfl, hf, hw, -, rfl⟩ := run_exportTabs_eq_ok.1 hdone
    obtain ⟨v'', -, rfl⟩ := run_exportTab_eq_error htab
    exact ⟨ts, name :: later, _, hsel, ⟨v, v', hn, hf⟩, ⟨t, hd, handles_of_writeAll hw⟩, by simp,
      fun r hr => nomatch hr⟩

/-- A blank tab of one cell, and one of two cells. -/
def blankTabs : Session Sheets.Answers where
  service := { names := .ok ["a", "b"], grids := [.ok [[.text ""]], .ok [[.text "", .null]]] }
  files := {}

def blankReport : Report where
  tabNames := ["a", "b"]
  written := ["out/b.csv"]
  skipped := ["a"]

theorem run_handles_blankTabs :
    ∃ s', Effect.run (run Sheets.prepared intoOut "id") blankTabs = (.ok blankReport, s') ∧
      ∃ names ts rest es, Handled Sheets.prepared intoOut "id" blankTabs s' (.ok blankReport)
        names ts rest es := by
  obtain ⟨s', hrun⟩ : ∃ s', Effect.run (run Sheets.prepared intoOut "id") blankTabs =
      (.ok blankReport, s') := ⟨_, rfl⟩
  refine ⟨s', hrun, ?_⟩
  obtain ⟨f, hf, -⟩ | hhandled := run_handles hrun
  · cases hf
  · exact hhandled

/-- Of two blank tabs the one with two cells is saved: its file holds a delimiter. -/
theorem run_blankTabs_saves :
    ∃ s', Effect.run (run Sheets.prepared intoOut "id") blankTabs = (.ok blankReport, s') ∧
      Grid.Blank [[.text "", .null]] ∧ blankReport.skipped = ["a"] ∧
      s'.files.read (intoOut.path "b") = .ok "," := by
  refine ⟨_, rfl, ?_, rfl, by decide⟩
  simp [Grid.Blank, Cell.display]

end Export

end SheetExport
