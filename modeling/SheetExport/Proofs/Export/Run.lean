import Mathlib.Data.List.Forall2
import SheetExport.Export.Run
import SheetExport.Proofs.FileTree

/-!
# Runs that end well

The effect of a run as a function of its tabs, and the four histories that agree.
-/

/-!
## What a run of an export does

A run that ends well fetches the selected tabs one after the other, writes the
files of those that show something, and tells and reports what it did. The
effect of the run is put together from the effects of its tabs, each a function
of the tab's name and the grid fetched for it: `run_eq_ok`.
-/

namespace SheetExport.Export

open Sheets (Service)

namespace Options

/-- The path and text a tab is saved as, if it shows anything. -/
def saved? (o : Options) (t : Tab) : Option (String × String) :=
  (o.textOf t.rows).map fun text => (o.path t.name, text)

def writes (o : Options) (ts : List Tab) : List (String × String) := ts.filterMap o.saved?

def blanks (o : Options) (ts : List Tab) : List String :=
  (ts.filter fun t => (o.saved? t).isNone).map Tab.name

def told (o : Options) (t : Tab) : List Event :=
  match o.saved? t with
  | some w => [.tabStarted t.name, .tabSaved t.name w.1]
  | none => [.tabStarted t.name, .tabSkipped t.name]

def callFor (o : Options) (id name : String) : Call := .values id (o.range.forTab name)

def announced (o : Options) (names : List String) : List Event :=
  if o.missing names = [] then [.tabsFound names]
  else [.tabsFound names, .tabsMissing (o.missing names)]

def addTabs (o : Options) (r : Report) (ts : List Tab) : Report :=
  { r with
    written := r.written ++ (o.writes ts).map Prod.fst
    skipped := r.skipped ++ o.blanks ts }

end Options

variable {σ : Type} {a : Service σ} {o : Options} {id : String}

/-- The service gives the grids of tabs one after the other. -/
inductive Fetched (a : Service σ) (o : Options) (id : String) : σ → List Tab → σ → Prop where
  | nil (v : σ) : Fetched a o id v [] v
  | cons {v v' v'' : σ} {t : Tab} {ts : List Tab} :
      a.values id (o.range.forTab t.name) v = (.ok t.rows, v') → Fetched a o id v' ts v'' →
      Fetched a o id v (t :: ts) v''

/-! ### Single steps -/

variable {s s' : Session σ}

theorem run_tell (e : Event) (s : Session σ) :
    Effect.run (tell e) s = (.ok ⟨⟩, { s with events := s.events ++ [e] }) := rfl

theorem run_call {α : Type} (c : Call) (f : σ → Except Failure α × σ) (s : Session σ) :
    Effect.run (call c f) s =
      ((f s.service).1, { s with service := (f s.service).2, calls := s.calls ++ [c] }) := by
  simp only [call, Effect.run_bind, Effect.run_get, Effect.run_set]
  rcases f s.service with ⟨e | x, v⟩ <;> rfl

theorem run_changeFiles (op : FileTree → Except FileFault FileTree) (s : Session σ) :
    Effect.run (changeFiles op) s = match op s.files with
      | .ok t => (.ok ⟨⟩, { s with files := t })
      | .error e => (.error (.io e), s) := by
  simp only [changeFiles, Effect.run_bind, Effect.run_get]
  cases op s.files <;> rfl

theorem run_alterFiles (op : FileTree → Except FileFault Unit × FileTree) (s : Session σ) :
    Effect.run (alterFiles op) s =
      ((op s.files).1.mapError .io, { s with files := (op s.files).2 }) := by
  simp only [alterFiles, Effect.run_bind, Effect.run_get, Effect.run_set]
  cases (op s.files).1 <;> rfl

theorem writeAll_writes (t : FileTree) (o : Options) (tab : Tab) :
    t.writeAll (o.writes [tab]) = match o.saved? tab with
      | some w => t.write w.1 w.2
      | none => .ok t := by
  cases h : o.saved? tab <;> simp [Options.writes, h, FileTree.writeAll]
  · rfl

/-! ### One tab -/

theorem run_exportTab (r : Report) (name : String) (s : Session σ) :
    Effect.run (exportTab a o id r name) s =
      match a.values id (o.range.forTab name) s.service with
      | (.error e, v) =>
        (.error e, ⟨v, s.files, s.events ++ [.tabStarted name], s.calls ++ [o.callFor id name]⟩)
      | (.ok rows, v) =>
        match s.files.writeAll (o.writes [⟨name, rows⟩]) with
        | .error e =>
          (.error (.io e),
            ⟨v, s.files, s.events ++ [.tabStarted name], s.calls ++ [o.callFor id name]⟩)
        | .ok t =>
          (.ok (o.addTabs r [⟨name, rows⟩]),
            ⟨v, t, s.events ++ o.told ⟨name, rows⟩, s.calls ++ [o.callFor id name]⟩) := by
  simp only [exportTab, Effect.run_bind, run_tell, run_call, Options.callFor]
  rcases a.values id (o.range.forTab name) s.service with ⟨e | rows, v⟩
  · rfl
  · simp only [writeAll_writes, Options.saved?]
    cases ht : o.textOf rows with
    | none =>
      simp only [Option.map_none, Effect.run_bind, run_tell, Effect.run_pure]
      simp [Options.told, Options.addTabs, Options.writes, Options.blanks, Options.saved?, ht]
    | some text =>
      simp only [Option.map_some, Effect.run_bind, run_changeFiles]
      cases s.files.write (o.path name) text with
      | error e => rfl
      | ok t =>
        simp only [run_tell, Effect.run_pure]
        simp [Options.told, Options.addTabs, Options.writes, Options.blanks, Options.saved?, ht]

theorem run_exportTab_eq_ok {r r' : Report} {name : String} :
    Effect.run (exportTab a o id r name) s = (.ok r', s') ↔
      ∃ rows v t, a.values id (o.range.forTab name) s.service = (.ok rows, v) ∧
        s.files.writeAll (o.writes [⟨name, rows⟩]) = .ok t ∧
        r' = o.addTabs r [⟨name, rows⟩] ∧
        s' = ⟨v, t, s.events ++ o.told ⟨name, rows⟩, s.calls ++ [o.callFor id name]⟩ := by
  rw [run_exportTab]
  rcases a.values id (o.range.forTab name) s.service with ⟨e | rows, v⟩
  · simp
  · constructor
    · intro h
      simp only at h
      split at h
      · cases h
      · next t ht =>
        cases h
        exact ⟨rows, v, t, rfl, ht, rfl, rfl⟩
    · rintro ⟨rows', v', t, hv, ht, rfl, rfl⟩
      cases hv
      simp [ht]

/-! ### All tabs -/

theorem writeAll_append {t u : FileTree} {ws ws' : List (String × String)} :
    t.writeAll (ws ++ ws') = .ok u ↔ ∃ v, t.writeAll ws = .ok v ∧ v.writeAll ws' = .ok u := by
  rw [FileTree.writeAll, List.foldlM_append, Except.bind_eq_ok]
  rfl

namespace Options

theorem selected_eq (o : Options) (names : List String) :
    o.selected names = names.filter fun n => o.tabs = [] ∨ n ∈ o.tabs := by
  unfold selected
  split
  · next h => exact (List.filter_eq_self.2 (by simp [h])).symm
  · next h => simp [h]

theorem selected_of_subset {names ns : List String} (h : ∀ n ∈ ns, n ∈ o.selected names) :
    o.selected ns = ns := by
  rw [selected_eq, List.filter_eq_self]
  intro n hn
  have hsel := h n hn
  rw [selected_eq] at hsel
  exact (List.mem_filter.1 hsel).2

theorem writes_cons (o : Options) (t : Tab) (ts : List Tab) :
    o.writes (t :: ts) = o.writes [t] ++ o.writes ts := by
  rw [← List.singleton_append, writes, List.filterMap_append]
  rfl

theorem blanks_cons (o : Options) (t : Tab) (ts : List Tab) :
    o.blanks (t :: ts) = o.blanks [t] ++ o.blanks ts := by
  rw [← List.singleton_append, blanks, List.filter_append, List.map_append]
  rfl

theorem addTabs_cons (o : Options) (r : Report) (t : Tab) (ts : List Tab) :
    o.addTabs (o.addTabs r [t]) ts = o.addTabs r (t :: ts) := by
  simp [addTabs, writes_cons o t ts, blanks_cons o t ts]

end Options

/-- What exporting tabs does when it ends well: the effects of the tabs in order. -/
theorem run_exportTabs_eq_ok {r r' : Report} {names : List String} :
    Effect.run (names.foldlM (exportTab a o id) r) s = (.ok r', s') ↔
      ∃ ts v t, ts.map Tab.name = names ∧ Fetched a o id s.service ts v ∧
        s.files.writeAll (o.writes ts) = .ok t ∧ r' = o.addTabs r ts ∧
        s' = ⟨v, t, s.events ++ ts.flatMap o.told,
          s.calls ++ names.map (o.callFor id)⟩ := by
  induction names generalizing r s with
  | nil =>
    simp only [List.foldlM_nil, Effect.run_pure, List.map_eq_nil_iff]
    constructor
    · intro h
      cases h
      exact ⟨[], _, _, rfl, .nil _, rfl, by simp [Options.addTabs, Options.writes, Options.blanks],
        by simp⟩
    · rintro ⟨ts, v, t, rfl, hf, ht, rfl, rfl⟩
      cases hf
      cases ht
      simp [Options.addTabs, Options.writes, Options.blanks]
  | cons name names ih =>
    rw [List.foldlM_cons, Effect.run_bind_eq_ok]
    simp only [run_exportTab_eq_ok, ih]
    constructor
    · rintro ⟨-, -, ⟨rows, v, t, hv, ht, rfl, rfl⟩, ts, v', t', rfl, hf, ht', rfl, rfl⟩
      refine ⟨⟨name, rows⟩ :: ts, v', t', rfl, .cons hv hf, ?_, ?_, ?_⟩
      · rw [Options.writes_cons]
        exact writeAll_append.2 ⟨t, ht, ht'⟩
      · rw [Options.addTabs_cons]
      · simp
    · rintro ⟨ts, v', t', hn, hf, ht, rfl, rfl⟩
      cases ts with
      | nil => cases hn
      | cons tab ts =>
        obtain ⟨rfl, rfl⟩ := List.cons.inj hn
        cases hf with
        | cons hv hf =>
          rw [Options.writes_cons, writeAll_append] at ht
          obtain ⟨t, ht, ht'⟩ := ht
          refine ⟨_, _, ⟨tab.rows, _, t, hv, ht, rfl, rfl⟩, ts, v', t', rfl, hf, ht', ?_, ?_⟩
          · rw [Options.addTabs_cons]
          · simp

theorem run_run (s : Session σ) :
    Effect.run (run a o id) s =
      match a.tabNames id s.service with
      | (.error e, v) => (.error e, ⟨v, s.files, s.events, s.calls ++ [.tabNames id]⟩)
      | (.ok names, v) =>
        match s.files.createDirs o.outputDir with
        | (.error e, t) =>
          (.error (.io e), ⟨v, t, s.events ++ o.announced names, s.calls ++ [.tabNames id]⟩)
        | (.ok (), t) =>
          Effect.run ((o.selected names).foldlM (exportTab a o id)
              { tabNames := names, missing := o.missing names })
            ⟨v, t, s.events ++ o.announced names, s.calls ++ [.tabNames id]⟩ := by
  simp only [run, Effect.run_bind, run_call]
  rcases a.tabNames id s.service with ⟨e | names, v⟩
  · rfl
  · by_cases hm : o.missing names = []
    · simp only [hm, run_tell, Effect.run_bind, ne_eq, not_true_eq_false, if_false,
        run_alterFiles, Options.announced, if_true]
      rcases s.files.createDirs o.outputDir with ⟨_ | _, t⟩ <;> rfl
    · simp only [hm, run_tell, Effect.run_bind, ne_eq, not_false_eq_true, if_true,
        run_alterFiles, Options.announced, if_false, List.append_assoc]
      rcases s.files.createDirs o.outputDir with ⟨_ | _, t⟩ <;> rfl

/-- What a run does when it ends well. -/
theorem run_eq_ok {r : Report} :
    Effect.run (run a o id) s = (.ok r, s') ↔
      ∃ names v t ts v' t', a.tabNames id s.service = (.ok names, v) ∧
        s.files.createDirs o.outputDir = (.ok (), t) ∧ ts.map Tab.name = o.selected names ∧
        Fetched a o id v ts v' ∧ t.writeAll (o.writes ts) = .ok t' ∧
        r = o.addTabs { tabNames := names, missing := o.missing names } ts ∧
        s' = ⟨v', t', s.events ++ o.announced names ++ ts.flatMap o.told,
          s.calls ++ .tabNames id :: (o.selected names).map (o.callFor id)⟩ := by
  rw [run_run]
  rcases a.tabNames id s.service with ⟨e | names, v⟩
  · simp
  · rcases s.files.createDirs o.outputDir with ⟨e | ⟨⟩, t⟩
    · simp
    · simp only [run_exportTabs_eq_ok]
      constructor
      · rintro ⟨ts, v', t', hn, hf, hw, rfl, rfl⟩
        exact ⟨names, v, t, ts, v', t', rfl, rfl, hn, hf, hw, rfl, by simp⟩
      · rintro ⟨names', w, u, ts, v', t', h1, h2, hn, hf, hw, rfl, rfl⟩
        cases h1
        cases h2
        exact ⟨ts, v', t', hn, hf, hw, rfl, by simp⟩

end SheetExport.Export

/-!
## Exports that are complete

A run that ends well has handled every selected tab, in the order of the
service, and four histories agree about it: the calls to the service, the events
told, the files reported as written and the tabs reported as skipped.
`Complete` says what they hold, `run_complete` that they do.
-/

namespace SheetExport.Export

open Sheets (Service)

/-! ### How the export of a tab ends -/

namespace Event

def savedPath? : Event → Option String
  | .tabSaved _ path => some path
  | _ => none

def skippedName? : Event → Option String
  | .tabSkipped name => some name
  | _ => none

end Event

/-- The last event of a tab: it is skipped if it shows nothing, else it is saved
at its path. -/
inductive Ends (o : Options) (t : Tab) : Event → Prop where
  | skipped : o.textOf t.rows = none → Ends o t (.tabSkipped t.name)
  | saved {text : String} : o.textOf t.rows = some text →
      Ends o t (.tabSaved t.name (o.path t.name))

variable {o : Options} {ts : List Tab} {ends : List Event}

theorem length_ends (h : List.Forall₂ (Ends o) ts ends) :
    (ends.filterMap Event.savedPath?).length + (ends.filterMap Event.skippedName?).length =
      ts.length := by
  induction h with
  | nil => rfl
  | cons he _ ih =>
    cases he with
    | skipped _ =>
      simp only [List.filterMap_cons, Event.savedPath?, Event.skippedName?, List.length_cons]
      omega
    | saved _ =>
      simp only [List.filterMap_cons, Event.savedPath?, Event.skippedName?, List.length_cons]
      omega

theorem Ends.effects {t : Tab} {e : Event} (h : Ends o t e) :
    o.told t = [.tabStarted t.name, e] ∧
      (o.writes [t]).map Prod.fst = e.savedPath?.toList ∧ o.blanks [t] = e.skippedName?.toList := by
  cases h with
  | skipped ht =>
    simp [Options.told, Options.writes, Options.blanks, Options.saved?, ht, Event.savedPath?,
      Event.skippedName?]
  | saved ht =>
    simp [Options.told, Options.writes, Options.blanks, Options.saved?, ht, Event.savedPath?,
      Event.skippedName?]

theorem exists_ends (o : Options) (t : Tab) : ∃ e, Ends o t e := by
  cases ht : o.textOf t.rows with
  | none => exact ⟨_, .skipped ht⟩
  | some text => exact ⟨_, .saved ht⟩

theorem exists_forall₂_ends (o : Options) (ts : List Tab) :
    ∃ ends, List.Forall₂ (Ends o) ts ends := by
  induction ts with
  | nil => exact ⟨[], .nil⟩
  | cons t ts ih =>
    obtain ⟨e, he⟩ := exists_ends o t
    obtain ⟨ends, hends⟩ := ih
    exact ⟨e :: ends, .cons he hends⟩

/-- What is told, written and left out for tabs, read off their last events. -/
theorem effects_of_ends (h : List.Forall₂ (Ends o) ts ends) :
    ts.flatMap o.told = (ts.zip ends).flatMap (fun te => [.tabStarted te.1.name, te.2]) ∧
      (o.writes ts).map Prod.fst = ends.filterMap Event.savedPath? ∧
      o.blanks ts = ends.filterMap Event.skippedName? := by
  induction h with
  | nil => exact ⟨rfl, rfl, rfl⟩
  | @cons t e ts ends he _ ih =>
    obtain ⟨htold, hwritten, hblank⟩ := he.effects
    obtain ⟨ihtold, ihwritten, ihblank⟩ := ih
    have hcons : e :: ends = [e] ++ ends := rfl
    refine ⟨?_, ?_, ?_⟩
    · rw [List.flatMap_cons, htold, ihtold, List.zip_cons_cons, List.flatMap_cons]
    · rw [Options.writes_cons, List.map_append, hwritten, ihwritten, hcons, List.filterMap_append]
      cases e <;> rfl
    · rw [Options.blanks_cons, hblank, ihblank, hcons, List.filterMap_append]
      cases e <;> rfl

/-! ### Complete runs -/

theorem Options.missing_eq (o : Options) (names : List String) :
    o.missing names = o.tabs.filter (· ∉ names) := by
  simp [missing]

theorem Options.announced_eq (o : Options) (names : List String) :
    o.announced names = .tabsFound names ::
      if ∃ n ∈ o.tabs, n ∉ names then [.tabsMissing (o.missing names)] else [] := by
  have hiff : o.missing names = [] ↔ ¬∃ n ∈ o.tabs, n ∉ names := by
    simp [missing_eq, List.filter_eq_nil_iff]
  unfold announced
  by_cases h : ∃ n ∈ o.tabs, n ∉ names
  · rw [if_neg fun hm => hiff.1 hm h, if_pos h]
  · rw [if_pos (hiff.2 h), if_neg h]

variable {σ : Type} {a : Service σ} {id : String} {s s' : Session σ} {r : Report}

/-- A run is complete for the tabs it has fetched and for the last event of each. -/
structure Complete (a : Service σ) (o : Options) (id : String) (s s' : Session σ) (r : Report)
    (ts : List Tab) (ends : List Event) : Prop where
  /-- The service gives the names once and after that the tabs one by one. -/
  fetched : ∃ v, a.tabNames id s.service = (.ok r.tabNames, v) ∧ Fetched a o id v ts s'.service
  /-- The tabs are those asked for, in the order of the service. -/
  names : ts.map Tab.name = r.tabNames.filter fun n => o.tabs = [] ∨ n ∈ o.tabs
  calls : s'.calls = s.calls ++
    .tabNames id :: ts.map fun t => .values id (o.range.forTab t.name)
  endings : List.Forall₂ (Ends o) ts ends
  events : s'.events = s.events ++
    (.tabsFound r.tabNames ::
      if ∃ n ∈ o.tabs, n ∉ r.tabNames then [.tabsMissing r.missing] else []) ++
    (ts.zip ends).flatMap fun te => [.tabStarted te.1.name, te.2]
  missing : r.missing = o.tabs.filter (· ∉ r.tabNames)
  written : r.written = ends.filterMap Event.savedPath?
  skipped : r.skipped = ends.filterMap Event.skippedName?
  length : r.written.length + r.skipped.length = ts.length

/-- A run that ends well is complete. -/
theorem run_complete (h : Effect.run (run a o id) s = (.ok r, s')) :
    ∃ ts ends, Complete a o id s s' r ts ends := by
  obtain ⟨names, v, t, ts, v', t', hv, -, hts, hf, -, rfl, rfl⟩ := run_eq_ok.1 h
  obtain ⟨ends, hends⟩ := exists_forall₂_ends o ts
  obtain ⟨htold, hwritten, hblank⟩ := effects_of_ends hends
  have hreported : (o.addTabs { tabNames := names, missing := o.missing names } ts).written =
      ends.filterMap Event.savedPath? := by
    rw [← hwritten]
    simp [Options.addTabs]
  have hleft : (o.addTabs { tabNames := names, missing := o.missing names } ts).skipped =
      ends.filterMap Event.skippedName? := by
    rw [← hblank]
    simp [Options.addTabs]
  refine ⟨ts, ends, ⟨v, hv, hf⟩, ?_, ?_, hends, ?_, o.missing_eq names, hreported, hleft, ?_⟩
  · rw [hts, Options.selected_eq]
    rfl
  · simp only [← hts, List.map_map]
    rfl
  · simp only [htold, Options.announced_eq]
    rfl
  · rw [hreported, hleft]
    exact length_ends hends

/-- Three tabs, the second of them blank, and a choice of tabs with one that is
not there. -/
def chosenTabs : Session Sheets.Answers where
  service := { names := .ok ["a", "b", "c"], grids := [.ok [[.text ""]], .ok [[.text "z"]]] }
  files := {}

/-- The tabs `c` and `b`, and one that is not there. -/
def chosen : Options := { outputDir := "out", range := Options.allLetters, tabs := ["c", "x", "b"] }

def chosenReport : Report where
  tabNames := ["a", "b", "c"]
  written := ["out/c.csv"]
  skipped := ["b"]
  missing := ["x"]

theorem run_complete_chosenTabs :
    ∃ s', Effect.run (run Sheets.prepared chosen "id") chosenTabs = (.ok chosenReport, s') ∧
      ∃ ts ends, Complete Sheets.prepared chosen "id" chosenTabs s' chosenReport ts ends ∧
        ts.map Tab.name = ["b", "c"] := by
  obtain ⟨s', hrun⟩ : ∃ s', Effect.run (run Sheets.prepared chosen "id") chosenTabs =
      (.ok chosenReport, s') := ⟨_, rfl⟩
  obtain ⟨ts, ends, h⟩ := run_complete hrun
  exact ⟨s', hrun, ts, ends, h, h.names.trans (by decide)⟩

end SheetExport.Export
