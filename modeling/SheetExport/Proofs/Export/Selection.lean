import SheetExport.Proofs.Export.Run
import SheetExport.Proofs.Export.Settings

/-!
# The choice of tabs

Of the tabs that are there those that were asked for are selected, and of those
that were asked for the ones that are not there are missing. Both are the same for
all ways of writing down the same choice, and so are the requests, the files and
the reports of an export, but for the order in which missing tabs are told of.
-/

namespace SheetExport

/-! ## Items of a class -/

/-- The items of a list that are in a class, in their order and as often as there. -/
structure Picks (p : String → Prop) (xs ys : List String) : Prop where
  sublist : ys.Sublist xs
  mem : ∀ x ∈ ys, p x
  count : ∀ x, p x → ys.count x = xs.count x

theorem picks_filter (p : String → Prop) [DecidablePred p] (xs : List String) :
    Picks p xs (xs.filter p) where
  sublist := List.filter_sublist
  mem x hx := by simpa using (List.mem_filter.1 hx).2
  count x hx := List.count_filter (by simpa using hx)

/-- Two lists hold the same names. -/
def SameNames (xs ys : List String) : Prop := ∀ n, n ∈ ys ↔ n ∈ xs

theorem SameNames.eq_nil_iff {xs ys : List String} (h : SameNames xs ys) : ys = [] ↔ xs = [] := by
  simp only [List.eq_nil_iff_forall_not_mem, h _]

namespace Export

open Sheets (Service)

/-! ## Selected and missing tabs -/

namespace Options

variable {o : Options} {names ws : List String} {n : String}

theorem mem_selected (h : o.tabs ≠ []) : n ∈ o.selected names ↔ n ∈ names ∧ n ∈ o.tabs := by
  simp [selected_eq, h]

theorem mem_missing : n ∈ o.missing names ↔ n ∈ o.tabs ∧ n ∉ names := by simp [missing_eq]

theorem picks_selected (h : o.tabs ≠ []) (names : List String) :
    Picks (· ∈ o.tabs) names (o.selected names) := by
  rw [selected, if_neg h]
  simpa using picks_filter (· ∈ o.tabs) names

theorem picks_missing (o : Options) (names : List String) :
    Picks (· ∉ names) o.tabs (o.missing names) := by
  rw [missing_eq]
  exact picks_filter (· ∉ names) o.tabs

theorem selected_congr (h : SameNames o.tabs ws) (names : List String) :
    { o with tabs := ws }.selected names = o.selected names := by
  simp only [selected_eq, h.eq_nil_iff, h _]

theorem sameNames_missing (h : SameNames o.tabs ws) (names : List String) :
    SameNames (o.missing names) ({ o with tabs := ws }.missing names) := by
  intro n
  rw [mem_missing, mem_missing, h n]

end Options

/-! ## Runs that differ by missing tabs -/

/-- Two events are the same, or tell of the same missing tabs. -/
inductive Event.Same : Event → Event → Prop where
  | refl (e : Event) : Same e e
  | missing {xs ys : List String} : SameNames xs ys → Same (.tabsMissing xs) (.tabsMissing ys)

/-- Two reports are the same, but for how missing tabs are listed. -/
structure Report.Same (r r' : Report) : Prop where
  tabNames : r'.tabNames = r.tabNames
  written : r'.written = r.written
  skipped : r'.skipped = r.skipped
  missing : SameNames r.missing r'.missing

/-- Two results are the same failure or such reports. -/
inductive SameResult {ε : Type} : Except ε Report → Except ε Report → Prop where
  | ok {r r' : Report} : r.Same r' → SameResult (.ok r) (.ok r')
  | error (e : ε) : SameResult (.error e) (.error e)

variable {σ : Type} {s t : Session σ} {r r' : Report} {es fs : List Event}

/-- Two sessions are the same, but for such events. -/
structure Session.Same (s t : Session σ) : Prop where
  service : t.service = s.service
  files : t.files = s.files
  calls : t.calls = s.calls
  events : List.Forall₂ Event.Same s.events t.events

/-- Two runs ended alike and did the same. -/
structure SameRun (x y : Except Failure Report × Session σ) : Prop where
  result : SameResult x.1 y.1
  session : x.2.Same y.2

theorem forall₂_same_refl (es : List Event) : List.Forall₂ Event.Same es es :=
  List.forall₂_same.2 fun e _ => .refl e

theorem Session.Same.goOn (h : s.Same t) (v : σ) (u : FileTree) (new : List Event) (c : Call) :
    Session.Same ⟨v, u, s.events ++ new, s.calls ++ [c]⟩ ⟨v, u, t.events ++ new, t.calls ++ [c]⟩ :=
  ⟨rfl, rfl, by rw [h.calls], List.rel_append h.events (forall₂_same_refl new)⟩

theorem Report.Same.addTabs (h : r.Same r') (o : Options) (ts : List Tab) :
    (o.addTabs r ts).Same (o.addTabs r' ts) :=
  ⟨h.tabNames, congrArg (· ++ _) h.written, congrArg (· ++ _) h.skipped, h.missing⟩

variable (a : Service σ) (o : Options) (id : String)

/-- The export of a tab does not look at what was reported or told before. -/
theorem sameRun_exportTab (name : String) (hr : r.Same r') (hs : s.Same t) :
    SameRun (Effect.run (exportTab a o id r name) s) (Effect.run (exportTab a o id r' name) t) := by
  rw [run_exportTab, run_exportTab, hs.service, hs.files]
  rcases a.values id (o.range.forTab name) s.service with ⟨e | rows, v⟩
  · exact ⟨.error e, hs.goOn v s.files _ _⟩
  · simp only
    cases s.files.writeAll (o.writes [⟨name, rows⟩]) with
    | error e => exact ⟨.error _, hs.goOn v s.files _ _⟩
    | ok u => exact ⟨.ok (hr.addTabs o _), hs.goOn v u _ _⟩

theorem sameRun_exportTabs (names : List String) (hr : r.Same r') (hs : s.Same t) :
    SameRun (Effect.run (names.foldlM (exportTab a o id) r) s)
      (Effect.run (names.foldlM (exportTab a o id) r') t) := by
  induction names generalizing r r' s t with
  | nil => exact ⟨.ok hr, hs⟩
  | cons name names ih =>
    obtain ⟨hresult, hsession⟩ := sameRun_exportTab a o id name hr hs
    rw [List.foldlM_cons, List.foldlM_cons, Effect.run_bind, Effect.run_bind]
    generalize Effect.run (exportTab a o id r name) s = x at hresult hsession ⊢
    generalize Effect.run (exportTab a o id r' name) t = y at hresult hsession ⊢
    obtain ⟨res, s'⟩ := x
    obtain ⟨res', t'⟩ := y
    cases hresult with
    | error e => exact ⟨.error e, hsession⟩
    | ok hr' => exact ih hr' hsession

variable {o} {ws : List String}

theorem same_announced (h : SameNames o.tabs ws) (names : List String) :
    List.Forall₂ Event.Same (o.announced names) ({ o with tabs := ws }.announced names) := by
  have hmissing := Options.sameNames_missing h names
  unfold Options.announced
  simp only [hmissing.eq_nil_iff]
  split
  · exact forall₂_same_refl _
  · exact .cons (.refl _) (.cons (.missing hmissing) .nil)

theorem sameRun_run (h : SameNames o.tabs ws) (s : Session σ) :
    SameRun (Effect.run (run a o id) s) (Effect.run (run a { o with tabs := ws } id) s) := by
  rw [run_run, run_run]
  rcases a.tabNames id s.service with ⟨e | names, v⟩
  · exact ⟨.error e, rfl, rfl, rfl, forall₂_same_refl _⟩
  · have hevents := List.rel_append (forall₂_same_refl s.events) (same_announced h names)
    simp only [Options.selected_congr h]
    rcases s.files.createDirs o.outputDir with ⟨e | ⟨⟩, u⟩
    · exact ⟨.error _, rfl, rfl, rfl, hevents⟩
    · exact sameRun_exportTabs a o id _ ⟨rfl, rfl, rfl, Options.sameNames_missing h names⟩
        ⟨rfl, rfl, rfl, hevents⟩

/-! ## Exports by settings -/

theorem SameResult.mapError {ε ε' : Type} {x y : Except ε Report} (h : SameResult x y)
    (f : ε → ε') : SameResult (x.mapError f) (y.mapError f) := by
  cases h with
  | ok hr => exact .ok hr
  | error e => exact .error (f e)

/-- Two exports ended alike and did the same to the world. -/
structure SameExport (x y : Except Stop Report × World) : Prop where
  result : SameResult x.1 y.1
  world : ∃ es, List.Forall₂ Event.Same x.2.events es ∧ y.2 = { x.2 with events := es }

theorem SameExport.refl (e : Stop) (w : World) : SameExport (.error e, w) (.error e, w) :=
  ⟨.error e, _, forall₂_same_refl _, rfl⟩

theorem sameExport_runClient (client : Sheets.Client) (h : SameNames o.tabs ws) (w : World) :
    SameExport (Effect.run (runClient client o id) w)
      (Effect.run (runClient client { o with tabs := ws } id) w) := by
  obtain ⟨hresult, hservice, hfiles, -, hevents⟩ :=
    sameRun_run client.service id h { service := w.network, files := w.files }
  rw [run_runClient, run_runClient]
  refine ⟨hresult.mapError _, _, List.rel_append (forall₂_same_refl w.events) hevents, ?_⟩
  simp only [hservice, hfiles]

theorem ofSettings_tabs (s : Settings) (ws : List String) :
    Options.ofSettings { s with tabs := ws } =
      (Options.ofSettings s).map fun o => { o with tabs := ws } := by
  have hproblem : { s with tabs := ws }.problem? = s.problem? := rfl
  rw [Options.ofSettings, Options.ofSettings, hproblem]
  cases s.problem? with
  | some words => rfl
  | none => cases A1.Range.parse s.range <;> rfl

theorem tabs_of_ofSettings {s : Settings} (h : Options.ofSettings s = .ok o) : o.tabs = s.tabs := by
  have htabs := ofSettings_tabs s s.tabs
  rw [h] at htabs
  exact congrArg Options.tabs (Except.ok.inj htabs)

/-- Settings that ask for the same tabs lead to the same export. -/
theorem sameExport_exportSpreadsheet {s : Settings} (h : SameNames s.tabs ws) (w : World) :
    SameExport (Effect.run (exportSpreadsheet s) w)
      (Effect.run (exportSpreadsheet { s with tabs := ws }) w) := by
  have hoptions := ofSettings_tabs s ws
  cases hid : s.effectiveId? with
  | none =>
    have hid' : { s with tabs := ws }.effectiveId? = none := hid
    rw [exportSpreadsheet, exportSpreadsheet, hid, hid']
    exact .refl _ w
  | some id =>
    have hid' : { s with tabs := ws }.effectiveId? = some id := hid
    cases ho : Options.ofSettings s with
    | error f =>
      rw [ho] at hoptions
      rw [exportSpreadsheet, exportSpreadsheet, hid, hid', ho, hoptions]
      exact .refl _ w
    | ok o =>
      rw [ho] at hoptions
      rw [run_exportSpreadsheet hid ho, run_exportSpreadsheet hid' hoptions]
      have hprovider :
          Auth.Provider.ofSettings { s with tabs := ws } = Auth.Provider.ofSettings s := rfl
      simp only [hprovider]
      rcases Effect.run (Auth.Provider.ofSettings s).credentials w.fresh with ⟨e | c, v⟩
      · exact .refl e v
      · simp only
        cases Sheets.Client.ofBase s.apiBaseUrl c.accessToken s.valueRender with
        | error f => exact .refl _ v
        | ok client => exact sameExport_runClient id client (tabs_of_ofSettings ho ▸ h) v

/-- With a choice the tabs asked for that are there are selected, in the order and as
often as they are there, and those that are not are missing, in the order and as often as
asked for; each is one or the other. Without a choice all are selected and none is missing.
How a choice is written down makes no difference to what is selected, to runs over a
service and to exports by settings. -/
theorem selection_partition :
    (∀ (o : Options) (names : List String), o.tabs ≠ [] →
      Picks (· ∈ o.tabs) names (o.selected names) ∧ Picks (· ∉ names) o.tabs (o.missing names) ∧
      ∀ n ∈ o.tabs, (n ∈ o.selected names ∧ n ∉ o.missing names) ∨
        (n ∉ o.selected names ∧ n ∈ o.missing names)) ∧
    (∀ (o : Options) (names : List String), o.tabs = [] →
      o.selected names = names ∧ o.missing names = []) ∧
    (∀ (o : Options) (ws : List String), SameNames o.tabs ws →
      (∀ names, { o with tabs := ws }.selected names = o.selected names) ∧
      ∀ {σ : Type} (a : Service σ) (id : String) (s : Session σ),
        SameRun (Effect.run (run a o id) s) (Effect.run (run a { o with tabs := ws } id) s)) ∧
    ∀ (s : Settings) (ws : List String) (w : World), SameNames s.tabs ws →
      SameExport (Effect.run (exportSpreadsheet s) w)
        (Effect.run (exportSpreadsheet { s with tabs := ws }) w) := by
  refine ⟨fun o names h => ⟨Options.picks_selected h names, o.picks_missing names, ?_⟩, ?_, ?_, ?_⟩
  · intro n hn
    rw [Options.mem_selected h, Options.mem_missing]
    by_cases hthere : n ∈ names
    · exact .inl ⟨⟨hthere, hn⟩, fun hm => hm.2 hthere⟩
    · exact .inr ⟨fun hs => hthere hs.1, hn, hthere⟩
  · intro o names h
    exact ⟨by simp [Options.selected, h], by simp [Options.missing, h]⟩
  · exact fun o ws h => ⟨Options.selected_congr h, fun a id s => sameRun_run a id h s⟩
  · exact fun s ws w h => sameExport_exportSpreadsheet h w

theorem sameNames_chosen : SameNames chosen.tabs ["x", "b", "x", "c", "b"] := by
  intro n
  simp only [chosen, List.mem_cons, List.not_mem_nil, or_false]
  tauto

/-- The tabs `c` and `b` and one that is not there, asked for in two ways, and a tab of a
service that is asked for in two ways and saved. -/
theorem selection_partition_chosenTabs :
    (∀ n ∈ chosen.tabs, (n ∈ chosen.selected ["b", "b", "d"] ∧ n ∉ chosen.missing ["b", "b", "d"]) ∨
      (n ∉ chosen.selected ["b", "b", "d"] ∧ n ∈ chosen.missing ["b", "b", "d"])) ∧
    ({ chosen with tabs := [] } : Options).selected ["b", "b"] = ["b", "b"] ∧
    SameRun (Effect.run (run Sheets.prepared chosen "id") chosenTabs)
      (Effect.run (run Sheets.prepared { chosen with tabs := ["x", "b", "x", "c", "b"] } "id")
        chosenTabs) ∧
    ∃ w, Effect.run (exportSpreadsheet (cachedSettings "http://[::1]/v4/" ["y", "T", "x"]))
        (cachedWorld "a") = (.ok (cachedReport ["y", "x"]), w) ∧
      w.files.read "out/T.csv" = .ok "x" ∧
      SameExport (.ok (cachedReport ["y", "x"]), w)
        (Effect.run (exportSpreadsheet (cachedSettings "http://[::1]/v4/" ["x", "T", "T", "y"]))
          (cachedWorld "a")) := by
  obtain ⟨hchoice, hall, hruns, hexports⟩ := selection_partition
  have hclient : Sheets.Client.ofBase "http://[::1]/v4/" "a" .formatted =
      .ok (cachedClient [] none "a") := rfl
  have hsends : Sends (cachedClient [] none "a") ["Bearer a"] := by decide +kernel
  obtain ⟨w, hw, -, hread⟩ := run_cachedWorld "http://[::1]/v4/" "a" ["y", "T", "x"] (by decide)
    hclient hsends rfl
  have hsame : SameNames (cachedSettings "http://[::1]/v4/" ["y", "T", "x"]).tabs
      ["x", "T", "T", "y"] := by
    intro n
    constructor
    · intro hn
      obtain rfl | rfl | rfl | rfl := by simpa using hn
      all_goals simp [cachedSettings]
    · intro hn
      obtain rfl | rfl | rfl := by simpa [cachedSettings] using hn
      all_goals simp
  have hexport := hexports _ _ (cachedWorld "a") hsame
  rw [hw] at hexport
  exact ⟨(hchoice chosen ["b", "b", "d"] (by decide)).2.2,
    (hall { chosen with tabs := [] } ["b", "b"] rfl).1,
    (hruns chosen _ sameNames_chosen).2 Sheets.prepared "id" chosenTabs, w, hw, hread, hexport⟩

end Export

end SheetExport
