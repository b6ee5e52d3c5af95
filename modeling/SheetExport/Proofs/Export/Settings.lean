import SheetExport.Export.Run
import SheetExport.Proofs.Auth.Overflow
import SheetExport.Proofs.Export.Files
import SheetExport.Proofs.Sheets

/-!
# Settings that are refused

Settings without a spreadsheet, with a setting that cannot work or with a range
that is none are refused before anything is done. A base address that nothing
can be below is refused too, but only once credentials are provided: whatever
that did stays done. `exportSpreadsheet_rejects_iff` says when nothing was done.
-/

namespace SheetExport

open Auth (Credentials Granted Provider)

/-! ## Rejections -/

/-- Failures that tell what is wrong with settings. -/
inductive Failure.OfSettings : Failure → Prop where
  | config (words : String) : OfSettings (.config words)
  | invalidRange (text : String) : OfSettings (.invalidRange text)

/-- Between two worlds no request was sent, no browser waited for and no file
changed. -/
structure Untouched (w w' : World) : Prop where
  network : w'.network = w.network
  pages : w'.pages = w.pages
  files : w'.files = w.files

theorem Untouched.refl (w : World) : Untouched w w := ⟨rfl, rfl, rfl⟩

theorem untouched_fresh {w w' : World} : Untouched w.fresh w' ↔ Untouched w w' :=
  ⟨fun h => ⟨h.network, h.pages, h.files⟩, fun h => ⟨h.network, h.pages, h.files⟩⟩

/-- An action fails because of the settings, with nothing done. -/
def Rejects {α : Type} (x : Action α) (w : World) : Prop :=
  ∃ f w', Effect.run x w = (.error (.failure f), w') ∧ f.OfSettings ∧ Untouched w w'

/-! ## Answers of the service -/

theorem Sheets.Client.ask_eq_ok {α : Type} {d : Http.Draft} {r : Http.Request} {shown body : String}
    {read : String → Option α} {a : α} {n : Http.Network} {rest : List Http.Reply}
    (hd : d.request = .ok (r, shown, false)) (hn : n.replies = .answer 200 body :: rest)
    (hread : read body = some a) :
    ask d read n = (.ok a, { n with replies := rest, delivered := n.delivered ++ [r] }) := by
  have hsuccess : Http.isSuccess 200 = true := by decide
  simp only [ask, Http.Network.send, hd, hn, Bool.false_and, Bool.false_eq_true, if_false, hsuccess,
    if_true, hread]

namespace Export

variable {s : Settings} {f : Failure} {o : Options} {c : Credentials} {w w' : World} {path : String}

/-! ## Settings that cannot work -/

/-- There is no spreadsheet, a setting that cannot work, or no range. -/
def Unready (s : Settings) : Prop :=
  s.effectiveId? = none ∨ (∃ words, s.problem? = some words) ∨
    ∃ e, A1.Range.parse s.range = .error e

/-- No request can go below the base address. -/
def Baseless (s : Settings) : Prop :=
  ∀ url, Url.parse s.apiBaseUrl = .ok url → ∃ cs, url.path = .plain cs

namespace Options

theorem ofSettings_of_problem {words : String} (h : s.problem? = some words) :
    Options.ofSettings s = .error (.config words) := by
  rw [ofSettings, h]
  rfl

theorem ofSettings_of_parse_error (h : s.problem? = none) {e : A1.InvalidRange}
    (hrange : A1.Range.parse s.range = .error e) :
    Options.ofSettings s = .error (.invalidRange e.text) := by
  rw [ofSettings, h, hrange]
  rfl

theorem ofSettings_of_parse (h : s.problem? = none) {range : A1.Range}
    (hrange : A1.Range.parse s.range = .ok range) :
    Options.ofSettings s = .ok { outputDir := s.outputDir, range, tabs := s.tabs } := by
  rw [ofSettings, h, hrange]
  rfl

end Options

theorem Unready.cases (h : Unready s) :
    s.effectiveId? = none ∨ ∃ f, Options.ofSettings s = .error f ∧ f.OfSettings := by
  obtain hid | hrest := h
  · exact .inl hid
  · refine .inr ?_
    cases hproblem : s.problem? with
    | some words => exact ⟨_, Options.ofSettings_of_problem hproblem, .config words⟩
    | none =>
      obtain ⟨words, hwords⟩ | ⟨e, hrange⟩ := hrest
      · cases hproblem.symm.trans hwords
      · exact ⟨_, Options.ofSettings_of_parse_error hproblem hrange, .invalidRange e.text⟩

theorem exists_of_not_unready (h : ¬ Unready s) :
    ∃ id o, s.effectiveId? = some id ∧ Options.ofSettings s = .ok o := by
  simp only [Unready, not_or, not_exists] at h
  obtain ⟨hid, hproblem, hrange⟩ := h
  have hready : s.problem? = none := Option.eq_none_iff_forall_ne_some.2 hproblem
  obtain ⟨id, hid⟩ := Option.ne_none_iff_exists'.1 hid
  rcases hparse : A1.Range.parse s.range with e | range
  · exact absurd hparse (hrange e)
  · exact ⟨id, _, hid, Options.ofSettings_of_parse hready hparse⟩

theorem ofBase_of_baseless (h : Baseless s) (token : String) (render : ValueRender) :
    ∃ words, Sheets.Client.ofBase s.apiBaseUrl token render = .error (.config words) := by
  unfold Sheets.Client.ofBase
  rcases hurl : Url.parse s.apiBaseUrl with e | url
  · exact ⟨_, rfl⟩
  · obtain ⟨cs, hpath⟩ := h url hurl
    simp only [hpath]
    exact ⟨_, rfl⟩

/-! ## Exports -/

theorem run_exportSpreadsheet_of_unready (h : Unready s) :
    ∃ f, f.OfSettings ∧ ∀ w, Effect.run (exportSpreadsheet s) w = (.error (.failure f), w) := by
  unfold exportSpreadsheet
  obtain hid | ⟨f, ho, hf⟩ := h.cases
  · rw [hid]
    exact ⟨_, .config _, fun w => rfl⟩
  · cases s.effectiveId? with
    | none => exact ⟨_, .config _, fun w => rfl⟩
    | some id =>
      rw [ho]
      exact ⟨f, hf, fun w => rfl⟩

theorem run_runClient (client : Sheets.Client) (o : Options) (id : String) (w : World) :
    Effect.run (runClient client o id) w =
      let r := Effect.run (run client.service o id) { service := w.network, files := w.files }
      (r.1.mapError Stop.failure,
        { w with network := r.2.service, files := r.2.files, events := w.events ++ r.2.events }) :=
  rfl

theorem run_exportSpreadsheet {id : String} (hid : s.effectiveId? = some id)
    (ho : Options.ofSettings s = .ok o) (w : World) :
    Effect.run (exportSpreadsheet s) w =
      match Effect.run (Provider.ofSettings s).credentials w.fresh with
      | (.ok c, v) =>
        match Sheets.Client.ofBase s.apiBaseUrl c.accessToken s.valueRender with
        | .ok client => Effect.run (runClient client o id) v
        | .error f => (.error (.failure f), v)
      | (.error e, v) => (.error e, v) := by
  unfold exportSpreadsheet
  simp only [hid, ho, Effect.run_bind, Auth.run_ofResult, Except.mapError_ok, Provider.run_start]
  rcases Effect.run (Provider.ofSettings s).credentials w.fresh with ⟨e | c, v⟩
  · rfl
  · simp only
    cases Sheets.Client.ofBase s.apiBaseUrl c.accessToken s.valueRender <;> rfl

/-- Without a base an export fails once credentials are provided, in the world
that this has led to. -/
theorem run_exportSpreadsheet_of_baseless (h : ¬ Unready s) (hbase : Baseless s) (w : World) :
    ∃ words, Effect.run (exportSpreadsheet s) w =
      match Effect.run (Provider.ofSettings s).credentials w.fresh with
      | (.ok _, v) => (.error (.failure (.config words)), v)
      | (.error e, v) => (.error e, v) := by
  obtain ⟨id, o, hid, ho⟩ := exists_of_not_unready h
  rw [run_exportSpreadsheet hid ho]
  rcases Effect.run (Provider.ofSettings s).credentials w.fresh with ⟨e | c, v⟩
  · exact ⟨"", rfl⟩
  · obtain ⟨words, hclient⟩ := ofBase_of_baseless hbase c.accessToken s.valueRender
    refine ⟨words, ?_⟩
    simp only [hclient]

/-! ## When nothing was done -/

/-- Credentials that are granted have used a reply of the network. -/
theorem network_ne_of_granted (h : Granted w w' c) : w'.network ≠ w.network := by
  obtain ⟨used, status, body, -, -, hreplies, -, -⟩ := h
  intro hnet
  have hlength := congrArg List.length hreplies
  rw [hnet] at hlength
  simp at hlength
  omega

/-- Valid credentials are kept. -/
def Supplied (s : Settings) (w : World) : Prop :=
  ∃ c, (Provider.ofSettings s).store.kept w = .ok (some c) ∧ c.valid? w.clock = some true

/-- Credentials are provided with nothing done only if valid ones are kept. -/
theorem supplied_of_untouched
    (h : Effect.run (Provider.ofSettings s).credentials w = (.ok c, w')) (hw : Untouched w w') :
    Supplied s w := by
  obtain ⟨hk, hv, -⟩ | ⟨o, v, -, hs, hsave⟩ := Provider.run_credentials_eq_ok h
  · exact ⟨c, hk, hv⟩
  · have hgranted := Provider.grants_supply (Auth.grants_acquire s.auth) o w c v hs
    -- what is saved leaves the network as it is
    have hnet := ((Provider.ofSettings s).store.quiet_save c v).2
    rw [hsave] at hnet
    exact absurd (hnet.symm.trans hw.network) (network_ne_of_granted hgranted)

theorem run_credentials_of_kept (hk : (Provider.ofSettings s).store.kept w = .ok (some c))
    (hv : c.valid? w.clock = some true) :
    Effect.run (Provider.ofSettings s).credentials w = (.ok c, w) := by
  simp only [Provider.run_credentials, hk, hv]

/-- Without a base an export is rejected with nothing done if valid credentials
are in the cache, or if providing them is rejected so. -/
theorem rejects_iff_of_baseless (h : ¬ Unready s) (hbase : Baseless s) (w : World) :
    Rejects (exportSpreadsheet s) w ↔
      Supplied s w.fresh ∨ Rejects (Provider.ofSettings s).credentials w.fresh := by
  obtain ⟨words, hrun⟩ := run_exportSpreadsheet_of_baseless h hbase w
  constructor
  · rintro ⟨f, w', hfails, hf, hw⟩
    rcases hc : Effect.run (Provider.ofSettings s).credentials w.fresh with ⟨e | c, v⟩
    · rw [hrun, hc] at hfails
      cases hfails
      exact .inr ⟨f, w', hc, hf, untouched_fresh.2 hw⟩
    · rw [hrun, hc] at hfails
      cases hfails
      exact .inl (supplied_of_untouched hc (untouched_fresh.2 hw))
  · rintro (hs | ⟨f, w', hfails, hf, hw⟩)
    · obtain ⟨c, hk, hv⟩ := hs
      rw [run_credentials_of_kept hk hv] at hrun
      exact ⟨_, w.fresh, hrun, .config words, untouched_fresh.1 (.refl _)⟩
    · rw [hfails] at hrun
      exact ⟨f, w', hrun, hf, untouched_fresh.1 hw⟩

/-- Settings without a base and with a cache, for the strategy of the endpoint on
this machine. -/
def withoutBase (cache : Option String) : Settings where
  spreadsheetId := some "id"
  apiBaseUrl := "nope"
  tokenCache := cache
  auth := Auth.localStrategy

theorem baseless_withoutBase (cache : Option String) : Baseless (withoutBase cache) := by
  have hparse : Url.parse "nope" = .error .relativeWithoutBase := by rfl
  intro url hurl
  cases hparse.symm.trans hurl

/-- Settings that cannot work never lead to a report. They are rejected with
nothing done exactly if they are not ready, valid credentials are in the cache, or
providing credentials is rejected so. Settings that are not ready are rejected
alike in every world, which stays as it is. -/
theorem exportSpreadsheet_rejects_iff (h : Unready s ∨ Baseless s) :
    (Unready s → ∃ f, f.OfSettings ∧
      ∀ w, Effect.run (exportSpreadsheet s) w = (.error (.failure f), w)) ∧
    ∀ w, (∃ e, (Effect.run (exportSpreadsheet s) w).1 = .error e) ∧
      (Rejects (exportSpreadsheet s) w ↔
        Unready s ∨ Supplied s w.fresh ∨ Rejects (Provider.ofSettings s).credentials w.fresh) := by
  refine ⟨run_exportSpreadsheet_of_unready, fun w => ?_⟩
  by_cases hready : Unready s
  · obtain ⟨f, hf, hrun⟩ := run_exportSpreadsheet_of_unready hready
    exact ⟨⟨_, congrArg Prod.fst (hrun w)⟩,
      iff_of_true ⟨f, w, hrun w, hf, .refl w⟩ (.inl hready)⟩
  · have hbase := h.resolve_left hready
    constructor
    · obtain ⟨words, hrun⟩ := run_exportSpreadsheet_of_baseless hready hbase w
      rw [hrun]
      rcases Effect.run (Provider.ofSettings s).credentials w.fresh with ⟨e | c, v⟩
      · exact ⟨e, rfl⟩
      · exact ⟨_, rfl⟩
    · rw [rejects_iff_of_baseless hready hbase]
      simp only [hready, false_or]

/-- With valid credentials in a file nothing is done. -/
theorem exportSpreadsheet_rejects_supplied :
    (Unready (withoutBase (some "token.json")) ∨ Baseless (withoutBase (some "token.json"))) ∧
      Rejects (exportSpreadsheet (withoutBase (some "token.json")))
        { Auth.localWorld "t" with files := Auth.cachedTree (Auth.localCredentials "t") } := by
  have h : Unready (withoutBase (some "token.json")) ∨ Baseless (withoutBase (some "token.json")) :=
    .inr (baseless_withoutBase _)
  have hcached : Supplied (withoutBase (some "token.json"))
      { Auth.localWorld "t" with files := Auth.cachedTree (Auth.localCredentials "t") } :=
    ⟨_, Auth.loadFile_cachedTree (Auth.representable_localCredentials "t") [], by decide⟩
  exact ⟨h, ((exportSpreadsheet_rejects_iff h).2 _).2.2 (.inr (.inl hcached))⟩

theorem run_credentials_withoutBase : ∃ w',
    Effect.run (Provider.ofSettings (withoutBase (some "token.json"))).credentials
      (Auth.localWorld "t") = (.ok (Auth.localCredentials "t"), w') ∧
    w'.network.delivered ≠ [] ∧
    w'.files.read "token.json" = .ok (Auth.localCredentials "t").toJson.prettyText := by
  obtain ⟨n, hn⟩ := Auth.run_acquire_local "t"
  obtain ⟨ps, hgrant⟩ := Auth.acquire_local
  -- the request was sent
  obtain ⟨n', hw, hposts⟩ := Auth.grant_posts Auth.localEndpoint ps
    (AuthStrategy.seed "id" "secret" "refresh" (some Auth.localEndpoint)) (Auth.localWorld "t")
  obtain ⟨q, -, hdelivered⟩ := hposts.resolve_left fun ⟨_, _, _, h⟩ => Auth.sendable_local ps h
  rw [← hgrant, hn] at hw
  obtain rfl : n = n' := congrArg World.network hw
  -- and what was granted is saved
  obtain ⟨t, t', t'', hparent, hwrite, hmode⟩ : ∃ t t' t'',
      FileTree.makeParent {} "token.json" = .ok t ∧
        t.write "token.json" (Auth.localCredentials "t").toJson.prettyText = .ok t' ∧
        t'.setMode "token.json" Auth.Store.privateMode = .ok t'' := ⟨_, _, _, rfl, rfl, rfl⟩
  have hsave := (Auth.Store.run_save_file_eq_ok (w := { Auth.localWorld "t" with network := n })).2
    ⟨t, t', t'', hparent, hwrite, hmode, rfl⟩
  have hread := FileTree.read_setMode hmode (FileTree.read_write hwrite)
  refine ⟨{ Auth.localWorld "t" with network := n, files := t'' }, ?_, ?_, hread⟩
  · rw [Provider.run_credentials_of_stale (o := none) ⟨rfl, by simp⟩, Effect.run_bind_eq_ok]
    exact ⟨_, _, hn, Provider.run_keep_eq_ok.2 ⟨rfl, hsave⟩⟩
  · simp [hdelivered]

/-- With a cache in a file that is not there, a token is asked for and written
before the base is looked at. -/
theorem exportSpreadsheet_withoutBase_saves : Baseless (withoutBase (some "token.json")) ∧
    ¬ Rejects (exportSpreadsheet (withoutBase (some "token.json"))) (Auth.localWorld "t") ∧ ∃ w',
      Effect.run (exportSpreadsheet (withoutBase (some "token.json"))) (Auth.localWorld "t") =
        (.error (.failure (.config "Invalid API base URL nope: relative URL without a base")), w') ∧
      w'.network.delivered ≠ [] ∧
      w'.files.read "token.json" = .ok (Auth.localCredentials "t").toJson.prettyText := by
  obtain ⟨w', hc, hsent, hread⟩ := run_credentials_withoutBase
  have hrun := run_exportSpreadsheet (s := withoutBase (some "token.json")) rfl rfl
    (Auth.localWorld "t")
  have hfresh : (Auth.localWorld "t").fresh = Auth.localWorld "t" := rfl
  rw [hfresh, hc] at hrun
  refine ⟨baseless_withoutBase _, ?_, w', hrun, hsent, hread⟩
  rintro ⟨f, v, hfails, -, huntouched⟩
  obtain rfl : w' = v := congrArg Prod.snd (hrun.symm.trans hfails)
  exact hsent (congrArg Http.Network.delivered huntouched.network)

/-! ## Exports that reach the service -/

open Sheets (Client)

/-- Settings for a service at an address, with a cache and a choice of tabs. -/
def cachedSettings (base : String) (tabs : List String) : Settings where
  spreadsheetId := some "id"
  outputDir := "out"
  tabs := tabs
  apiBaseUrl := base
  auth := Auth.localStrategy

/-- A world where the cache holds credentials and the service has a spreadsheet of one
tab. -/
def cachedWorld (token : String) : World where
  clock := ⟨0, 0⟩
  files := Auth.cachedTree (Auth.localCredentials token)
  network := { replies := [.answer 200 (Client.namesAnswer ["T"]).text,
    .answer 200 (Client.valuesAnswer [["x"]]).text] }

def cachedReport (missing : List String) : Report where
  tabNames := ["T"]
  written := ["out/T.csv"]
  missing := missing

theorem loadFile_cachedWorld (token : String) :
    Auth.Store.loadFile (cachedWorld token).files "token.json" =
      .ok (some (Auth.localCredentials token)) :=
  Auth.loadFile_cachedTree (Auth.representable_localCredentials token) []

theorem run_credentials_cached (hpath : s.tokenCache = some path)
    (hc : Auth.Store.loadFile w.files path = .ok (some c))
    (hvalid : c.valid? w.clock = some true) :
    Effect.run (Provider.ofSettings s).credentials w.fresh = (.ok c, w.fresh) := by
  have hkept : (Provider.ofSettings s).store.kept w.fresh = .ok (some c) := by
    rw [Provider.ofSettings, hpath]
    exact hc
  exact run_credentials_of_kept hkept hvalid

def cachedOptions (tabs : List String) : Options := { intoOut with tabs := tabs }

theorem ofSettings_cached (base : String) (tabs : List String) :
    Options.ofSettings (cachedSettings base tabs) = .ok (cachedOptions tabs) := by
  have hproblem : (cachedSettings "" []).problem? = none := by decide +kernel
  have hrange : A1.Range.parse "A:Z" = .ok Options.allLetters :=
    Except.toOption_eq_some.1 (by decide +kernel)
  exact Options.ofSettings_of_parse (s := cachedSettings base tabs) hproblem hrange

theorem writes_cached (tabs : List String) :
    (cachedOptions tabs).writes [⟨"T", [[.text "x"]]⟩] = [("out/T.csv", "x")] := by
  have hwrites : intoOut.writes [⟨"T", [[.text "x"]]⟩] = [("out/T.csv", "x")] := rfl
  exact hwrites

theorem addTabs_cached (tabs : List String) :
    (cachedOptions tabs).addTabs
        { tabNames := ["T"], missing := (cachedOptions tabs).missing ["T"] }
        [⟨"T", [[.text "x"]]⟩] = cachedReport ((cachedOptions tabs).missing ["T"]) := by
  have hblanks : intoOut.blanks [⟨"T", [[.text "x"]]⟩] = [] := rfl
  rw [Options.addTabs, writes_cached, show (cachedOptions tabs).blanks _ = [] from hblanks]
  rfl

def namesRequest (authorization : List String) : Http.Request where
  verb := "GET"
  url := "http://[::1]/v4/spreadsheets/id?fields=sheets.properties.title"
  authorization := authorization
  contentType := none
  body := ""

def valuesRequest (authorization : List String) : Http.Request where
  verb := "GET"
  url := "http://[::1]/v4/spreadsheets/id/values/'T'!A:Z?majorDimension=ROWS&" ++
    "valueRenderOption=FORMATTED_VALUE"
  authorization := authorization
  contentType := none
  body := ""

def Sends (c : Client) (authorization : List String) : Prop :=
  (c.namesDraft "id").request.toOption =
      some (namesRequest authorization, (namesRequest authorization).url, false) ∧
    (c.valuesDraft "id" (intoOut.range.forTab "T")).request.toOption =
      some (valuesRequest authorization, (valuesRequest authorization).url, false)

instance (c : Client) (authorization : List String) : Decidable (Sends c authorization) :=
  inferInstanceAs (Decidable (_ ∧ _))

/-- The tab is saved after the two requests. -/
theorem run_cachedTab (token : String) {tabs : List String} {client : Client}
    {authorization : List String} (hsends : Sends client authorization)
    (hselected : (cachedOptions tabs).selected ["T"] = ["T"]) : ∃ s',
    Effect.run (run client.service (cachedOptions tabs) "id")
        { service := (cachedWorld token).network, files := (cachedWorld token).files } =
      (.ok (cachedReport ((cachedOptions tabs).missing ["T"])), s') ∧
    s'.service.delivered = [namesRequest authorization, valuesRequest authorization] ∧
    s'.files.read "out/T.csv" = .ok "x" := by
  have hnames := Client.ask_eq_ok (n := (cachedWorld token).network)
    (Except.toOption_eq_some.1 hsends.1) rfl (Client.readNames_namesAnswer ["T"])
  let asked : Http.Network :=
    { replies := [.answer 200 (Client.valuesAnswer [["x"]]).text]
      delivered := [namesRequest authorization] }
  have hvalues := Client.ask_eq_ok (n := asked)
    (Except.toOption_eq_some.1 hsends.2) rfl (Client.readValues_valuesAnswer [["x"]])
  obtain ⟨t, hdir, u, hwrite, hread⟩ : ∃ t,
      (cachedWorld token).files.createDirs "out" = (.ok (), t) ∧
      ∃ u, t.writeAll [("out/T.csv", "x")] = .ok u ∧ u.read "out/T.csv" = .ok "x" :=
    ⟨_, rfl, _, rfl, rfl⟩
  have hrun : Effect.run (run client.service (cachedOptions tabs) "id")
      { service := (cachedWorld token).network, files := (cachedWorld token).files } = _ :=
    run_eq_ok.2 ⟨_, _, t, [⟨"T", [[.text "x"]]⟩], _, u, hnames, hdir, hselected.symm,
      .cons hvalues (.nil _), (congrArg t.writeAll (writes_cached tabs)).trans hwrite, rfl, rfl⟩
  rw [addTabs_cached] at hrun
  exact ⟨_, hrun, rfl, hread⟩

theorem run_cachedWorld (base token : String) (tabs : List String) {client : Client}
    {authorization : List String}
    (hvalid : (Auth.localCredentials token).valid? ⟨0, 0⟩ = some true)
    (hclient : Client.ofBase base token .formatted = .ok client)
    (hsends : Sends client authorization)
    (hselected : (cachedOptions tabs).selected ["T"] = ["T"]) : ∃ w,
    Effect.run (exportSpreadsheet (cachedSettings base tabs)) (cachedWorld token) =
      (.ok (cachedReport ((cachedOptions tabs).missing ["T"])), w) ∧
    w.network.delivered = [namesRequest authorization, valuesRequest authorization] ∧
    w.files.read "out/T.csv" = .ok "x" := by
  have hcached : Effect.run (Provider.ofSettings (cachedSettings base tabs)).credentials
      (cachedWorld token).fresh = (.ok (Auth.localCredentials token), (cachedWorld token).fresh) :=
    run_credentials_cached rfl (loadFile_cachedWorld token) hvalid
  have hid : (cachedSettings "" []).effectiveId? = some "id" := by decide +kernel
  have hrun := run_exportSpreadsheet (s := cachedSettings base tabs) hid
    (ofSettings_cached base tabs) (cachedWorld token)
  have hclient' : Client.ofBase (cachedSettings base tabs).apiBaseUrl
      (Auth.localCredentials token).accessToken (cachedSettings base tabs).valueRender =
        .ok client := hclient
  have hstart : (cachedWorld token).fresh = cachedWorld token := rfl
  obtain ⟨s', htab, hsent, hread⟩ := run_cachedTab token hsends hselected
  rw [hcached] at hrun
  simp only [hclient', run_runClient] at hrun
  rw [hstart, htab] at hrun
  exact ⟨_, hrun, hsent, hread⟩

def cachedClient (user : List Char) (password : Option (List Char)) (token : String) : Client where
  base :=
    { scheme := "http".toList
      authority := some { user, password, host := .ipv6 [0, 0, 0, 0, 0, 0, 0, 1] }
      path := .segments ["v4".toList, []] }
  accessToken := token
  valueRender := .formatted

end Export

end SheetExport
