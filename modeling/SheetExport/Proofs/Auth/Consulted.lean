import SheetExport.Proofs.Auth.Overflow
import SheetExport.Proofs.Auth.Refresh

/-!
# When the strategy is consulted

A call consults the strategy only if nothing is kept, or what is kept is neither
valid nor refreshed. Else it makes no difference which strategy the settings
name, or what is in the files that it names: `consulted_if_needed`.
-/

namespace SheetExport.Auth

variable {α β : Type} {w w' v : World} {uri : String} {ps : Params}

/-! ## Requests that are sent -/

/-- An action that leaves the network alone, however it ends. -/
def Silent (x : Action α) : Prop := ∀ w, (Effect.run x w).2.network = w.network

/-- An action that sends one request at most, however it ends. -/
def SendsOnce (x : Action α) : Prop := ∀ w, ∃ qs : List Http.Request, qs.length ≤ 1 ∧
  (Effect.run x w).2.network.delivered = w.network.delivered ++ qs

theorem Quiet.silent {x : Action α} (h : Quiet x) : Silent x := fun w => (h w).2

theorem silent_get : Silent (get : Action World) := fun _ => rfl

theorem silent_ofOutcome (r : Except Stop α) : Silent (Action.ofOutcome r) := by
  cases r <;> exact fun _ => rfl

theorem Silent.sendsOnce {x : Action α} (h : Silent x) : SendsOnce x :=
  fun w => ⟨[], Nat.zero_le 1, by rw [h w, List.append_nil]⟩

theorem Silent.bind {x : Action α} {f : α → Action β} (hx : Silent x)
    (hf : ∀ a, SendsOnce (f a)) : SendsOnce (x >>= f) := by
  intro w
  have h := hx w
  rw [Effect.run_bind]
  generalize Effect.run x w = y at h ⊢
  obtain ⟨e | a, t⟩ := y
  · exact ⟨[], Nat.zero_le 1, by rw [h, List.append_nil]⟩
  · obtain ⟨qs, hlength, hqs⟩ := hf a t
    exact ⟨qs, hlength, by rw [hqs, h]⟩

theorem sendsOnce_grant (uri : String) (ps : Params) (known : Credentials) :
    SendsOnce (grant uri ps known) := by
  intro w
  obtain ⟨n, hw, ⟨f, -, rfl, -⟩ | ⟨q, -, hq⟩⟩ := grant_posts uri ps known w
  · exact ⟨[], Nat.zero_le 1, by rw [hw, List.append_nil]⟩
  · exact ⟨[q], Nat.le_refl 1, by rw [hw, hq]⟩

theorem refresh_posts {c : Credentials} (h : c.refreshRequest? = some (uri, ps)) (w : World) :
    PostsOnce (refresh c) uri ps w := by
  rw [refresh, h]
  exact grant_posts uri ps c w

theorem sendsOnce_refresh (c : Credentials) : SendsOnce (refresh c) := by
  unfold refresh
  split
  · exact sendsOnce_grant _ _ _
  · exact (quiet_fail _).silent.sendsOnce

theorem sendsOnce_askUser (secrets : ClientSecrets) : SendsOnce (askUser secrets) := by
  have hdraw : Silent (drawConsent secrets) := fun _ => rfl
  have hprint : ∀ line, Silent (Action.print line) := fun _ _ => rfl
  have hbrowse : ∀ url state, Silent (Action.browse url (respond state)) := fun _ _ _ => rfl
  unfold askUser
  refine hdraw.bind fun consent => (quiet_ofResult consent.url).silent.bind fun url => ?_
  refine (hprint _).bind fun _ => (hbrowse _ _).bind fun answer => ?_
  exact (quiet_ofResult answer).silent.bind fun code => sendsOnce_grant _ _ _

theorem sendsOnce_signIn (k : ServiceAccountKey) : SendsOnce (AuthStrategy.signIn k) := by
  unfold AuthStrategy.signIn
  refine silent_get.bind fun w => ?_
  exact (silent_ofOutcome _).bind fun assertion => sendsOnce_grant _ _ _

theorem sendsOnce_acquire (a : AuthStrategy) : SendsOnce a.acquire := by
  unfold AuthStrategy.acquire
  cases a with
  | interactive path =>
    exact silent_get.bind fun w => (quiet_ofResult _).silent.bind sendsOnce_askUser
  | refreshToken clientId clientSecret token tokenUri => exact sendsOnce_refresh _
  | serviceAccount path =>
    exact silent_get.bind fun w => (quiet_ofResult _).silent.bind sendsOnce_signIn

/-! ## Requests of a call -/

namespace Provider

variable {p : Provider} {o : Option Credentials} {c : Credentials}

/-- The strategy must be consulted: nothing is kept, or what is kept is not valid
and cannot be refreshed, or was not when that was tried. -/
inductive Needed (s : Store) (w : World) : Option Credentials → Prop where
  | absent : s.kept w = .ok none → Needed s w none
  | refreshless {c : Credentials} : s.kept w = .ok (some c) → c.valid? w.clock = some false →
      c.canRefresh = false → Needed s w (some c)
  | failed {c : Credentials} {f : Failure} : s.kept w = .ok (some c) →
      c.valid? w.clock = some false → c.canRefresh = true →
      (Effect.run (refresh c) w).1 = .error (.failure f) → Needed s w (some c)

/-- The strategy, if it must be, is consulted after a refresh was tried. -/
theorem run_supply_of_needed (h : Needed p.store w o) :
    Effect.run (p.supply o) w = Effect.run p.acquire (afterRefresh o w) := by
  cases h with
  | absent => rfl
  | refreshless _ _ hrefresh => simp [supply, afterRefresh, hrefresh]
  | failed _ _ hrefresh hfailed =>
    simp only [supply, afterRefresh, hrefresh, if_true, Effect.run_bind, run_attempt]
    generalize Effect.run (refresh _) w = y at hfailed ⊢
    obtain ⟨r, v⟩ := y
    cases hfailed
    rfl

theorem run_supply_of_refreshed (hrefresh : c.canRefresh = true)
    (h : ∀ f, (Effect.run (refresh c) w).1 ≠ .error (.failure f)) :
    Effect.run (p.supply (some c)) w = Effect.run (refresh c) w := by
  simp only [supply, hrefresh, if_true, Effect.run_bind, run_attempt]
  generalize Effect.run (refresh c) w = y at h ⊢
  obtain ⟨(f | _) | k, v⟩ := y
  · exact absurd rfl (h f)
  · rfl
  · rfl

theorem needed_or_refreshed (h : p.Stale w o) :
    Needed p.store w o ∨ ∃ c, o = some c ∧ c.canRefresh = true ∧
      Effect.run (p.supply o) w = Effect.run (refresh c) w := by
  obtain ⟨hkept, hstale⟩ := h
  cases o with
  | none => exact .inl (.absent hkept)
  | some c =>
    by_cases hrefresh : c.canRefresh = true
    · by_cases hfailed : ∃ f, (Effect.run (refresh c) w).1 = .error (.failure f)
      · obtain ⟨f, hf⟩ := hfailed
        exact .inl (.failed hkept (hstale c rfl) hrefresh hf)
      · exact .inr ⟨c, rfl, hrefresh, run_supply_of_refreshed hrefresh (not_exists.1 hfailed)⟩
    · exact .inl (.refreshless hkept (hstale c rfl) (by simpa using hrefresh))

/-- A request is one to refresh what is kept. -/
def Refreshes (p : Provider) (w : World) (q : Http.Request) : Prop :=
  ∃ c uri ps, p.Stale w (some c) ∧ c.refreshRequest? = some (uri, ps) ∧ Posts q uri ps

/-- The requests of a call are one at most to refresh what is kept, and after it one
at most of the strategy, which is consulted because it must be. -/
structure Accounts (p : Provider) (w w' : World) (rs qs : List Http.Request) : Prop where
  delivered : w'.network.delivered = w.network.delivered ++ rs ++ qs
  refreshes : rs.length ≤ 1 ∧ ∀ q ∈ rs, p.Refreshes w q
  acquires : qs.length ≤ 1 ∧ (qs ≠ [] → ∃ o, Needed p.store w o ∧
    (afterRefresh o w).network.delivered = w.network.delivered ++ rs ∧
    (Effect.run p.acquire (afterRefresh o w)).2.network.delivered =
      (afterRefresh o w).network.delivered ++ qs)

theorem exists_refreshes (h : p.Stale w o) : ∃ rs : List Http.Request,
    (afterRefresh o w).network.delivered = w.network.delivered ++ rs ∧
    rs.length ≤ 1 ∧ ∀ q ∈ rs, p.Refreshes w q := by
  cases o with
  | none => simp [afterRefresh]
  | some c =>
    by_cases hrefresh : c.canRefresh = true
    · obtain ⟨⟨uri, ps⟩, hreq⟩ := Option.isSome_iff_exists.1
        (c.refreshRequest?_isSome.trans hrefresh)
      simp only [afterRefresh, hrefresh, if_true]
      obtain ⟨n, hn, ⟨-, -, rfl, -⟩ | ⟨q, hq, hdelivered⟩⟩ := refresh_posts hreq w
      · exact ⟨[], by rw [hn, List.append_nil], Nat.zero_le 1, by simp⟩
      · refine ⟨[q], by rw [hn, hdelivered], Nat.le_refl 1, fun q' hq' => ?_⟩
        obtain rfl := List.mem_singleton.1 hq'
        exact ⟨c, uri, ps, h, hreq, hq⟩
    · simp [afterRefresh, hrefresh]

theorem network_supply_keep (p : Provider) (o : Option Credentials) (w : World) :
    (Effect.run (p.supply o >>= p.keep) w).2.network = (Effect.run (p.supply o) w).2.network := by
  rw [Effect.run_bind]
  generalize Effect.run (p.supply o) w = y
  obtain ⟨e | c, t⟩ := y
  · rfl
  · exact (quiet_keep p c).silent t

/-- Every request of a call is accounted for, however it ends. -/
theorem exists_accounts (ha : SendsOnce p.acquire) (w : World) :
    ∃ rs qs, Accounts p w (Effect.run p.credentials w).2 rs qs := by
  have hnone : Accounts p w w [] [] := ⟨by simp, by simp, by simp⟩
  rcases kept_cases p w with ⟨f, hk⟩ | ⟨c, hk, hv⟩ | ⟨o, ho⟩
  · rw [run_credentials, hk]
    exact ⟨[], [], hnone⟩
  · rw [run_credentials_of_not_stale hk fun hstale => hv (hstale.2 c rfl)]
    exact ⟨[], [], hnone⟩
  · obtain ⟨rs, hrs, hrefreshes⟩ := exists_refreshes ho
    rw [run_credentials_of_stale ho]
    have hnet := network_supply_keep p o w
    obtain hn | ⟨c, rfl, hrefresh, hsupply⟩ := needed_or_refreshed ho
    · obtain ⟨qs, hqs, hacquired⟩ := ha (afterRefresh o w)
      refine ⟨rs, qs, ?_, hrefreshes, hqs, fun _ => ⟨o, hn, hrs, hacquired⟩⟩
      rw [hnet, run_supply_of_needed hn, hacquired, hrs]
    · refine ⟨rs, [], ?_, hrefreshes, Nat.zero_le 1, fun h => absurd rfl h⟩
      rw [hnet, hsupply, List.append_nil, ← hrs]
      simp only [afterRefresh, hrefresh, if_true]

end Provider

/-! ## Two runs -/

/-- An action sees nothing of a world but the clock and the network, and changes
nothing but the network. -/
def SeesNetwork (x : Action α) : Prop := ∀ t n, ∃ r n', ∀ w : World, w.clock = t →
  w.network = n → Effect.run x w = (r, { w with network := n' })

theorem seesNetwork_pure (a : α) : SeesNetwork (pure a : Action α) :=
  fun _ n => ⟨.ok a, n, fun w _ hn => by rw [Effect.run_pure, ← hn]⟩

theorem seesNetwork_throw (e : Stop) : SeesNetwork (throw e : Action α) :=
  fun _ n => ⟨.error e, n, fun w _ hn => by rw [Effect.run_throw, ← hn]⟩

theorem seesNetwork_ofResult (r : Except Failure α) : SeesNetwork (Action.ofResult r) := by
  cases r with
  | error f => exact seesNetwork_throw _
  | ok a => exact seesNetwork_pure a

theorem seesNetwork_send (d : Http.Draft) : SeesNetwork (Action.send d) :=
  fun _ n => ⟨_, (n.send d).2, fun w _ hn => by rw [run_send, hn]⟩

theorem SeesNetwork.bind {x : Action α} {f : α → Action β} (hx : SeesNetwork x)
    (hf : ∀ a, SeesNetwork (f a)) : SeesNetwork (x >>= f) := by
  intro t n
  obtain ⟨r, n', hx⟩ := hx t n
  cases r with
  | error e => exact ⟨.error e, n', fun w ht hn => by rw [Effect.run_bind, hx w ht hn]⟩
  | ok a =>
    obtain ⟨r, n'', hf⟩ := hf a t n'
    refine ⟨r, n'', fun w ht hn => ?_⟩
    rw [Effect.run_bind, hx w ht hn]
    exact hf { w with network := n' } ht rfl

theorem seesNetwork_requestToken (uri : String) (ps : Params) :
    SeesNetwork (requestToken uri ps) := by
  unfold requestToken
  split
  · exact seesNetwork_throw _
  · exact (seesNetwork_send _).bind fun _ => seesNetwork_ofResult _

theorem seesNetwork_grant (uri : String) (ps : Params) (known : Credentials) :
    SeesNetwork (grant uri ps known) := by
  refine (seesNetwork_requestToken uri ps).bind fun r t n => ?_
  cases hc : r.credentials? known t with
  | none =>
    refine ⟨.error .overflow, n, ?_⟩
    rintro w rfl rfl
    simp only [Effect.run_bind, Effect.run_get, hc, Effect.run_throw]
  | some c =>
    refine ⟨.ok c, n, ?_⟩
    rintro w rfl rfl
    simp only [Effect.run_bind, Effect.run_get, hc, Effect.run_pure]

theorem seesNetwork_refresh (c : Credentials) : SeesNetwork (refresh c) := by
  unfold refresh
  split
  · exact seesNetwork_grant _ _ _
  · exact seesNetwork_throw _

/-- The same is done to two file trees: nothing, or one entry is put at the same
place. -/
inductive SameChange (t u : FileTree) : FileTree → FileTree → Prop where
  | unchanged : SameChange t u t u
  | put (p : Place) (e : Entry) : SameChange t u (t.put p e) (u.put p e)

/-- Worlds that hold the same but for the browser, what was printed and the files:
of these they share the directory where relative paths begin and the cache. -/
structure AlikeCached (s : Store) (w v : World) : Prop where
  clock : v.clock = w.clock
  network : v.network = w.network
  memory : v.memory = w.memory
  home : v.files.home = w.files.home
  cache : s.SameCache w v

/-- Two runs come to the same result, requests and cache, and do the same to the
files with which they began. -/
structure EndsAlike (t u : FileTree) (x y : Except Stop Credentials × World) : Prop where
  result : y.1 = x.1
  network : y.2.network = x.2.network
  memory : y.2.memory = x.2.memory
  files : SameChange t u x.2.files y.2.files

namespace Provider

variable {p q : Provider} {c k : Credentials} {s : Store}

/-- Where credentials are kept, others are kept in the same way in both worlds. -/
theorem keep_alike (hp : p.store = s) (hq : q.store = s) (h : AlikeCached s w v)
    (hk : s.kept w = .ok (some k)) (c : Credentials) :
    EndsAlike w.files v.files (Effect.run (p.keep c) w) (Effect.run (q.keep c) v) := by
  have hk' : s.kept v = .ok (some k) := (Store.kept_eq h.cache).trans hk
  cases s with
  | memory =>
    have hw : Effect.run (p.keep c) w = (.ok c, { w with memory := some c }) :=
      run_keep_eq_ok.2 ⟨rfl, by rw [hp]; rfl⟩
    have hv : Effect.run (q.keep c) v = (.ok c, { v with memory := some c }) :=
      run_keep_eq_ok.2 ⟨rfl, by rw [hq]; rfl⟩
    rw [hw, hv]
    exact ⟨rfl, h.network, rfl, .unchanged⟩
  | file path =>
    obtain ⟨place, hleads, hsave⟩ := Store.run_save_of_loadFile hk c
    obtain ⟨place', hleads', hsave'⟩ := Store.run_save_of_loadFile hk' c
    obtain rfl := hleads.unique h.home hleads'
    rw [run_keep_eq_ok.2 ⟨rfl, hp ▸ hsave⟩, run_keep_eq_ok.2 ⟨rfl, hq ▸ hsave'⟩]
    exact ⟨rfl, h.network, h.memory, .put _ _⟩

theorem Stale.of_alike (hp : p.store = s) (hq : q.store = s) (h : AlikeCached s w v)
    {o : Option Credentials} (hstale : p.Stale w o) : q.Stale v o := by
  obtain ⟨hk, hvalid⟩ := hstale
  rw [hp] at hk
  refine ⟨?_, fun c hc => h.clock ▸ hvalid c hc⟩
  rw [hq]
  exact (Store.kept_eq h.cache).trans hk

/-- A call with stale credentials whose refresh does not fail keeps what it gets in
the same way in both worlds. -/
theorem credentials_alike (hp : p.store = s) (hq : q.store = s) (h : AlikeCached s w v)
    (hstale : p.Stale w (some c)) (hrefresh : c.canRefresh = true)
    (hf : ∀ f, (Effect.run (refresh c) w).1 ≠ .error (.failure f)) :
    EndsAlike w.files v.files (Effect.run p.credentials w) (Effect.run q.credentials v) := by
  obtain ⟨r, n, hrun⟩ := seesNetwork_refresh c w.clock w.network
  have hw := hrun w rfl rfl
  have hv := hrun v h.clock h.network
  rw [hw] at hf
  rw [run_credentials_of_stale hstale, run_credentials_of_stale (hstale.of_alike hp hq h),
    Effect.run_bind, Effect.run_bind, run_supply_of_refreshed hrefresh (by rwa [hw]),
    run_supply_of_refreshed hrefresh (by rwa [hv]), hw, hv]
  cases r with
  | error e => exact ⟨rfl, rfl, h.memory, .unchanged⟩
  | ok k =>
    have hn : AlikeCached s { w with network := n } { v with network := n } := by
      refine ⟨h.clock, rfl, h.memory, h.home, ?_⟩
      cases s <;> exact h.cache
    have hsame : s.SameCache w { w with network := n } := by cases s <;> rfl
    have hk := (Store.kept_eq hsame).trans (hp ▸ hstale.1)
    exact keep_alike hp hq hn hk k

theorem not_failed_of_response {r : TokenResponse} (hreq : c.refreshRequest? = some (uri, ps))
    (hr : (Effect.run (requestToken uri ps) w).1 = .ok r) (f : Failure) :
    (Effect.run (refresh c) w).1 ≠ .error (.failure f) := by
  rw [refresh, hreq]
  simp only [run_grant]
  generalize Effect.run (requestToken uri ps) w = y at hr
  obtain ⟨_, v⟩ := y
  cases hr
  simp only
  split <;> simp

theorem exists_request_of_response {r : TokenResponse} (hstale : p.Stale w (some c))
    (hreq : c.refreshRequest? = some (uri, ps))
    (hr : (Effect.run (requestToken uri ps) w).1 = .ok r) : ∃ x, Posts x uri ps ∧
      (Effect.run p.credentials w).2.network.delivered = w.network.delivered ++ [x] := by
  have hrefresh : c.canRefresh = true := by rw [← c.refreshRequest?_isSome, hreq, Option.isSome]
  rw [run_credentials_of_stale hstale, network_supply_keep,
    run_supply_of_refreshed hrefresh (not_failed_of_response hreq hr)]
  obtain ⟨n, hw, ⟨f, hf, -⟩ | ⟨x, hx, hdelivered⟩⟩ := refresh_posts hreq w
  · exact absurd hf (not_failed_of_response hreq hr f)
  · exact ⟨x, hx, by rw [hw, hdelivered]⟩

theorem store_ofSettings {s s' : Settings} (h : s'.tokenCache = s.tokenCache) :
    (ofSettings s').store = (ofSettings s).store := by
  simp only [ofSettings, h]

/-- The strategy is consulted only if it must be. While what is kept is valid it is
given and nothing else happens. If it is not valid, and the request to refresh it
succeeds, that is the only request. In both cases the result, the requests and
what becomes of the cache and the files are the same for all settings with that
cache, whatever their strategy and the files that it names. A call never sends
more than one request for a refresh and then one of the strategy, which was needed. -/
theorem consulted_if_needed {s s' : Settings} (hs : s'.tokenCache = s.tokenCache)
    (h : AlikeCached (ofSettings s).store w v) :
    (∀ c, (ofSettings s).store.kept w = .ok (some c) → c.valid? w.clock = some true →
      Effect.run (ofSettings s).credentials w = (.ok c, w) ∧
      Effect.run (ofSettings s').credentials v = (.ok c, v)) ∧
    (∀ c uri ps r, (ofSettings s).Stale w (some c) → c.refreshRequest? = some (uri, ps) →
      (Effect.run (requestToken uri ps) w).1 = .ok r →
      (∃ q, Posts q uri ps ∧ (Effect.run (ofSettings s).credentials w).2.network.delivered =
        w.network.delivered ++ [q]) ∧
      EndsAlike w.files v.files (Effect.run (ofSettings s).credentials w)
        (Effect.run (ofSettings s').credentials v)) ∧
    ∃ rs qs, Accounts (ofSettings s) w (Effect.run (ofSettings s).credentials w).2 rs qs := by
  have hstore := store_ofSettings hs
  refine ⟨fun c hk hvalid => ?_, fun c uri ps r hstale hreq hr => ?_,
    exists_accounts (sendsOnce_acquire s.auth) w⟩
  · have hk' : (ofSettings s').store.kept v = .ok (some c) := by
      rw [hstore, Store.kept_eq h.cache, hk]
    rw [run_credentials, run_credentials, hk, hk']
    simp only [h.clock, hvalid, and_self]
  · have hrefresh : c.canRefresh = true := by rw [← c.refreshRequest?_isSome, hreq, Option.isSome]
    exact ⟨exists_request_of_response hstale hreq hr,
      credentials_alike rfl hstore h hstale hrefresh (not_failed_of_response hreq hr)⟩

/-- A world whose cache holds credentials, with other files and an endpoint that
gives a token. -/
def keptWorld (token : String) (others : List (Place × Entry)) : World where
  clock := ⟨0, 0⟩
  files := cachedTree (localCredentials token) others
  network := { replies := [.answer 200 (tokenAnswer "t")] }

theorem kept_keptWorld (token : String) (others : List (Place × Entry)) :
    (Store.file "token.json").kept (keptWorld token others) =
      .ok (some (localCredentials token)) :=
  loadFile_cachedTree (representable_localCredentials token) others

theorem alikeCached_keptWorld (token : String) (xs ys : List (Place × Entry)) :
    AlikeCached (.file "token.json") (keptWorld token xs) (keptWorld token ys) :=
  ⟨rfl, rfl, rfl, rfl, rfl⟩

/-- Settings of a user that would be asked. -/
def consentSettings : Settings :=
  { Settings.standard with auth := .interactive "credentials.json" }

def accountSettings : Settings := { Settings.standard with auth := .serviceAccount "key.json" }

/-- A token that is valid, and none that is refreshed, while the key of the service
account is broken. -/
theorem consulted_if_needed_keptWorld :
    let others := [(["key.json"], Entry.file "broken" FileTree.defaultMode)]
    Effect.run (ofSettings accountSettings).credentials (keptWorld "t" others) =
        (.ok (localCredentials "t"), keptWorld "t" others) ∧
      (∃ q, (Effect.run (ofSettings consentSettings).credentials
        (keptWorld "" [])).2.network.delivered = [q]) ∧
      EndsAlike (keptWorld "" []).files (keptWorld "" others).files
        (Effect.run (ofSettings consentSettings).credentials (keptWorld "" []))
        (Effect.run (ofSettings accountSettings).credentials (keptWorld "" others)) := by
  intro others
  have hs : accountSettings.tokenCache = consentSettings.tokenCache := rfl
  obtain ⟨hvalid, -⟩ := consulted_if_needed hs (alikeCached_keptWorld "t" [] others)
  obtain ⟨-, hstale, -⟩ := consulted_if_needed hs (alikeCached_keptWorld "" [] others)
  have hnothing : (ofSettings consentSettings).Stale (keptWorld "" [])
      (some (localCredentials "")) := ⟨kept_keptWorld "" [], fun _ h => by cases h; rfl⟩
  obtain ⟨n, hn⟩ := run_requestToken_local (w := keptWorld "" []) rfl
    (readAnswer_tokenAnswer "t") (Credentials.refreshParams "refresh" "id" (some "secret"))
  obtain ⟨⟨q, -, hq⟩, halike⟩ := hstale (localCredentials "") localEndpoint _ _ hnothing rfl
    (congrArg Prod.fst hn)
  exact ⟨(hvalid _ (kept_keptWorld "t" []) rfl).2, ⟨q, hq⟩, halike⟩

end Provider

end SheetExport.Auth
