import SheetExport.Proofs.Auth.Provider

/-!
# Refreshes in a row

Credentials that can be refreshed stay so, however often they are refreshed: the
client and its endpoint never change, the refresh token and the scopes are the
last ones that a response carried, and every request presents the token that was
current when it was made. `Refreshed` says this of a sequence of calls;
`Refreshed.call` is one more call and `exists_refreshed` the whole sequence.
-/

namespace SheetExport.Auth

open Time (Instant)

variable {w w' v : World} {uri : String} {ps : Params}

/-! ## Exchanges with the endpoint -/

/-- A request and what its answer says. -/
structure Exchange where
  request : Http.Request
  status : Nat
  body : String
  response : TokenResponse

def Exchange.reply (x : Exchange) : Http.Reply := .answer x.status x.body

/-- Between two networks parameters were posted to an address and answered. -/
structure Exchange.Done (x : Exchange) (uri : String) (ps : Params) (n n' : Http.Network) :
    Prop where
  posts : Posts x.request uri ps
  answered : readAnswer x.status x.body = .ok x.response
  replies : n.replies = x.reply :: n'.replies
  delivered : n'.delivered = n.delivered ++ [x.request]

theorem exists_exchange {r : TokenResponse}
    (h : Effect.run (requestToken uri ps) w = (.ok r, w')) :
    ∃ x : Exchange, x.response = r ∧ x.Done uri ps w.network w'.network := by
  rcases hu : Url.parse uri with e | url
  · simp only [requestToken, hu] at h
    cases h
  · rw [run_requestToken hu] at h
    rcases hs : w.network.send (postOf url ps) with ⟨e | ⟨status, body⟩, n⟩
    · simp only [hs] at h
      cases h
    · simp only [hs] at h
      obtain ⟨hread, rfl⟩ := Prod.mk.inj h
      obtain ⟨hreplies, q, shown, secure, hq, hdelivered⟩ := send_eq_ok hs
      exact ⟨⟨q, status, body, r⟩, rfl, posts_of_request hu hq, Except.mapError_eq_ok.1 hread,
        hreplies, hdelivered⟩

/-! ## Credentials after responses -/

namespace Credentials

/-- What a client posts to trade a refresh token for a new access token. -/
def refreshParams (token id : String) (secret : Option String) : Params :=
  [("grant_type", "refresh_token"), ("refresh_token", token), ("client_id", id)] ++
    match secret with
    | some s => [("client_secret", s)]
    | none => []

theorem refreshRequest?_eq_some {c : Credentials} :
    c.refreshRequest? = some (uri, ps) ↔ ∃ token id, c.refreshToken = some token ∧
      c.clientId = some id ∧ c.tokenUri = some uri ∧
      ps = refreshParams token id c.clientSecret := by
  simp only [refreshRequest?, refreshParams, Option.bind_eq_bind, Option.bind_eq_some_iff,
    Option.pure_def, Option.some.injEq, Prod.mk.injEq]
  constructor
  · rintro ⟨token, ht, id, hi, _, hu, rfl, rfl⟩
    exact ⟨token, id, ht, hi, hu, rfl⟩
  · rintro ⟨token, id, ht, hi, hu, rfl⟩
    exact ⟨token, ht, id, hi, uri, hu, rfl, rfl⟩

/-- The refresh token after responses: the last one that they carried, or that
of the credentials. -/
def tokenAfter (c : Credentials) (rs : List TokenResponse) : Option String :=
  (rs.filterMap (·.refreshToken)).getLast? <|> c.refreshToken

/-- The scopes after responses: the last ones that they carried, or those of the
credentials. -/
def scopesAfter (c : Credentials) (rs : List TokenResponse) : List String :=
  match (rs.filterMap (·.scope)).getLast? with
  | some s => (Text.words s.toList).map String.ofList
  | none => c.scopes

variable {c k k' : Credentials} {r : TokenResponse} {rs : List TokenResponse}

theorem tokenAfter_concat (c : Credentials) (rs : List TokenResponse) (r : TokenResponse) :
    c.tokenAfter (rs ++ [r]) = (r.refreshToken <|> c.tokenAfter rs) := by
  unfold tokenAfter
  rw [List.filterMap_append]
  cases h : r.refreshToken with
  | none => simp [h]
  | some token => simp [h]

theorem scopesAfter_concat (c : Credentials) (rs : List TokenResponse) (r : TokenResponse) :
    c.scopesAfter (rs ++ [r]) = r.scopes (c.scopesAfter rs) := by
  unfold scopesAfter TokenResponse.scopes
  rw [List.filterMap_append]
  cases h : r.scope with
  | none => simp [h]
  | some scope => simp [h]

theorem tokenAfter_isSome (h : c.refreshToken.isSome = true) (rs : List TokenResponse) :
    (c.tokenAfter rs).isSome = true := by
  unfold tokenAfter
  cases (rs.filterMap (·.refreshToken)).getLast? with
  | none => exact h
  | some token => rfl

/-- Credentials of the same client, with the token and the scopes after
responses. -/
structure Successor (c k : Credentials) (rs : List TokenResponse) : Prop where
  clientId : k.clientId = c.clientId
  clientSecret : k.clientSecret = c.clientSecret
  tokenUri : k.tokenUri = c.tokenUri
  refreshToken : k.refreshToken = c.tokenAfter rs
  scopes : k.scopes = c.scopesAfter rs

theorem Successor.refl (c : Credentials) : Successor c c [] := ⟨rfl, rfl, rfl, rfl, rfl⟩

theorem Successor.credentials? (h : Successor c k rs) {now : Instant}
    (hr : r.credentials? k now = some k') : Successor c k' (rs ++ [r]) := by
  obtain ⟨-, rfl⟩ := TokenResponse.credentials?_eq_some.1 hr
  constructor
  · exact h.clientId
  · exact h.clientSecret
  · exact h.tokenUri
  · rw [tokenAfter_concat, ← h.refreshToken]
  · rw [scopesAfter_concat, ← h.scopes]

theorem Successor.canRefresh (h : Successor c k rs) (hc : c.canRefresh = true) :
    k.canRefresh = true := by
  simp only [Credentials.canRefresh, Bool.and_eq_true] at hc ⊢
  obtain ⟨⟨ht, hi⟩, hu⟩ := hc
  rw [h.clientId, h.tokenUri, h.refreshToken]
  exact ⟨⟨tokenAfter_isSome ht rs, hi⟩, hu⟩

end Credentials

namespace Provider

open Credentials (Successor refreshParams)

variable {p : Provider} {s : Store} {c k : Credentials} {xs : List Exchange} {t : Instant}

/-! ## Calls in a row -/

/-- A refresh that a call asks for is answered by a response that can be read,
with a lifetime that can be added. -/
def Answered (p : Provider) (w : World) : Prop :=
  ∀ k uri ps, p.Stale w (some k) → k.refreshRequest? = some (uri, ps) →
    ∃ r w', Effect.run (requestToken uri ps) w = (.ok r, w') ∧
      ∀ lifetime ∈ r.expiresIn, lifetime ≤ Credentials.longestLifetime

/-- The world after calls at times, whatever each of them comes to. -/
def worldAfter (p : Provider) (w : World) : List Instant → World
  | [] => w
  | t :: ts => p.worldAfter (Effect.run (p.credentialsAt t) w).2 ts

/-- Every refresh that calls at times ask for is answered. -/
def AllAnswered (p : Provider) (w : World) : List Instant → Prop
  | [] => True
  | t :: ts => p.Answered { w with clock := t } ∧
      p.AllAnswered (Effect.run (p.credentialsAt t) w).2 ts

/-- From one world to another credentials were refreshed in exchanges and nothing
else was sent. What is kept can be refreshed and is what the responses made of
the credentials; each request presented the token that was current. -/
structure Refreshed (s : Store) (c : Credentials) (w w' : World) (xs : List Exchange) : Prop where
  kept : ∃ k, s.kept w' = .ok (some k) ∧ k.canRefresh = true ∧
    Successor c k (xs.map (·.response))
  presents : ∀ before x after, xs = before ++ x :: after → ∃ token id uri,
    c.tokenAfter (before.map (·.response)) = some token ∧ c.clientId = some id ∧
    c.tokenUri = some uri ∧ Posts x.request uri (refreshParams token id c.clientSecret)
  answered : ∀ x ∈ xs, readAnswer x.status x.body = .ok x.response
  replies : w.network.replies = xs.map (·.reply) ++ w'.network.replies
  delivered : w'.network.delivered = w.network.delivered ++ xs.map (·.request)

theorem Refreshed.refl (hk : s.kept w = .ok (some c)) (hc : c.canRefresh = true) :
    Refreshed s c w w [] where
  kept := ⟨c, hk, hc, .refl c⟩
  presents := by simp
  answered := by simp
  replies := by simp
  delivered := by simp

theorem Refreshed.clock (h : Refreshed s c w v xs) (t : Instant) :
    Refreshed s c w { v with clock := t } xs :=
  { h with kept := by simpa only [kept_clock] using h.kept }

theorem Refreshed.concat (h : Refreshed s c w v xs) (hc : c.canRefresh = true)
    (hk : s.kept v = .ok (some k)) {x : Exchange} (hreq : k.refreshRequest? = some (uri, ps))
    (hx : x.Done uri ps v.network w'.network) {k' : Credentials}
    (hr : x.response.credentials? k v.clock = some k') (hk' : s.kept w' = .ok (some k')) :
    Refreshed s c w w' (xs ++ [x]) := by
  obtain ⟨k₀, hk₀, -, hsucc⟩ := h.kept
  obtain rfl : k₀ = k := by simpa using hk₀.symm.trans hk
  have hsucc' := hsucc.credentials? hr
  constructor
  · exact ⟨k', hk', by simpa using hsucc'.canRefresh hc, by simpa using hsucc'⟩
  · intro before y after hxs
    -- the exchange is the new one, or one of those before it
    rcases List.eq_nil_or_concat after with rfl | ⟨after', z, rfl⟩
    · obtain ⟨rfl, hy⟩ := List.append_inj' hxs rfl
      obtain rfl : x = y := by simpa using hy
      obtain ⟨token, id, ht, hi, hu, rfl⟩ := Credentials.refreshRequest?_eq_some.1 hreq
      rw [hsucc.refreshToken] at ht
      rw [hsucc.clientId] at hi
      rw [hsucc.tokenUri] at hu
      exact ⟨token, id, uri, ht, hi, hu, hsucc.clientSecret ▸ hx.posts⟩
    · rw [List.concat_eq_append, ← List.cons_append, ← List.append_assoc] at hxs
      exact h.presents before y after' (List.append_inj' hxs rfl).1
  · intro y hy
    obtain hy | rfl := by simpa using hy
    · exact h.answered y hy
    · exact hx.answered
  · rw [h.replies, hx.replies]
    simp
  · rw [hx.delivered, h.delivered]
    simp

theorem run_refresh_of_response {r : TokenResponse} (hreq : k.refreshRequest? = some (uri, ps))
    (hrun : Effect.run (requestToken uri ps) w = (.ok r, w'))
    (hl : ∀ lifetime ∈ r.expiresIn, lifetime ≤ Credentials.longestLifetime) :
    ∃ k', r.credentials? k w.clock = some k' ∧ Effect.run (refresh k) w = (.ok k', w') := by
  obtain ⟨k', hk'⟩ := TokenResponse.exists_credentials? hl k w.clock
  refine ⟨k', hk', ?_⟩
  have hclock := (run_requestToken_eq_ok hrun).1
  rw [refresh, hreq]
  simp only [run_grant, hrun, hclock, hk']

/-- A call with stale credentials whose refresh is answered keeps and gives what
the response makes of them. -/
theorem run_credentials_of_response {r : TokenResponse} {u : World} (hv : v.clock.Representable)
    (hstale : p.Stale v (some k)) (hreq : k.refreshRequest? = some (uri, ps))
    (hrun : Effect.run (requestToken uri ps) v = (.ok r, u))
    (hl : ∀ lifetime ∈ r.expiresIn, lifetime ≤ Credentials.longestLifetime) :
    ∃ k' w', r.credentials? k v.clock = some k' ∧ Effect.run p.credentials v = (.ok k', w') ∧
      p.store.kept w' = .ok (some k') ∧ w'.network = u.network := by
  obtain ⟨k', hr, hrefreshed⟩ := run_refresh_of_response hreq hrun hl
  -- asking has left the cache as it was, so others can be saved there
  have hasked := asks_requestToken uri ps v
  rw [hrun] at hasked
  obtain ⟨w', hsave⟩ := Store.exists_run_save ((kept_of_asked hasked).trans hstale.1) k'
  obtain ⟨hk', -, hnet⟩ :=
    Store.run_save_eq_ok (TokenResponse.credentials?_representable hv hr) hsave
  have hrefresh : k.canRefresh = true := by rw [← k.refreshRequest?_isSome, hreq, Option.isSome]
  refine ⟨k', w', hr, ?_, hk', hnet⟩
  rw [run_credentials_of_stale hstale, Effect.run_bind_eq_ok]
  refine ⟨k', u, ?_, run_keep_eq_ok.2 ⟨rfl, hsave⟩⟩
  simp only [supply, hrefresh, if_true]
  rw [Effect.run_bind, run_attempt_eq_ok.2 hrefreshed]
  rfl

theorem run_credentials_of_not_stale (hk : p.store.kept v = .ok (some k))
    (h : ¬ p.Stale v (some k)) : (Effect.run p.credentials v).2 = v := by
  have hvalid : k.valid? v.clock ≠ some false := fun hvalid => h ⟨hk, by simpa using hvalid⟩
  rw [run_credentials, hk]
  rcases hv : k.valid? v.clock with _ | _ | _
  · simp only [hv]
  · exact absurd hv hvalid
  · simp only [hv]

/-- One more call leaves everything as it is, or refreshes in one exchange. -/
theorem Refreshed.call (h : Refreshed p.store c w v xs) (hc : c.canRefresh = true)
    (hv : v.clock.Representable) (ha : p.Answered v) :
    ∃ ys, Refreshed p.store c w (Effect.run p.credentials v).2 (xs ++ ys) := by
  obtain ⟨k, hk, hrefresh, -⟩ := h.kept
  by_cases hstale : p.Stale v (some k)
  · obtain ⟨⟨uri, ps⟩, hreq⟩ := Option.isSome_iff_exists.1
      (k.refreshRequest?_isSome.trans hrefresh)
    obtain ⟨r, u, hrun, hl⟩ := ha k uri ps hstale hreq
    obtain ⟨k', w', hr, hcall, hk', hnet⟩ := run_credentials_of_response hv hstale hreq hrun hl
    obtain ⟨x, rfl, hx⟩ := exists_exchange hrun
    rw [hcall]
    exact ⟨[x], h.concat hc hk hreq (hnet ▸ hx) hr hk'⟩
  · rw [run_credentials_of_not_stale hk hstale]
    exact ⟨[], by simpa using h⟩

theorem Refreshed.calls (h : Refreshed p.store c w v xs) (hc : c.canRefresh = true)
    {ts : List Instant} (hts : ∀ t ∈ ts, t.Representable) (ha : p.AllAnswered v ts) :
    ∃ ys, Refreshed p.store c w (p.worldAfter v ts) (xs ++ ys) := by
  induction ts generalizing v xs with
  | nil => exact ⟨[], by simpa [worldAfter] using h⟩
  | cons t ts ih =>
    obtain ⟨ha, hrest⟩ := ha
    obtain ⟨ys, hys⟩ := (h.clock t).call hc (hts t List.mem_cons_self) ha
    rw [← run_credentialsAt] at hys
    obtain ⟨zs, hzs⟩ := ih hys (fun t' ht' => hts t' (List.mem_cons_of_mem _ ht')) hrest
    exact ⟨ys ++ zs, by rwa [List.append_assoc] at hzs⟩

/-- However often calls refresh credentials, they can be refreshed again, with
the token that was carried last and everything else of the client unchanged. -/
theorem exists_refreshed (hk : p.store.kept w = .ok (some c)) (hc : c.canRefresh = true)
    {ts : List Instant} (hts : ∀ t ∈ ts, t.Representable) (ha : p.AllAnswered w ts) :
    ∃ xs, Refreshed p.store c w (p.worldAfter w ts) xs :=
  (Refreshed.refl hk hc).calls hc hts ha

def rotatingAnswer : String :=
  (Json.object [("access_token", .string "t"), ("refresh_token", .string "other")]).text

/-- A world that keeps credentials without a token, where the endpoint answers with
another refresh token too. -/
def rotatingWorld : World where
  clock := ⟨0, 0⟩
  network := { replies := [.answer 200 rotatingAnswer] }
  memory := some (localCredentials "")

theorem readAnswer_rotatingAnswer :
    readAnswer 200 rotatingAnswer = .ok { accessToken := "t", refreshToken := some "other" } := by
  refine readAnswer_of_reads ?_
  refine Schema.Held.reads_record (r := ("t", none, some "other", none, ())) ?_ _ _
  refine .found (by decide) Schema.reads_string (.absent (by decide) rfl ?_)
  exact .found (by decide) (Schema.reads_some Schema.reads_string) (.absent (by decide) rfl .nil)

def rotatingProvider : Provider := ⟨.memory, localStrategy.acquire⟩

theorem stale_rotating : rotatingProvider.Stale rotatingWorld (some (localCredentials "")) :=
  ⟨rfl, by simp [Credentials.valid?, localCredentials]⟩

/-- A call refreshes, and keeps the other refresh token with an access token that is
valid later too. -/
theorem run_credentials_rotating : ∃ k w',
    Effect.run rotatingProvider.credentials rotatingWorld = (.ok k, w') ∧
    rotatingProvider.store.kept w' = .ok (some k) ∧ k.refreshToken = some "other" ∧
    k.valid? ⟨100, 0⟩ = some true := by
  obtain ⟨n, hn⟩ := run_requestToken_local (w := rotatingWorld) rfl readAnswer_rotatingAnswer _
  obtain ⟨k, w', hr, hcall, hk, -⟩ := run_credentials_of_response (by decide) stale_rotating rfl hn
    (by simp)
  cases hr
  exact ⟨_, w', hcall, hk, rfl, rfl⟩

theorem not_stale_rotated {w' : World} {k k' : Credentials}
    (hk : rotatingProvider.store.kept w' = .ok (some k)) (hv : k.valid? ⟨100, 0⟩ = some true) :
    ¬ rotatingProvider.Stale { w' with clock := ⟨100, 0⟩ } (some k') := by
  rintro ⟨hk', hstale⟩
  rw [kept_clock, hk] at hk'
  obtain rfl : k = k' := by simpa using hk'
  have hfalse : k.valid? ⟨100, 0⟩ = some false := hstale k rfl
  rw [hv] at hfalse
  cases hfalse

theorem allAnswered_rotating : rotatingProvider.AllAnswered rotatingWorld [⟨0, 0⟩, ⟨100, 0⟩] := by
  refine ⟨?_, ?_, trivial⟩
  · intro k uri ps hk hreq
    obtain rfl : localCredentials "" = k := by simpa using stale_rotating.1.symm.trans hk.1
    cases hreq
    obtain ⟨n, hn⟩ := run_requestToken_local (w := rotatingWorld) rfl readAnswer_rotatingAnswer _
    exact ⟨_, _, hn, by simp⟩
  · obtain ⟨k, w', hcall, hk, -, hv⟩ := run_credentials_rotating
    intro k' uri ps hstale
    rw [run_credentialsAt, show ({ rotatingWorld with clock := ⟨0, 0⟩ } : World) = rotatingWorld
      from rfl, hcall] at hstale
    exact absurd hstale (not_stale_rotated hk hv)

theorem kept_rotated : ∃ k, rotatingProvider.store.kept
    (rotatingProvider.worldAfter rotatingWorld [⟨0, 0⟩, ⟨100, 0⟩]) = .ok (some k) ∧
    k.refreshToken = some "other" := by
  obtain ⟨k, w', hcall, hk, htoken, hv⟩ := run_credentials_rotating
  have hk' : rotatingProvider.store.kept { w' with clock := ⟨100, 0⟩ } = .ok (some k) := by
    rw [kept_clock, hk]
  refine ⟨k, ?_, htoken⟩
  rw [worldAfter, worldAfter, worldAfter, run_credentialsAt, run_credentialsAt,
    show ({ rotatingWorld with clock := ⟨0, 0⟩ } : World) = rotatingWorld from rfl, hcall,
    run_credentials_of_not_stale hk' (not_stale_rotated hk hv)]
  exact hk'

/-- In two calls one refresh is sent, and the other refresh token is kept. -/
theorem exists_refreshed_rotating :
    (∀ t ∈ [(⟨0, 0⟩ : Instant), ⟨100, 0⟩], t.Representable) ∧
      rotatingProvider.store.kept rotatingWorld = .ok (some (localCredentials "")) ∧
      (localCredentials "").canRefresh = true ∧
      rotatingProvider.AllAnswered rotatingWorld [⟨0, 0⟩, ⟨100, 0⟩] ∧
      (∃ x, Refreshed rotatingProvider.store (localCredentials "") rotatingWorld
        (rotatingProvider.worldAfter rotatingWorld [⟨0, 0⟩, ⟨100, 0⟩]) [x]) ∧
      ∃ k, rotatingProvider.store.kept
          (rotatingProvider.worldAfter rotatingWorld [⟨0, 0⟩, ⟨100, 0⟩]) = .ok (some k) ∧
        k.refreshToken = some "other" := by
  have hts : ∀ t ∈ [(⟨0, 0⟩ : Instant), ⟨100, 0⟩], t.Representable := by decide
  obtain ⟨xs, h⟩ := exists_refreshed (p := rotatingProvider) stale_rotating.1 rfl hts
    allAnswered_rotating
  refine ⟨hts, stale_rotating.1, rfl, allAnswered_rotating, ?_, kept_rotated⟩
  -- without a refresh the token would be the old one, and there is but one reply
  match xs, h with
  | [], h =>
    obtain ⟨k, hk, htoken⟩ := kept_rotated
    obtain ⟨k', hk', -, hsucc⟩ := h.kept
    obtain rfl : k = k' := by simpa using hk.symm.trans hk'
    have hold : k.refreshToken = some "refresh" := hsucc.refreshToken
    rw [htoken] at hold
    exact absurd hold (by decide)
  | [x], h => exact ⟨x, h⟩
  | x :: y :: zs, h =>
    have hlength := congrArg List.length h.replies
    simp [rotatingWorld] at hlength

end Provider

end SheetExport.Auth
