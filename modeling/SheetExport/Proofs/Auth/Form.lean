import SheetExport.Proofs.Auth.Consent
import SheetExport.Proofs.Auth.Refresh

/-!
# What token requests carry

Whatever the texts are that a token is asked for with, the form that is posted is
read as exactly the intended pairs in their order, and whether it is posted depends
on the endpoint alone: `posts_intended`. Credentials that lack what a refresh needs
are refused before anything is sent.
-/

namespace SheetExport.Auth

open Http.Draft (isReachable takeUser target)

variable {n : Http.Network} {url : Url} {uri : String} {w : World}

/-! ## Posts that are delivered -/

/-- What a network needs to deliver a post to an address. -/
structure Delivers (n : Http.Network) (url : Url) : Prop where
  host : url.host?.isNone = false
  reachable : isReachable (takeUser url).2 = true
  secure : (takeUser url).2.scheme = "https".toList → n.secure = true
  replies : n.replies ≠ []

theorem request_postOf (url : Url) (ps : Params) : (postOf url ps).request =
    if url.host?.isNone then .error (.refused url.text)
    else if !isReachable (takeUser url).2 then .error (.refused (takeUser url).2.text)
    else .ok (⟨"POST", target (takeUser url).2, (takeUser url).1, some formType,
      String.ofList (Url.Form.encode ps)⟩, (takeUser url).2.text,
      (takeUser url).2.scheme = "https".toList) := by
  have hsent : (postOf url ps).sent = (takeUser url).2 := rfl
  rw [Http.Draft.request_eq, hsent]
  simp only [postOf, List.all_nil, Bool.not_true, Bool.false_eq_true, if_false, List.append_nil]

theorem send_of_delivers (h : Delivers n url) (ps : Params) : ∃ q shown secure y rest,
    (postOf url ps).request = .ok (q, shown, secure) ∧ n.send (postOf url ps) =
      (outcome shown y, { n with replies := rest, delivered := n.delivered ++ [q] }) := by
  have hrequest := request_postOf url ps
  simp only [h.host, h.reachable, Bool.not_true, Bool.false_eq_true, if_false] at hrequest
  have hsecure : ¬ (decide ((takeUser url).2.scheme = "https".toList) && !n.secure) = true := by
    rw [Bool.and_eq_true, decide_eq_true_eq, Bool.not_eq_true']
    exact fun hs => Bool.noConfusion (hs.2.symm.trans (h.secure hs.1))
  obtain ⟨y, rest, hy⟩ := List.exists_cons_of_ne_nil h.replies
  refine ⟨_, _, _, y, rest, hrequest, ?_⟩
  simp only [Http.Network.send, hrequest, if_neg hsecure, hy]
  cases y <;> rfl

theorem send_of_not_delivers (h : ¬ Delivers n url) (ps : Params) :
    ∃ e, n.send (postOf url ps) = (.error e, n) := by
  rw [Http.Network.send, request_postOf]
  by_cases hhost : url.host?.isNone = true
  · rw [if_pos hhost]
    exact ⟨_, rfl⟩
  by_cases hreachable : isReachable (takeUser url).2 = true
  · simp only [if_neg hhost, hreachable, Bool.not_true, Bool.false_eq_true, if_false]
    by_cases hsecure : (decide ((takeUser url).2.scheme = "https".toList) && !n.secure) = true
    · exact ⟨_, if_pos hsecure⟩
    · rw [if_neg hsecure]
      rw [Bool.and_eq_true, decide_eq_true_eq, Bool.not_eq_true'] at hsecure
      cases hreplies : n.replies with
      | nil => exact ⟨_, rfl⟩
      | cons y rest =>
        refine absurd ⟨Bool.not_eq_true _ ▸ hhost, hreachable, fun hs => ?_, ?_⟩ h
        · exact Bool.of_not_eq_false fun hn => hsecure ⟨hs, hn⟩
        · exact hreplies ▸ List.cons_ne_nil y rest
  · rw [if_neg hhost, if_pos (by simpa using hreachable)]
    exact ⟨_, rfl⟩

/-! ## Forms -/

/-- An action sends a form of pairs to an endpoint if that can be reached, and else
nothing: it depends on the endpoint alone, and the pairs are read back from what is
sent. -/
structure SendsForm (x : Action α) (uri : String) (ps : Params) (w : World) : Prop where
  sent : ∀ url, Url.parse uri = .ok url → Delivers w.network url → ∃ q n,
    (Effect.run x w).2 = { w with network := n } ∧ n.delivered = w.network.delivered ++ [q] ∧
      Posts q uri ps ∧ Url.Form.decode q.body.toList = ps
  unsent : (∀ url, Url.parse uri = .ok url → ¬ Delivers w.network url) →
    ∃ words, Effect.run x w = (.error (.failure (.http words)), w)

theorem sendsForm_requestToken (uri : String) (ps : Params) (w : World) :
    SendsForm (requestToken uri ps) uri ps w := by
  constructor
  · intro url hurl h
    obtain ⟨q, shown, secure, y, rest, hq, hsend⟩ := send_of_delivers h ps
    have hposts := posts_of_request hurl hq
    have hrun : (Effect.run (requestToken uri ps) w).2 = { w with network :=
        { w.network with replies := rest, delivered := w.network.delivered ++ [q] } } := by
      rw [run_requestToken hurl, hsend]
      cases y <;> rfl
    exact ⟨q, _, hrun, rfl, hposts, hposts.pairs⟩
  · intro h
    rcases hurl : Url.parse uri with e | url
    · exact ⟨_, by rw [requestToken, hurl]; rfl⟩
    · obtain ⟨e, hsend⟩ := send_of_not_delivers (h url hurl) ps
      exact ⟨e.message, by rw [run_requestToken hurl, hsend]⟩

theorem sendsForm_grant (uri : String) (ps : Params) (known : Credentials) (w : World) :
    SendsForm (grant uri ps known) uri ps w := by
  have h := sendsForm_requestToken uri ps w
  have hworld : (Effect.run (grant uri ps known) w).2 = (Effect.run (requestToken uri ps) w).2 := by
    rw [run_grant]
    rcases Effect.run (requestToken uri ps) w with ⟨e | r, v⟩
    · rfl
    · dsimp only
      cases r.credentials? known v.clock <;> rfl
  refine ⟨fun url hurl hdelivers => hworld ▸ h.sent url hurl hdelivers, fun hunsent => ?_⟩
  obtain ⟨words, hrun⟩ := h.unsent hunsent
  exact ⟨words, by rw [run_grant, hrun]⟩

/-! ## Refreshes -/

/-- The pairs of a refresh: those that every refresh has, and at the end the secret of
the client if it has one. -/
def refreshPairs (token id : String) (secret : Option String) : Params :=
  [("grant_type", "refresh_token"), ("refresh_token", token), ("client_id", id)] ++
    (secret.map fun s => ("client_secret", s)).toList

theorem refreshParams_eq (token id : String) (secret : Option String) :
    Credentials.refreshParams token id secret = refreshPairs token id secret := by
  cases secret <;> rfl

theorem getLast?_refreshPairs (token id s : String) (secret : Option String) :
    (refreshPairs token id secret).getLast? = some ("client_secret", s) ↔ secret = some s := by
  cases secret <;> simp [refreshPairs]

theorem run_refresh_of_none {c : Credentials} (h : c.refreshRequest? = none) (w : World) :
    Effect.run (refresh c) w = (.error (.failure (.auth
      "credentials cannot be refreshed: missing refresh token, client id or token uri")), w) := by
  rw [refresh, h]
  rfl

/-! ## Assertions -/

theorem run_signIn (k : ServiceAccountKey) (w : World) :
    Effect.run (AuthStrategy.signIn k) w = match k.signedAssertion readonlyScope w.clock with
      | .ok assertion => Effect.run (grant k.tokenUri (AuthStrategy.assertionParams assertion)
          { accessToken := "", scopes := [readonlyScope] }) w
      | .error e => (.error e, w) := by
  unfold AuthStrategy.signIn
  rw [Effect.run_bind, Effect.run_get]
  dsimp only
  rw [Effect.run_bind]
  cases k.signedAssertion readonlyScope w.clock <;> rfl

/-! ## The three grants -/

/-- What a refresh of credentials sends in a world. -/
def RefreshSends (c : Credentials) (w : World) : Prop :=
  match c.refreshToken, c.clientId, c.tokenUri with
  | some token, some id, some uri =>
    SendsForm (refresh c) uri (refreshPairs token id c.clientSecret) w
  | _, _, _ => Effect.run (refresh c) w = (.error (.failure (.auth
      "credentials cannot be refreshed: missing refresh token, client id or token uri")), w)

theorem refreshSends (c : Credentials) (w : World) : RefreshSends c w := by
  unfold RefreshSends
  split
  · next token id uri ht hi hu =>
    have hrequest := Credentials.refreshRequest?_eq_some.2 ⟨token, id, ht, hi, hu, rfl⟩
    rw [refresh, hrequest, refreshParams_eq]
    exact sendsForm_grant uri _ c w
  · next hmissing =>
    refine run_refresh_of_none (Option.eq_none_iff_forall_ne_some.2 ?_) w
    rintro ⟨uri, ps⟩ hrequest
    obtain ⟨token, id, ht, hi, hu, -⟩ := Credentials.refreshRequest?_eq_some.1 hrequest
    exact hmissing token id uri ht hi hu

def SignInSends (k : ServiceAccountKey) (w : World) : Prop :=
  match k.signedAssertion readonlyScope w.clock with
  | .ok assertion => SendsForm (AuthStrategy.signIn k) k.tokenUri
      [("grant_type", "urn:ietf:params:oauth:grant-type:jwt-bearer"), ("assertion", assertion)] w
  | .error e => Effect.run (AuthStrategy.signIn k) w = (.error e, w)

theorem signInSends (k : ServiceAccountKey) (w : World) : SignInSends k w := by
  have hrun := run_signIn k w
  unfold SignInSends
  cases hassertion : k.signedAssertion readonlyScope w.clock with
  | error e => simpa only [hassertion] using hrun
  | ok assertion =>
    rw [hassertion] at hrun
    have h := sendsForm_grant k.tokenUri (AuthStrategy.assertionParams assertion)
      { accessToken := "", scopes := [readonlyScope] } w
    exact ⟨hrun ▸ h.sent, hrun ▸ h.unsent⟩

/-- Whatever the texts are that a token is asked for with, the form that is sent is
read as exactly the pairs of the grant. A refresh ends with the secret of the client
exactly if it has one; without a refresh token, a client or an endpoint it is refused
and nothing is sent. -/
theorem posts_intended (w : World) :
    (∀ uri ps, SendsForm (requestToken uri ps) uri ps w) ∧
    (∀ c, RefreshSends c w) ∧
    (∀ token id s secret,
      (refreshPairs token id secret).getLast? = some ("client_secret", s) ↔ secret = some s) ∧
    (∀ (s : ClientSecrets) (code redirectUri verifier : String),
      SendsForm (exchangeCode s code redirectUri verifier) s.tokenUri
        [("grant_type", "authorization_code"), ("code", code), ("client_id", s.clientId),
          ("client_secret", s.clientSecret), ("redirect_uri", redirectUri),
          ("code_verifier", verifier)] w) ∧
    ∀ k, SignInSends k w := by
  refine ⟨fun uri ps => sendsForm_requestToken uri ps w, fun c => refreshSends c w,
    getLast?_refreshPairs, ?_, fun k => signInSends k w⟩
  exact fun s code redirectUri verifier => sendsForm_grant s.tokenUri
    (codeParams s code redirectUri verifier) s.known w

theorem delivers_local : Delivers (localWorld "t").network localUrl where
  host := rfl
  reachable := by
    rw [takeUser_localUrl]
    decide
  secure := by
    rw [takeUser_localUrl]
    decide
  replies := List.cons_ne_nil _ _

/-- Credentials whose texts are made to look like other pairs. -/
def misleadingCredentials : Credentials :=
  { accessToken := ""
    refreshToken := some "a&grant_type=b+%26"
    clientId := some "=é\n"
    clientSecret := some "&"
    tokenUri := some localEndpoint }

theorem posts_intended_misleading : ∃ q n,
    (Effect.run (refresh misleadingCredentials) (localWorld "t")).2 =
      { localWorld "t" with network := n } ∧ n.delivered = [q] ∧
    Url.Form.decode q.body.toList = [("grant_type", "refresh_token"),
      ("refresh_token", "a&grant_type=b+%26"), ("client_id", "=é\n"), ("client_secret", "&")] := by
  have h := (posts_intended (localWorld "t")).2.1 misleadingCredentials
  obtain ⟨q, n, hrun, hdelivered, -, hpairs⟩ := h.sent localUrl parse_localEndpoint delivers_local
  exact ⟨q, n, hrun, hdelivered, hpairs⟩

end SheetExport.Auth
