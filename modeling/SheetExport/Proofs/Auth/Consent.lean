import SheetExport.Proofs.Auth.Provider
import SheetExport.Proofs.Auth.Redirect

/-!
# Consents that are bound

Asking the user ends in one request for a token at most. That request is bound
to the address that was shown: the state came back, the code is the one that
came with it, the redirect address is the same and the verifier is the one whose
challenge was shown. Else nothing is sent and the cache stays as it is:
`askUser_bound`.
-/

namespace SheetExport.Auth

variable {w w' : World} {secrets : ClientSecrets} {code : String}

/-! ## Redirects -/

namespace Redirect

/-- The pairs in the query of a request, if its first line has a target. -/
def query? (pieces : List (List UInt8)) : Option (List (String × String)) := do
  let target ← target? (firstLine (received pieces))
  let url ← (Url.resolve base target).toOption
  return url.pairs

theorem respond_eq_ok {state : String} {pieces : List (List UInt8)} :
    (respond state pieces).1 = .ok code ↔
      ∃ ps, query? pieces = some ps ∧ Carries ps state code := by
  simp only [respond, Redirect.code, query?]
  cases target? (firstLine (received pieces)) with
  | none => simp
  | some target =>
    rcases hresolved : Url.resolve base target with e | url
    · simp [hresolved, Except.toOption]
    · simp [hresolved, Except.toOption, codeIn_eq_ok]

end Redirect

/-! ## What is drawn and shown -/

/-- The consent that is drawn in a world. -/
def consentIn (secrets : ClientSecrets) (w : World) : Consent where
  secrets := secrets
  redirectUri := loopbackUri w.port
  scope := readonlyScope
  verifier := Text.Base64.encode ((List.range 32).map w.random)
  state := Text.Base64.encode ((List.range 16).map fun i => w.random (i + 32))

def afterDraw (w : World) : World := { w with random := fun i => w.random (i + 16 + 32) }

/-- The world after the address of a consent was shown and its redirect answered. -/
def afterShow (c : Consent) (url : Url) (w : World) : World :=
  { afterDraw w with
    printed := w.printed ++ [consentNotice url]
    pages := w.pages ++ [(respond c.state (w.browser url.text)).2] }

theorem run_drawConsent (secrets : ClientSecrets) (w : World) :
    Effect.run (drawConsent secrets) w = (.ok (consentIn secrets w), afterDraw w) := rfl

theorem run_askUser (secrets : ClientSecrets) (w : World) :
    Effect.run (askUser secrets) w =
      match (consentIn secrets w).url with
      | .error f => (.error (.failure f), afterDraw w)
      | .ok url =>
        match (respond (consentIn secrets w).state (w.browser url.text)).1 with
        | .error f => (.error (.failure f), afterShow (consentIn secrets w) url w)
        | .ok code =>
          Effect.run (exchangeCode secrets code (loopbackUri w.port) (consentIn secrets w).verifier)
            (afterShow (consentIn secrets w) url w) := by
  rw [askUser, Effect.run_bind, run_drawConsent]
  simp only [Effect.run_bind, run_ofResult]
  cases (consentIn secrets w).url with
  | error f => rfl
  | ok url =>
    simp only [Except.mapError_ok]
    have hbrowse : Effect.run (Action.browse url.text (respond (consentIn secrets w).state))
        { afterDraw w with printed := w.printed ++ [consentNotice url] } =
          (.ok (respond (consentIn secrets w).state (w.browser url.text)).1,
            afterShow (consentIn secrets w) url w) := rfl
    have hprint : Effect.run (Action.print (consentNotice url)) (afterDraw w) =
        (.ok ⟨⟩, { afterDraw w with printed := w.printed ++ [consentNotice url] }) := rfl
    simp only [hprint, hbrowse]
    cases (respond (consentIn secrets w).state (w.browser url.text)).1 <;> rfl

theorem Consent.url_eq_ok {c : Consent} {url : Url} (h : c.url = .ok url) :
    ∃ auth, Url.parse c.secrets.authUri = .ok auth ∧ url = auth.addPairs c.params := by
  unfold Consent.url at h
  split at h
  · next auth hauth => exact ⟨auth, hauth, (Except.ok.inj h).symm⟩
  · cases h

theorem pairs_addPairs (u : Url) (ps : List (String × String)) :
    (u.addPairs ps).pairs = u.pairs ++ ps := by
  rw [Url.pairs, Url.addPairs, Option.getD_some, Url.Form.decode_append]
  rfl

/-! ## Bound requests -/

theorem Posts.pairs {q : Http.Request} {uri : String} {ps : Params} (h : Posts q uri ps) :
    Url.Form.decode q.body.toList = ps := by
  rw [h.body, String.toList_ofList, Url.Form.decode_encode]

/-- What was asked for in an address, what came back and what was sent belong
together. -/
structure Bound (asked back sent : List (String × String)) : Prop where
  granted : back.lookup "error" = none
  state : ∃ state, asked.lookup "state" = some state ∧ Redirect.last? "state" back = some state
  code : ∃ code, Redirect.last? "code" back = some code ∧ sent.lookup "code" = some code
  redirect : ∃ uri, asked.lookup "redirect_uri" = some uri ∧
    sent.lookup "redirect_uri" = some uri
  verifier : ∃ verifier, sent.lookup "code_verifier" = some verifier ∧
    asked.lookup "code_challenge" =
      some (Text.Base64.encode (Digest.Sha256.digest (Text.Utf8.ofString verifier)))

/-- What a consent asks for, a redirect with its state, and the parameters for
the code in it. -/
theorem bound_of_carries {c : Consent} {back : List (String × String)}
    (h : Redirect.Carries back c.state code) :
    Bound c.params back (codeParams secrets code c.redirectUri c.verifier) where
  granted := h.granted
  state := ⟨_, rfl, h.state⟩
  code := ⟨_, h.code, rfl⟩
  redirect := ⟨_, rfl, rfl⟩
  verifier := ⟨_, rfl, rfl⟩

/-- Between two worlds an address was shown and a single request for a token was
sent, which is bound to what was added to the address of the authorization
server, and to what the browser sent back. -/
def Exchanged (secrets : ClientSecrets) (w w' : World) : Prop :=
  ∃ auth url asked back q ps, Url.parse secrets.authUri = .ok auth ∧ url = auth.addPairs asked ∧
    url.pairs = auth.pairs ++ asked ∧ w'.printed = w.printed ++ [consentNotice url] ∧
    Redirect.query? (w.browser url.text) = some back ∧
    w'.network.delivered = w.network.delivered ++ [q] ∧ Posts q secrets.tokenUri ps ∧
    Bound asked back (Url.Form.decode q.body.toList)

/-- Why no request for a token is sent. -/
inductive Declined (secrets : ClientSecrets) (w : World) : Prop where
  /-- There is no address to show. -/
  | unasked {f : Failure} : (consentIn secrets w).url = .error f → Declined secrets w
  /-- What came back does not carry a code with the state. -/
  | unbound {url : Url} : (consentIn secrets w).url = .ok url →
      (∀ back code, Redirect.query? (w.browser url.text) = some back →
        ¬ Redirect.Carries back (consentIn secrets w).state code) → Declined secrets w
  /-- The code that came back cannot be sent. -/
  | unsendable {url : Url} {back : List (String × String)} {code : String} :
      (consentIn secrets w).url = .ok url →
      Redirect.query? (w.browser url.text) = some back →
      Redirect.Carries back (consentIn secrets w).state code →
      Unsendable w.network secrets.tokenUri
        (codeParams secrets code (loopbackUri w.port) (consentIn secrets w).verifier) →
      Declined secrets w

/-- Asking the user fails and sends nothing, or sends one bound request. -/
theorem askUser_cases (secrets : ClientSecrets) (w : World) :
    (∃ f, (Effect.run (askUser secrets) w).1 = .error (.failure f) ∧
      (Effect.run (askUser secrets) w).2.network = w.network ∧ Declined secrets w) ∨
    Exchanged secrets w (Effect.run (askUser secrets) w).2 := by
  rw [run_askUser]
  rcases hurl : (consentIn secrets w).url with f | url
  · simp only
    exact .inl ⟨f, rfl, rfl, .unasked hurl⟩
  · simp only
    rcases hcode : (respond (consentIn secrets w).state (w.browser url.text)).1 with f | code
    · simp only
      refine .inl ⟨f, rfl, rfl, .unbound hurl fun back code hback hcarries => ?_⟩
      rw [Redirect.respond_eq_ok.2 ⟨back, hback, hcarries⟩] at hcode
      cases hcode
    · obtain ⟨back, hback, hcarries⟩ := Redirect.respond_eq_ok.1 hcode
      simp only
      obtain ⟨n, hw, ⟨f, hf, hn, hunsendable⟩ | ⟨q, hq, hdelivered⟩⟩ :=
        grant_posts secrets.tokenUri
          (codeParams secrets code (loopbackUri w.port) (consentIn secrets w).verifier)
          secrets.known (afterShow (consentIn secrets w) url w)
      · refine .inl ⟨f, hf, ?_, .unsendable hurl hback hcarries hunsendable⟩
        exact (congrArg World.network hw).trans hn
      · obtain ⟨auth, hauth, rfl⟩ := Consent.url_eq_ok hurl
        refine .inr ⟨auth, _, (consentIn secrets w).params, back, q, _, hauth, rfl,
          pairs_addPairs auth _, congrArg World.printed hw, hback, ?_, hq, ?_⟩
        · exact (congrArg (fun v => v.network.delivered) hw).trans hdelivered
        · rw [hq.pairs]
          exact bound_of_carries hcarries

theorem exchanged_of_run_eq_ok {c : Credentials}
    (h : Effect.run (askUser secrets) w = (.ok c, w')) : Exchanged secrets w w' := by
  obtain ⟨f, hf, -⟩ | hexchanged := askUser_cases secrets w
  · rw [h] at hf
    cases hf
  · rwa [h] at hexchanged

/-- What is kept can be refreshed. -/
def Refreshable (s : Store) (w : World) : Prop :=
  ∃ k c v, s.kept w = .ok (some k) ∧ Effect.run (refresh k) w = (.ok c, v)

/-- The user, asked in the place of what is kept, consents by a bound request. -/
def Consented (s : Store) (secrets : ClientSecrets) (w : World) : Prop :=
  ∃ o c v, s.kept w = .ok o ∧
    Effect.run (askUser secrets) (Provider.afterRefresh o w) = (.ok c, v) ∧
    Exchanged secrets (Provider.afterRefresh o w) v

theorem refreshable_or_consented {s : Store} {o : Option Credentials} {c : Credentials}
    (ho : (Provider.mk s (askUser secrets)).Stale w o)
    (h : Effect.run ((Provider.mk s (askUser secrets)).supply o) w = (.ok c, w')) :
    Refreshable s w ∨ Consented s secrets w := by
  obtain ⟨k, hk, hr⟩ | hr := Provider.run_supply_eq_ok h
  · exact .inl ⟨k, c, w', ho.1.trans (congrArg Except.ok hk), hr⟩
  · exact .inr ⟨o, c, w', ho.1, hr, exchanged_of_run_eq_ok hr⟩

/-- A call that asks the user changes the cache and the files only after a refresh
or a bound request. -/
theorem cached_or_exchanged (s : Store) (secrets : ClientSecrets) (w : World) :
    let w' := (Effect.run (Provider.mk s (askUser secrets)).credentials w).2
    (w'.files = w.files ∧ w'.memory = w.memory) ∨ Refreshable s w ∨ Consented s secrets w := by
  rcases h : Effect.run (Provider.mk s (askUser secrets)).credentials w with ⟨e | c, w'⟩
  · obtain rfl | ⟨o, ho, hs | ⟨c, v, hs, -⟩⟩ := Provider.run_credentials_eq_error h
    · exact .inl ⟨rfl, rfl⟩
    · have hasked := Provider.asks_supply (p := Provider.mk s (askUser secrets))
        (asks_askUser secrets) o w
      rw [hs] at hasked
      exact .inl ⟨hasked.files, hasked.memory⟩
    · exact .inr (refreshable_or_consented ho hs)
  · obtain ⟨-, -, rfl⟩ | ⟨o, v, ho, hs, -⟩ := Provider.run_credentials_eq_ok h
    · exact .inl ⟨rfl, rfl⟩
    · exact .inr (refreshable_or_consented ho hs)

/-- A registration whose tokens are good at the endpoint. -/
def localSecrets : ClientSecrets := ⟨"id", "secret", "http://[::1]/auth", localEndpoint⟩

/-- A world where the browser comes back with a code and the state that is drawn. -/
def consentingWorld : World :=
  { localWorld "t" with
    browser := fun _ => [Text.Utf8.ofString
      "GET /?code=c&state=AAAAAAAAAAAAAAAAAAAAAA HTTP/1.1\r\n\r\n"] }

theorem not_declined_consentingWorld : ¬ Declined localSecrets consentingWorld := by
  have hback : Redirect.query? (consentingWorld.browser "") =
      some [("code", "c"), ("state", "AAAAAAAAAAAAAAAAAAAAAA")] := by decide +kernel
  intro h
  cases h with
  | unasked hurl => cases hurl.symm.trans rfl
  | unbound hurl hunbound => exact hunbound _ "c" hback ⟨rfl, by decide, rfl⟩
  | unsendable _ _ _ hunsendable => exact sendable_local _ hunsendable

/-- Asking the user sends nothing and fails, or sends one request for a token
that is bound to the address that was shown. A call changes the cache and the
files only after such a request, or by a refresh. -/
theorem askUser_bound (secrets : ClientSecrets) (w : World) :
    ((∃ f, (Effect.run (askUser secrets) w).1 = .error (.failure f) ∧
        (Effect.run (askUser secrets) w).2.network = w.network ∧ Declined secrets w) ∨
      Exchanged secrets w (Effect.run (askUser secrets) w).2) ∧
    ∀ s : Store,
      let w' := (Effect.run (Provider.mk s (askUser secrets)).credentials w).2
      (w'.files = w.files ∧ w'.memory = w.memory) ∨ Refreshable s w ∨ Consented s secrets w :=
  ⟨askUser_cases secrets w, fun s => cached_or_exchanged s secrets w⟩

/-- The user consents there, and the request is sent. -/
theorem askUser_bound_consentingWorld : Exchanged localSecrets consentingWorld
    (Effect.run (askUser localSecrets) consentingWorld).2 :=
  (askUser_bound localSecrets consentingWorld).1.resolve_left
    fun ⟨_, _, _, h⟩ => not_declined_consentingWorld h

end SheetExport.Auth
