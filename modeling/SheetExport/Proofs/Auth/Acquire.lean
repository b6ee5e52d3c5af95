import SheetExport.Auth.Provider
import SheetExport.Proofs.Http

/-!
# What getting credentials does

However new credentials are got, the clock, the files and the credentials in
memory stay, and replies of the network are used up in order: `Asks`. What is
got is what the last of these replies grants: `Grants`. Both go through from
one step to a sequence of steps.
-/

namespace SheetExport.Auth

variable {α β : Type} {w w' w'' : World}

/-! ## Asking -/

/-- Between two worlds nothing was done but asking. -/
structure Asked (w w' : World) : Prop where
  clock : w'.clock = w.clock
  files : w'.files = w.files
  memory : w'.memory = w.memory
  replies : w'.network.replies <:+ w.network.replies

theorem Asked.refl (w : World) : Asked w w := ⟨rfl, rfl, rfl, List.suffix_rfl⟩

theorem Asked.trans (h : Asked w w') (h' : Asked w' w'') : Asked w w'' where
  clock := h'.clock.trans h.clock
  files := h'.files.trans h.files
  memory := h'.memory.trans h.memory
  replies := h'.replies.trans h.replies

/-- An action that does nothing but ask, however it ends. -/
def Asks (x : Action α) : Prop := ∀ w, Asked w (Effect.run x w).2

theorem asks_pure (a : α) : Asks (pure a : Action α) := fun w => .refl w

theorem asks_throw (e : Stop) : Asks (throw e : Action α) := fun w => .refl w

theorem asks_get : Asks (get : Action World) := fun w => .refl w

theorem Asks.bind {x : Action α} {f : α → Action β} (hx : Asks x) (hf : ∀ a, Asks (f a)) :
    Asks (x >>= f) := by
  intro w
  have h := hx w
  rw [Effect.run_bind]
  generalize Effect.run x w = y at h ⊢
  rcases y with ⟨e | a, t⟩
  · exact h
  · exact h.trans (hf a t)

theorem asks_fail (f : Failure) : Asks (Action.fail f : Action α) := asks_throw _

theorem asks_ofResult (r : Except Failure α) : Asks (Action.ofResult r) := by
  cases r with
  | error e => exact asks_fail e
  | ok a => exact asks_pure a

theorem asks_ofOutcome (r : Except Stop α) : Asks (Action.ofOutcome r) := by
  cases r with
  | error e => exact asks_throw e
  | ok a => exact asks_pure a

theorem run_ofResult (r : Except Failure α) (w : World) :
    Effect.run (Action.ofResult r) w = (r.mapError .failure, w) := by
  cases r <;> rfl

theorem asks_draw (n : Nat) : Asks (Action.draw n) := fun _ => ⟨rfl, rfl, rfl, List.suffix_rfl⟩

theorem asks_print (line : String) : Asks (Action.print line) :=
  fun _ => ⟨rfl, rfl, rfl, List.suffix_rfl⟩

theorem asks_browse (address : String) (respond : List (List UInt8) → α × String) :
    Asks (Action.browse address respond) := fun _ => ⟨rfl, rfl, rfl, List.suffix_rfl⟩

/-! ## Requests -/

section

variable {n n' : Http.Network} {d : Http.Draft}

/-- What becomes of a request to an address by its reply. -/
def outcome (shown : String) : Http.Reply → Except Http.Fault (Nat × String)
  | .answer status body => .ok (status, body)
  | .dropped => .error (.unanswered shown)

/-- A request is not delivered, or it is and uses the next reply. -/
theorem send_cases (n : Http.Network) (d : Http.Draft) :
    (∃ e, n.send d = (.error e, n)) ∨
      ∃ q shown secure y rest, d.request = .ok (q, shown, secure) ∧ n.replies = y :: rest ∧
        n.send d =
          (outcome shown y, { n with replies := rest, delivered := n.delivered ++ [q] }) := by
  unfold Http.Network.send
  split
  · next e _ => exact .inl ⟨e, rfl⟩
  · next q shown secure hq =>
    split
    · exact .inl ⟨_, rfl⟩
    · split
      · exact .inl ⟨_, rfl⟩
      · next rest hr => exact .inr ⟨q, shown, secure, _, rest, hq, hr, rfl⟩
      · next status body rest hr => exact .inr ⟨q, shown, secure, _, rest, hq, hr, rfl⟩

theorem send_replies (n : Http.Network) (d : Http.Draft) : (n.send d).2.replies <:+ n.replies := by
  obtain ⟨e, h⟩ | ⟨q, shown, secure, y, rest, -, hr, h⟩ := send_cases n d
  · exact h ▸ List.suffix_rfl
  · rw [h, hr]
    exact List.suffix_cons y rest

theorem send_eq_ok {status : Nat} {body : String} (h : n.send d = (.ok (status, body), n')) :
    n.replies = .answer status body :: n'.replies ∧
      ∃ q shown secure, d.request = .ok (q, shown, secure) ∧
        n'.delivered = n.delivered ++ [q] := by
  obtain ⟨e, he⟩ | ⟨q, shown, secure, y, rest, hq, hr, hy⟩ := send_cases n d
  · rw [he] at h
    cases h
  · rw [hy] at h
    obtain ⟨hout, rfl⟩ := Prod.mk.inj h
    cases y with
    | dropped => cases hout
    | answer status' body' =>
      cases hout
      exact ⟨hr, q, shown, secure, hq, rfl⟩

end

theorem run_send (d : Http.Draft) (w : World) :
    Effect.run (Action.send d) w =
      ((w.network.send d).1.mapError fun e => .failure (.http e.message),
        { w with network := (w.network.send d).2 }) := by
  simp only [Action.send, Effect.run_bind, Effect.run_get]
  rcases w.network.send d with ⟨e | answer, n⟩ <;> rfl

theorem run_send_eq_ok {d : Http.Draft} {status : Nat} {body : String}
    (h : Effect.run (Action.send d) w = (.ok (status, body), w')) :
    w.network.replies = .answer status body :: w'.network.replies := by
  rw [run_send] at h
  obtain ⟨hanswer, rfl⟩ := Prod.mk.inj h
  exact (send_eq_ok (Prod.ext (Except.mapError_eq_ok.1 hanswer) rfl)).1

theorem asks_send (d : Http.Draft) : Asks (Action.send d) := by
  intro w
  rw [run_send]
  exact ⟨rfl, rfl, rfl, send_replies _ _⟩

/-- A request that posts parameters to an address. -/
structure Posts (q : Http.Request) (uri : String) (ps : Params) : Prop where
  verb : q.verb = "POST"
  contentType : q.contentType = some formType
  body : q.body = String.ofList (Url.Form.encode ps)
  address : ∃ url, Url.parse uri = .ok url ∧
    q.url = Http.Draft.target (Http.Draft.takeUser url).2

theorem posts_of_request {uri : String} {ps : Params} {url : Url} {q : Http.Request}
    {shown : String} {secure : Bool} (hu : Url.parse uri = .ok url)
    (h : (postOf url ps).request = .ok (q, shown, secure)) :
    Posts q uri ps := by
  obtain ⟨-, rfl⟩ := Http.Draft.request_eq_ok h
  exact ⟨rfl, rfl, rfl, url, hu, rfl⟩

/-! ## Actions that only ask -/

theorem asks_requestToken (uri : String) (ps : Params) : Asks (requestToken uri ps) := by
  unfold requestToken
  split
  · exact asks_fail _
  · exact (asks_send _).bind fun _ => asks_ofResult _

theorem asks_grant (uri : String) (ps : Params) (known : Credentials) :
    Asks (grant uri ps known) := by
  refine (asks_requestToken uri ps).bind fun r => asks_get.bind fun w => ?_
  split
  · exact asks_pure _
  · exact asks_throw _

theorem asks_refresh (c : Credentials) : Asks (refresh c) := by
  unfold refresh
  split
  · exact asks_grant _ _ _
  · exact asks_fail _

theorem asks_randomText (n : Nat) : Asks (randomText n) := by
  unfold randomText
  exact (asks_draw n).bind fun _ => asks_pure _

theorem asks_drawConsent (secrets : ClientSecrets) : Asks (drawConsent secrets) := by
  unfold drawConsent
  apply asks_get.bind
  intro w
  apply (asks_randomText 32).bind
  intro verifier
  exact (asks_randomText 16).bind fun state => asks_pure _

theorem asks_askUser (secrets : ClientSecrets) : Asks (askUser secrets) := by
  unfold askUser
  apply (asks_drawConsent secrets).bind
  intro consent
  apply (asks_ofResult consent.url).bind
  intro url
  apply (asks_print (consentNotice url)).bind
  intro _
  apply (asks_browse url.text (respond consent.state)).bind
  intro answer
  exact (asks_ofResult answer).bind fun code => asks_grant _ _ _

theorem asks_signIn (k : ServiceAccountKey) : Asks (AuthStrategy.signIn k) := by
  unfold AuthStrategy.signIn
  apply asks_get.bind
  intro w
  exact (asks_ofOutcome _).bind fun assertion => asks_grant _ _ _

/-- Getting new credentials does nothing but ask, whatever the strategy. -/
theorem asks_acquire (a : AuthStrategy) : Asks a.acquire := by
  unfold AuthStrategy.acquire
  cases a with
  | interactive path =>
    apply asks_get.bind
    intro w
    exact (asks_ofResult _).bind asks_askUser
  | refreshToken clientId clientSecret token tokenUri =>
    exact asks_refresh (AuthStrategy.seed clientId clientSecret token tokenUri)
  | serviceAccount path =>
    apply asks_get.bind
    intro w
    exact (asks_ofResult _).bind asks_signIn

/-! ## What is granted -/

/-- Credentials are what the last reply used grants. -/
def Granted (w w' : World) (c : Credentials) : Prop :=
  ∃ used status body r known,
    w.network.replies = used ++ .answer status body :: w'.network.replies ∧
    readAnswer status body = .ok r ∧ r.credentials? known w.clock = some c

/-- An action that gives nothing but what it is granted. -/
def Grants (x : Action Credentials) : Prop :=
  ∀ w c w', Effect.run x w = (.ok c, w') → Granted w w' c

theorem Asked.granted {c : Credentials} (h : Asked w w') (hg : Granted w' w'' c) :
    Granted w w'' c := by
  obtain ⟨used, status, body, r, known, hr, hread, hc⟩ := hg
  obtain ⟨before, hb⟩ := h.replies
  rw [h.clock] at hc
  exact ⟨before ++ used, status, body, r, known, by rw [← hb, hr, List.append_assoc], hread, hc⟩

theorem Asks.grants {x : Action α} {f : α → Action Credentials} (hx : Asks x)
    (hf : ∀ a, Grants (f a)) : Grants (x >>= f) := by
  intro w c w' h
  obtain ⟨a, t, hrun, hfa⟩ := Effect.run_bind_eq_ok.1 h
  have hasked := hx w
  rw [hrun] at hasked
  exact hasked.granted (hf a t c w' hfa)

theorem grants_fail (f : Failure) : Grants (Action.fail f) := by
  intro w c w' h
  cases h

theorem run_requestToken {uri : String} {url : Url} (hu : Url.parse uri = .ok url) (ps : Params)
    (w : World) :
    Effect.run (requestToken uri ps) w = match w.network.send (postOf url ps) with
      | (.ok (status, body), n) =>
        ((readAnswer status body).mapError .failure, { w with network := n })
      | (.error e, n) => (.error (.failure (.http e.message)), { w with network := n }) := by
  simp only [requestToken, hu]
  rw [Effect.run_bind, run_send]
  rcases w.network.send (postOf url ps) with ⟨e | ⟨status, body⟩, n⟩
  · rfl
  · simp only [Except.mapError_ok, run_ofResult]

/-- What the endpoint answers is the next reply. -/
theorem run_requestToken_eq_ok {uri : String} {ps : Params} {r : TokenResponse}
    (h : Effect.run (requestToken uri ps) w = (.ok r, w')) :
    w'.clock = w.clock ∧ ∃ status body,
      w.network.replies = .answer status body :: w'.network.replies ∧
      readAnswer status body = .ok r := by
  have hclock := (asks_requestToken uri ps w).clock
  rw [h] at hclock
  refine ⟨hclock, ?_⟩
  unfold requestToken at h
  split at h
  · cases h
  · obtain ⟨⟨status, body⟩, t, hs, hr⟩ := Effect.run_bind_eq_ok.1 h
    refine ⟨status, body, ?_⟩
    have hreplies := run_send_eq_ok hs
    rw [run_ofResult] at hr
    obtain ⟨hread, rfl⟩ := Prod.mk.inj hr
    exact ⟨hreplies, Except.mapError_eq_ok.1 hread⟩

theorem run_grant (uri : String) (ps : Params) (known : Credentials) (w : World) :
    Effect.run (grant uri ps known) w = match Effect.run (requestToken uri ps) w with
      | (.ok r, v) =>
        match r.credentials? known v.clock with
        | some c => (.ok c, v)
        | none => (.error .overflow, v)
      | (.error e, v) => (.error e, v) := by
  rw [grant, Effect.run_bind]
  rcases Effect.run (requestToken uri ps) w with ⟨e | r, v⟩
  · rfl
  · simp only [Effect.run_bind, Effect.run_get]
    cases r.credentials? known v.clock <;> rfl

/-- Nothing can be posted to an address: it is none, or the network does not take
the post. -/
def Unsendable (n : Http.Network) (uri : String) (ps : Params) : Prop :=
  ∀ url, Url.parse uri = .ok url → ∃ e, n.send (postOf url ps) = (.error e, n)

/-- Nothing is sent and the action fails, or one post of the parameters is sent.
Nothing else changes than the network. -/
def PostsOnce {α : Type} (x : Action α) (uri : String) (ps : Params) (w : World) : Prop :=
  ∃ n, (Effect.run x w).2 = { w with network := n } ∧
    ((∃ f, (Effect.run x w).1 = .error (.failure f) ∧ n = w.network ∧
        Unsendable w.network uri ps) ∨
      ∃ q, Posts q uri ps ∧ n.delivered = w.network.delivered ++ [q])

theorem requestToken_posts (uri : String) (ps : Params) (w : World) :
    PostsOnce (requestToken uri ps) uri ps w := by
  unfold PostsOnce
  rcases hu : Url.parse uri with e | url
  · simp only [requestToken, hu]
    exact ⟨w.network, rfl, .inl ⟨_, rfl, rfl, fun _ h => by cases hu.symm.trans h⟩⟩
  · rw [run_requestToken hu]
    obtain ⟨e, hs⟩ | ⟨q, shown, secure, y, rest, hq, -, hs⟩ :=
      send_cases w.network (postOf url ps)
    · simp only [hs]
      refine ⟨w.network, rfl, .inl ⟨_, rfl, rfl, fun url' h => ⟨e, ?_⟩⟩⟩
      rwa [← Except.ok.inj (hu.symm.trans h)]
    · rw [hs]
      refine ⟨{ w.network with replies := rest, delivered := w.network.delivered ++ [q] },
        ?_, .inr ⟨q, posts_of_request hu hq, rfl⟩⟩
      cases outcome shown y <;> rfl

theorem grant_posts (uri : String) (ps : Params) (known : Credentials) (w : World) :
    PostsOnce (grant uri ps known) uri ps w := by
  obtain ⟨n, hw, hposts⟩ := requestToken_posts uri ps w
  unfold PostsOnce
  rw [run_grant]
  generalize Effect.run (requestToken uri ps) w = y at hw hposts ⊢
  obtain ⟨e | r, v⟩ := y
  · refine ⟨n, hw, hposts.imp_left ?_⟩
    rintro ⟨f, hf, hunsent⟩
    cases hf
    exact ⟨f, rfl, hunsent⟩
  · have hsent := hposts.resolve_left fun ⟨f, hf, _⟩ => by cases hf
    simp only
    split <;> exact ⟨n, hw, .inr hsent⟩

theorem grants_grant (uri : String) (ps : Params) (known : Credentials) :
    Grants (grant uri ps known) := by
  intro w c w' h
  rw [run_grant] at h
  rcases hr : Effect.run (requestToken uri ps) w with ⟨e | r, v⟩
  · simp only [hr] at h
    cases h
  · obtain ⟨hclock, status, body, hreplies, hread⟩ := run_requestToken_eq_ok hr
    simp only [hr] at h
    cases hc : r.credentials? known v.clock with
    | none =>
      simp only [hc] at h
      cases h
    | some c' =>
      simp only [hc] at h
      cases h
      exact ⟨[], status, body, r, known, hreplies, hread, hclock ▸ hc⟩

theorem grants_refresh (c : Credentials) : Grants (refresh c) := by
  unfold refresh
  split
  · exact grants_grant _ _ _
  · exact grants_fail _

theorem grants_askUser (secrets : ClientSecrets) : Grants (askUser secrets) := by
  unfold askUser
  apply (asks_drawConsent secrets).grants
  intro consent
  apply (asks_ofResult consent.url).grants
  intro url
  apply (asks_print (consentNotice url)).grants
  intro _
  apply (asks_browse url.text (respond consent.state)).grants
  intro answer
  exact (asks_ofResult answer).grants fun code => grants_grant _ _ _

theorem grants_signIn (k : ServiceAccountKey) : Grants (AuthStrategy.signIn k) := by
  unfold AuthStrategy.signIn
  apply asks_get.grants
  intro w
  exact (asks_ofOutcome _).grants fun assertion => grants_grant _ _ _

/-- New credentials are granted, whatever the strategy. -/
theorem grants_acquire (a : AuthStrategy) : Grants a.acquire := by
  unfold AuthStrategy.acquire
  cases a with
  | interactive path =>
    apply asks_get.grants
    intro w
    exact (asks_ofResult _).grants grants_askUser
  | refreshToken clientId clientSecret token tokenUri =>
    exact grants_refresh (AuthStrategy.seed clientId clientSecret token tokenUri)
  | serviceAccount path =>
    apply asks_get.grants
    intro w
    exact (asks_ofResult _).grants grants_signIn

end SheetExport.Auth
