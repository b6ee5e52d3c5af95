import SheetExport.Auth.Provider
import SheetExport.Proofs.Auth.Acquire
import SheetExport.Proofs.Auth.Credentials
import SheetExport.Proofs.Auth.Store

/-!
# Calls of the provider

All the ways in which a call ends, when the credentials given are valid, and what it
leaves in the cache.
-/

/-!
## What a call of the provider does

A call gives what the store keeps if that is valid. Else it gets new
credentials, `Provider.supply`, and saves them: `run_credentials_eq_ok` and
`run_credentials_eq_error` are all the ways in which a call ends.
-/

namespace SheetExport.Auth.Provider

variable {α : Type} {p : Provider} {o : Option Credentials} {c : Credentials} {w w' : World}
  {e : Stop}

/-- How new credentials are got in the place of what is kept. -/
def supply (p : Provider) : Option Credentials → Action Credentials
  | none => p.acquire
  | some c =>
    if c.canRefresh then do
      match ← attempt (refresh c) with
      | .ok c => return c
      | .error _ => p.acquire
    else p.acquire

/-! ### Steps -/

theorem run_start (s : Settings) (w : World) :
    Effect.run (start s) w = (.ok (ofSettings s), w.fresh) := rfl

theorem run_isValidNow (c : Credentials) (w : World) :
    Effect.run (isValidNow c) w = match c.valid? w.clock with
      | some b => (.ok b, w)
      | none => (.error .overflow, w) := by
  simp only [isValidNow, Effect.run_bind, Effect.run_get]
  cases c.valid? w.clock <;> rfl

theorem run_attempt (x : Action α) (w : World) :
    Effect.run (attempt x) w = match Effect.run x w with
      | (.ok a, w) => (.ok (.ok a), w)
      | (.error (.failure f), w) => (.ok (.error f), w)
      | (.error .overflow, w) => (.error .overflow, w) := rfl

/-- Credentials that are not valid are replaced by new ones, which are kept. -/
theorem replace_eq (p : Provider) (c : Credentials) :
    p.replace c = p.supply (some c) >>= p.keep := by
  by_cases h : c.canRefresh = true
  · simp only [replace, supply, h, if_true, bind_assoc]
    congr 1
    funext r
    cases r <;> rfl
  · simp only [replace, supply, h]
    rfl

theorem run_credentials (p : Provider) (w : World) :
    Effect.run p.credentials w = match p.store.kept w with
      | .error f => (.error (.failure f), w)
      | .ok none => Effect.run (p.supply none >>= p.keep) w
      | .ok (some c) =>
        match c.valid? w.clock with
        | none => (.error .overflow, w)
        | some true => (.ok c, w)
        | some false => Effect.run (p.supply (some c) >>= p.keep) w := by
  rw [credentials, Effect.run_bind, Store.run_load]
  rcases p.store.kept w with f | _ | c
  · rfl
  · rfl
  · simp only [Except.mapError_ok]
    rw [Effect.run_bind, run_isValidNow]
    rcases c.valid? w.clock with _ | _ | _
    · rfl
    · simp only [Bool.false_eq_true, if_false, replace_eq]
    · rfl

theorem run_attempt_eq_ok {x : Action α} {a : α} :
    Effect.run (attempt x) w = (.ok (.ok a), w') ↔ Effect.run x w = (.ok a, w') := by
  rw [run_attempt]
  rcases Effect.run x w with ⟨(f | _) | b, v⟩ <;> simp

theorem asks_attempt {x : Action α} (hx : Asks x) : Asks (attempt x) := by
  intro w
  have h := hx w
  rw [run_attempt]
  generalize Effect.run x w = y at h ⊢
  rcases y with ⟨(f | _) | a, v⟩ <;> exact h

theorem asks_supply (ha : Asks p.acquire) (o : Option Credentials) : Asks (p.supply o) := by
  cases o with
  | none => exact ha
  | some c =>
    simp only [supply]
    split
    · refine (asks_attempt (asks_refresh c)).bind fun r => ?_
      cases r with
      | error f => exact ha
      | ok c => exact asks_pure c
    · exact ha

/-- The world in which the strategy is asked: what can be refreshed was tried. -/
def afterRefresh (o : Option Credentials) (w : World) : World :=
  match o with
  | none => w
  | some c => if c.canRefresh then (Effect.run (refresh c) w).2 else w

theorem asked_afterRefresh (o : Option Credentials) (w : World) : Asked w (afterRefresh o w) := by
  cases o with
  | none => exact .refl w
  | some c =>
    simp only [afterRefresh]
    split
    · exact asks_refresh c w
    · exact .refl w

theorem run_supply_eq_ok (h : Effect.run (p.supply o) w = (.ok c, w')) :
    (∃ k ∈ o, Effect.run (refresh k) w = (.ok c, w')) ∨
      Effect.run p.acquire (afterRefresh o w) = (.ok c, w') := by
  cases o with
  | none => exact .inr h
  | some k =>
    by_cases hk : k.canRefresh = true
    · simp only [supply, hk, if_true, Effect.run_bind, run_attempt] at h
      simp only [afterRefresh, hk, if_true]
      rcases hr : Effect.run (refresh k) w with ⟨(f | _) | c', v⟩
      · rw [hr] at h
        exact .inr h
      · rw [hr] at h
        cases h
      · rw [hr] at h
        cases h
        exact .inl ⟨k, rfl, hr⟩
    · simp only [supply, afterRefresh, hk] at h ⊢
      exact .inr h

theorem grants_supply (hg : Grants p.acquire) (o : Option Credentials) :
    Grants (p.supply o) := by
  intro w c w' h
  obtain ⟨k, -, hr⟩ | hr := run_supply_eq_ok h
  · exact grants_refresh k w c w' hr
  · exact (asked_afterRefresh o w).granted (hg _ c w' hr)

theorem kept_of_asked {s : Store} (h : Asked w w') : s.kept w' = s.kept w := by
  apply Store.kept_eq
  cases s with
  | file path => exact congrArg (·.read path) h.files
  | memory => exact h.memory

/-! ### Ends -/

theorem run_keep_eq_ok {k : Credentials} :
    Effect.run (p.keep c) w = (.ok k, w') ↔
      k = c ∧ Effect.run (p.store.save c) w = (.ok ⟨⟩, w') := by
  rw [keep, Effect.run_bind_eq_ok]
  constructor
  · rintro ⟨⟨⟩, v, hs, h⟩
    cases h
    exact ⟨rfl, hs⟩
  · rintro ⟨rfl, hs⟩
    exact ⟨⟨⟩, w', hs, rfl⟩

theorem run_keep_eq_error :
    Effect.run (p.keep c) w = (.error e, w') ↔
      Effect.run (p.store.save c) w = (.error e, w') := by
  rw [keep, Effect.run_bind_eq_error]
  simp

/-- Nothing valid is kept. -/
def Stale (p : Provider) (w : World) (o : Option Credentials) : Prop :=
  p.store.kept w = .ok o ∧ ∀ c ∈ o, c.valid? w.clock = some false

theorem run_credentials_of_stale (h : p.Stale w o) :
    Effect.run p.credentials w = Effect.run (p.supply o >>= p.keep) w := by
  obtain ⟨hk, hv⟩ := h
  rw [run_credentials, hk]
  cases o with
  | none => rfl
  | some c => simp only [hv c rfl]

/-- What is kept cannot be read, is valid, has no date to be checked, or is of no
use. -/
theorem kept_cases (p : Provider) (w : World) :
    (∃ f, p.store.kept w = .error f) ∨
      (∃ c, p.store.kept w = .ok (some c) ∧ c.valid? w.clock ≠ some false) ∨ ∃ o, p.Stale w o := by
  rcases hk : p.store.kept w with f | _ | c
  · exact .inl ⟨f, rfl⟩
  · exact .inr (.inr ⟨none, hk, by simp⟩)
  · by_cases hv : c.valid? w.clock = some false
    · exact .inr (.inr ⟨some c, hk, by simpa using hv⟩)
    · exact .inr (.inl ⟨c, rfl, hv⟩)

/-- A call gives what is kept and valid, or new credentials that it saved. -/
theorem run_credentials_eq_ok (h : Effect.run p.credentials w = (.ok c, w')) :
    (p.store.kept w = .ok (some c) ∧ c.valid? w.clock = some true ∧ w' = w) ∨
      ∃ o v, p.Stale w o ∧ Effect.run (p.supply o) w = (.ok c, v) ∧
        Effect.run (p.store.save c) v = (.ok ⟨⟩, w') := by
  rcases kept_cases p w with ⟨f, hk⟩ | ⟨k, hk, hv⟩ | ⟨o, ho⟩
  · rw [run_credentials, hk] at h
    cases h
  · rw [run_credentials, hk] at h
    rcases hk' : k.valid? w.clock with _ | _ | _
    · simp only [hk'] at h
      cases h
    · exact absurd hk' hv
    · simp only [hk'] at h
      cases h
      exact .inl ⟨hk, hk', rfl⟩
  · rw [run_credentials_of_stale ho, Effect.run_bind_eq_ok] at h
    obtain ⟨k, v, hs, hkeep⟩ := h
    obtain ⟨rfl, hsave⟩ := run_keep_eq_ok.1 hkeep
    exact .inr ⟨o, v, ho, hs, hsave⟩

/-- A call fails and changes nothing, while it asks, or when it saves what it got. -/
theorem run_credentials_eq_error (h : Effect.run p.credentials w = (.error e, w')) :
    w' = w ∨ ∃ o, p.Stale w o ∧ (Effect.run (p.supply o) w = (.error e, w') ∨
      ∃ c v, Effect.run (p.supply o) w = (.ok c, v) ∧
        Effect.run (p.store.save c) v = (.error e, w')) := by
  rcases kept_cases p w with ⟨f, hk⟩ | ⟨k, hk, hv⟩ | ⟨o, ho⟩
  · rw [run_credentials, hk] at h
    cases h
    exact .inl rfl
  · rw [run_credentials, hk] at h
    rcases hk' : k.valid? w.clock with _ | _ | _
    · simp only [hk'] at h
      cases h
      exact .inl rfl
    · exact absurd hk' hv
    · simp only [hk'] at h
      cases h
  · rw [run_credentials_of_stale ho, Effect.run_bind_eq_error] at h
    refine .inr ⟨o, ho, h.imp_right ?_⟩
    rintro ⟨c, v, hs, hkeep⟩
    exact ⟨c, v, hs, run_keep_eq_error.1 hkeep⟩

end SheetExport.Auth.Provider

/-!
## When the credentials given are valid

Only credentials from the cache are checked before they are given. New ones,
from a refresh or from the strategy, are valid exactly when the response they
come from is of use, and an answer with an empty token is accepted.
-/

namespace SheetExport.Auth

open Schema

/-! ### An endpoint on this machine -/

def localEndpoint : String := "http://[::1]/token"

def localUrl : Url where
  scheme := "http".toList
  authority := some { host := .ipv6 [0, 0, 0, 0, 0, 0, 0, 1] }
  path := .segments ["token".toList]

theorem parse_localEndpoint : Url.parse localEndpoint = .ok localUrl := rfl

/-- A strategy whose refresh token is good at the endpoint. -/
def localStrategy : AuthStrategy := .refreshToken "id" "secret" "refresh" (some localEndpoint)

def tokenAnswer (token : String) : String := (Json.object [("access_token", .string token)]).text

def localWorld (token : String) : World where
  clock := ⟨0, 0⟩
  network := { replies := [.answer 200 (tokenAnswer token)] }

def localCredentials (token : String) : Credentials :=
  { accessToken := token
    refreshToken := some "refresh"
    scopes := [readonlyScope]
    clientId := some "id"
    clientSecret := some "secret"
    tokenUri := some localEndpoint }

theorem representable_localCredentials (token : String) :
    (localCredentials token).Representable := fun _ h => nomatch h

theorem readAnswer_of_reads {v : Json} {r : TokenResponse}
    (h : Json.Reads (TokenResponse.schema.ofJson Json.depthLimit) v r) :
    readAnswer 200 v.text = .ok r := by
  have hsuccess : Http.isSuccess 200 = true := by decide
  simp only [readAnswer, hsuccess, if_true, parseJson_compactText h]

theorem readAnswer_tokenAnswer (token : String) :
    readAnswer 200 (tokenAnswer token) = .ok { accessToken := token } := by
  refine readAnswer_of_reads ?_
  refine Held.reads_record (r := (token, none, none, none, ())) ?_ _ _
  refine .found (by decide) reads_string ?_
  exact .absent (by decide) rfl (.absent (by decide) rfl (.absent (by decide) rfl .nil))

theorem takeUser_localUrl : Http.Draft.takeUser localUrl = ([], localUrl) := by
  refine Http.Draft.takeUser_of_anonymous fun a ha => ?_
  cases ha
  exact ⟨rfl, rfl⟩

theorem request_local (ps : Params) :
    ∃ r, (postOf localUrl ps).request = .ok (r, "http://[::1]/token", false) := by
  unfold Http.Draft.request
  simp only [postOf, takeUser_localUrl]
  exact ⟨_, rfl⟩

theorem sendable_local (ps : Params) : ¬ Unsendable (localWorld "t").network localEndpoint ps := by
  intro h
  obtain ⟨e, he⟩ := h localUrl parse_localEndpoint
  obtain ⟨q, hq⟩ := request_local ps
  simp only [Http.Network.send, hq, localWorld] at he
  cases he

theorem run_requestToken_local {w : World} {body : String} {rest : List Http.Reply}
    {r : TokenResponse} (hw : w.network.replies = .answer 200 body :: rest)
    (hr : readAnswer 200 body = .ok r) (ps : Params) : ∃ n,
    Effect.run (requestToken localEndpoint ps) w = (.ok r, { w with network := n }) := by
  obtain ⟨q, hq⟩ := request_local ps
  have hsend : w.network.send (postOf localUrl ps) = (.ok (200, body),
      { w.network with replies := rest, delivered := w.network.delivered ++ [q] }) := by
    simp only [Http.Network.send, hq, hw]
    rfl
  refine ⟨{ w.network with replies := rest, delivered := w.network.delivered ++ [q] }, ?_⟩
  rw [run_requestToken parse_localEndpoint, hsend]
  simp only [hr, Except.mapError_ok]

theorem acquire_local : ∃ ps, localStrategy.acquire = grant localEndpoint ps
    (AuthStrategy.seed "id" "secret" "refresh" (some localEndpoint)) := ⟨_, rfl⟩

theorem run_acquire_local (token : String) : ∃ n,
    Effect.run localStrategy.acquire (localWorld token) =
      (.ok (localCredentials token), { localWorld token with network := n }) := by
  obtain ⟨ps, hgrant⟩ := acquire_local
  obtain ⟨n, hn⟩ := run_requestToken_local (w := localWorld token) rfl
    (readAnswer_tokenAnswer token) ps
  refine ⟨n, ?_⟩
  rw [hgrant, run_grant, hn]
  rfl

/-- A call that finds no cache keeps and gives what the endpoint answers. -/
theorem run_credentials_local {s : Store} (token : String)
    (hs : s.kept (localWorld token) = .ok none) : ∃ n,
    Effect.run (Provider.mk s localStrategy.acquire).credentials (localWorld token) =
      Effect.run ((Provider.mk s localStrategy.acquire).keep (localCredentials token))
        { localWorld token with network := n } := by
  obtain ⟨n, hn⟩ := run_acquire_local token
  refine ⟨n, ?_⟩
  rw [Provider.run_credentials_of_stale ⟨hs, by simp⟩, Effect.run_bind]
  simp only [Provider.supply, hn]

theorem run_credentials_local_memory (token : String) : ∃ w',
    Effect.run (Provider.mk .memory localStrategy.acquire).credentials (localWorld token) =
      (.ok (localCredentials token), w') := by
  obtain ⟨n, hn⟩ := run_credentials_local (s := .memory) token rfl
  exact ⟨_, hn.trans rfl⟩

/-! ### Validity -/

namespace Provider

/-- What a call gives is valid if it was kept; else it is valid exactly when the
last reply used has a lasting token. -/
theorem credentials_valid_iff {s : Store} {a : AuthStrategy} {c : Credentials} {w w' : World}
    (hw : w.clock.Representable)
    (h : Effect.run (Provider.mk s a.acquire).credentials w = (.ok c, w')) :
    (s.kept w = .ok (some c) ∧ c.valid? w.clock = some true ∧ w' = w) ∨
      ∃ used status body r known,
        w.network.replies = used ++ .answer status body :: w'.network.replies ∧
        readAnswer status body = .ok r ∧ r.credentials? known w.clock = some c ∧
        (c.valid? w.clock = some true ↔ r.Lasting w.clock) := by
  obtain hkept | ⟨o, v, -, hs, hsave⟩ := run_credentials_eq_ok h
  · exact .inl hkept
  · obtain ⟨used, status, body, r, known, hreplies, hread, hc⟩ :=
      grants_supply (grants_acquire a) o w c v hs
    have hrep := TokenResponse.credentials?_representable hw hc
    rw [← (Store.run_save_eq_ok hrep hsave).2.2] at hreplies
    exact .inr ⟨used, status, body, r, known, hreplies, hread, hc,
      TokenResponse.valid?_credentials? hw hc⟩

theorem credentials_valid_iff_local : ∃ w',
    Effect.run (Provider.mk .memory localStrategy.acquire).credentials (localWorld "t") =
      (.ok (localCredentials "t"), w') ∧ (localWorld "t").clock.Representable ∧
    ((localCredentials "t").valid? (localWorld "t").clock = some true ↔
      ({ accessToken := "t" } : TokenResponse).Lasting (localWorld "t").clock) := by
  obtain ⟨w', h⟩ := run_credentials_local_memory "t"
  have hw : (localWorld "t").clock.Representable := by decide
  refine ⟨w', h, hw, ?_⟩
  obtain ⟨hkept, -⟩ | ⟨used, status, body, r, known, hreplies, hread, hc, hiff⟩ :=
    credentials_valid_iff hw h
  · cases hkept
  · cases used with
    | cons x xs => simp [localWorld] at hreplies
    | nil =>
      simp only [localWorld, List.nil_append, List.cons.injEq, Http.Reply.answer.injEq] at hreplies
      obtain ⟨⟨rfl, rfl⟩, -⟩ := hreplies
      rw [readAnswer_tokenAnswer] at hread
      cases hread
      exact hiff

/-- An answer with an empty token is given as credentials, which are not valid. -/
theorem credentials_invalid_local : ∃ w',
    Effect.run (Provider.mk .memory localStrategy.acquire).credentials (localWorld "") =
      (.ok (localCredentials ""), w') ∧
    (localWorld "").clock.Representable ∧
    (localCredentials "").valid? (localWorld "").clock = some false := by
  obtain ⟨w', h⟩ := run_credentials_local_memory ""
  exact ⟨w', h, by decide, by decide⟩

end Provider

end SheetExport.Auth

/-!
## Credentials that stay in the cache

A call that gives credentials leaves them in the cache, and as long as they are
valid every later call gives them again and changes nothing. A call that fails
leaves the cache and the files alone, unless it was the saving that failed.
-/

namespace SheetExport.Auth

open Time (Instant)

variable {p : Provider} {s : Store} {c : Credentials} {w w' : World}

theorem Granted.representable (hw : w.clock.Representable) (h : Granted w w' c) :
    c.Representable := by
  obtain ⟨-, -, -, r, known, -, -, hc⟩ := h
  exact TokenResponse.credentials?_representable hw hc

namespace Provider

def credentialsAt (p : Provider) (now : Instant) : Action Credentials := do
  modify fun w => { w with clock := now }
  p.credentials

def calls (p : Provider) (ts : List Instant) : Action (List Credentials) :=
  ts.mapM p.credentialsAt

theorem kept_clock (s : Store) (w : World) (now : Instant) :
    s.kept { w with clock := now } = s.kept w := by
  cases s <;> rfl

theorem run_credentialsAt (p : Provider) (now : Instant) (w : World) :
    Effect.run (p.credentialsAt now) w = Effect.run p.credentials { w with clock := now } := by
  rw [credentialsAt, Effect.run_bind, Effect.run_modify]

theorem run_credentialsAt_of_valid (hk : p.store.kept w = .ok (some c)) {now : Instant}
    (hv : c.valid? now = some true) :
    Effect.run (p.credentialsAt now) w = (.ok c, { w with clock := now }) := by
  simp only [run_credentialsAt, run_credentials, kept_clock, hk, hv]

theorem run_calls (hk : p.store.kept w = .ok (some c)) {ts : List Instant}
    (hv : ∀ t ∈ ts, c.valid? t = some true) :
    Effect.run (p.calls ts) w =
      (.ok (ts.map fun _ => c), { w with clock := ts.getLastD w.clock }) := by
  induction ts generalizing w with
  | nil => rfl
  | cons t ts ih =>
    have ht := run_credentialsAt_of_valid hk (hv t List.mem_cons_self)
    have hts := ih (w := { w with clock := t }) (by rwa [kept_clock])
      fun t' ht' => hv t' (List.mem_cons_of_mem _ ht')
    unfold calls at hts ⊢
    rw [List.mapM_cons, Effect.run_bind, ht]
    simp only
    rw [Effect.run_bind, hts]
    rw [List.getLastD_cons]
    rfl

/-- After a call that ends well the cache has what the call gave. -/
theorem kept_of_run_eq_ok (hg : Grants p.acquire)
    (hw : w.clock.Representable) (h : Effect.run p.credentials w = (.ok c, w')) :
    p.store.kept w' = .ok (some c) := by
  obtain ⟨hk, -, rfl⟩ | ⟨o, v, -, hs, hsave⟩ := run_credentials_eq_ok h
  · exact hk
  · have hgranted := grants_supply hg o w c v hs
    exact (Store.run_save_eq_ok (hgranted.representable hw) hsave).1

/-- A call that fails leaves the cache and the files alone, unless saving fails. -/
theorem unchanged_of_run_eq_error (ha : Asks p.acquire) (hg : Grants p.acquire) {e : Stop}
    (h : Effect.run p.credentials w = (.error e, w')) :
    (w'.files = w.files ∧ w'.memory = w.memory) ∨
      ∃ c v, Granted w v c ∧ v.files = w.files ∧ v.memory = w.memory ∧
        Effect.run (p.store.save c) v = (.error e, w') := by
  obtain rfl | ⟨o, -, hs | ⟨c, v, hs, hsave⟩⟩ := run_credentials_eq_error h
  · exact .inl ⟨rfl, rfl⟩
  · have hasked := asks_supply ha o w
    rw [hs] at hasked
    exact .inl ⟨hasked.files, hasked.memory⟩
  · have hasked := asks_supply ha o w
    rw [hs] at hasked
    exact .inr ⟨c, v, grants_supply hg o w c v hs, hasked.files, hasked.memory, hsave⟩

/-- The cache is in step with the calls: what a call gives is what is loaded
next and what every call gives while it is valid, also one of another process
with the same cache, without a request or a change. A call that fails before it
saves changes neither the cache nor a file. -/
theorem credentials_cached (s : Store) (a : AuthStrategy) (w : World)
    (hw : w.clock.Representable) :
    match Effect.run (Provider.mk s a.acquire).credentials w with
    | (.ok c, w') =>
      Effect.run s.load w' = (.ok (some c), w') ∧
        ∀ (v : World) (acquire : Action Credentials) (ts : List Instant), s.SameCache w' v →
          (∀ t ∈ ts, c.valid? t = some true) →
          Effect.run ((Provider.mk s acquire).calls ts) v =
            (.ok (ts.map fun _ => c), { v with clock := ts.getLastD v.clock })
    | (.error e, w') =>
      (w'.files = w.files ∧ w'.memory = w.memory) ∨
        ∃ c v, Granted w v c ∧ v.files = w.files ∧ v.memory = w.memory ∧
          Effect.run (s.save c) v = (.error e, w') := by
  rcases h : Effect.run (Provider.mk s a.acquire).credentials w with ⟨e | c, w'⟩
  · exact unchanged_of_run_eq_error (asks_acquire a) (grants_acquire a) h
  · have hk := kept_of_run_eq_ok (grants_acquire a) hw h
    refine ⟨?_, fun v acquire ts hv hts => ?_⟩
    · rw [Store.run_load, hk]
      rfl
    · exact run_calls ((Store.kept_eq hv).trans hk) hts

theorem credentials_cached_local : (localWorld "t").clock.Representable ∧ ∃ w',
    Effect.run (Provider.mk (.file "token.json") localStrategy.acquire).credentials
      (localWorld "t") = (.ok (localCredentials "t"), w') ∧
    Effect.run (Store.load (.file "token.json")) w' = (.ok (some (localCredentials "t")), w') := by
  have hw : (localWorld "t").clock.Representable := by decide
  obtain ⟨n, hn⟩ := run_credentials_local (s := .file "token.json") "t" rfl
  have hfiles : ∀ text, ∃ t t' t'', FileTree.makeParent {} "token.json" = .ok t ∧
      t.write "token.json" text = .ok t' ∧
      t'.setMode "token.json" Store.privateMode = .ok t'' := fun _ => ⟨_, _, _, rfl, rfl, rfl⟩
  obtain ⟨t, t', t'', hparent, hwrite, hmode⟩ := hfiles (localCredentials "t").toJson.prettyText
  have hsave := Store.run_save_file_eq_ok (w := { localWorld "t" with network := n }).2
    ⟨t, t', t'', hparent, hwrite, hmode, rfl⟩
  rw [run_keep_eq_ok.2 ⟨rfl, hsave⟩] at hn
  have hcached := credentials_cached (.file "token.json") localStrategy (localWorld "t") hw
  rw [hn] at hcached
  exact ⟨hw, _, hn, hcached.1⟩

end Provider

end SheetExport.Auth
