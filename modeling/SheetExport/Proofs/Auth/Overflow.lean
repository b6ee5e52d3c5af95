import SheetExport.Proofs.Auth.Provider

/-!
# Calls that end the program

A moment without a date ends the whole program. While there is an hour left to
the clock, a call meets one in two ways only: the expiry of what is kept has no
date once the margin is taken off, or the last answer used has a lifetime that
is too long to be added. `Robust` is the second way alone; it holds of every
strategy, and goes through from one step to a sequence of steps.
-/

namespace SheetExport.Auth

open Time (Instant)

variable {α β : Type} {w w' v : World}

/-! ## Expiries that cannot be checked -/

namespace Credentials

variable {c : Credentials} {now : Instant}

/-- There is a token, and its expiry less the margin has no date. -/
def Undatable (c : Credentials) : Prop :=
  c.accessToken ≠ "" ∧ ∃ t ∈ c.expiresAt, t.add? (-(expiryMargin : Int)) = none

theorem valid?_eq_none : c.valid? now = none ↔ c.Undatable := by
  unfold valid? expired? Undatable
  by_cases ht : c.accessToken = ""
  · simp [ht]
  · cases c.expiresAt with
    | none => simp [ht]
    | some t => simp [ht]

end Credentials

theorem TokenResponse.not_undatable {r : TokenResponse} {known c : Credentials} {now : Instant}
    (hearly : Instant.first + Credentials.expiryMargin ≤ now.seconds)
    (h : r.credentials? known now = some c) : ¬ c.Undatable := by
  rintro ⟨-, t, ht, hnone⟩
  obtain ⟨-, rfl⟩ := TokenResponse.credentials?_eq_some.1 h
  obtain ⟨lifetime, -, hadd⟩ := Option.bind_eq_some_iff.1 ht
  obtain ⟨hin, hcases⟩ := Instant.add?_eq_some hadd
  -- the expiry is not before now
  have hlater : now.seconds ≤ t.seconds := by
    rcases hcases with ⟨-, -, hs, -⟩ | ⟨-, hs, -⟩
    · rw [if_neg (by omega)] at hs
      omega
    · omega
  have hlast := (Instant.inRange_iff.1 hin).2
  have hsome := Instant.add?_isSome (s := -(Credentials.expiryMargin : Int)) hin (by omega)
    (by omega)
  rw [hnone] at hsome
  cases hsome

/-! ## Lifetimes that are too long -/

/-- A reply with a lifetime that cannot be added to any instant. -/
def Oversized (y : Http.Reply) : Prop :=
  ∃ status body r lifetime, y = .answer status body ∧ readAnswer status body = .ok r ∧
    lifetime ∈ r.expiresIn ∧ Credentials.longestLifetime < lifetime

/-- The last reply used between two worlds has such a lifetime. -/
def Misled (w w' : World) : Prop :=
  ∃ used y, w.network.replies = used ++ y :: w'.network.replies ∧ Oversized y

theorem not_misled (h : w'.network.replies = w.network.replies) : ¬ Misled w w' := by
  rintro ⟨used, y, hr, -⟩
  have := congrArg List.length hr
  simp [h] at this
  omega

theorem append_cons_inj {xs ys rest : List α} {x y : α} (h : xs ++ x :: rest = ys ++ y :: rest) :
    xs = ys ∧ x = y := by
  rw [List.append_cons xs, List.append_cons ys] at h
  simpa using (List.append_inj' h rfl).1

theorem misled_iff {y : Http.Reply} (h : w.network.replies = y :: w'.network.replies) :
    Misled w w' ↔ Oversized y := by
  constructor
  · rintro ⟨used, z, hr, hz⟩
    have hyz : [] ++ y :: w'.network.replies = used ++ z :: w'.network.replies := h.symm.trans hr
    obtain ⟨-, rfl⟩ := append_cons_inj hyz
    exact hz
  · exact fun hy => ⟨[], y, h, hy⟩

/-- Who was not misled on the way is misled in the end exactly if it happened on
the rest of the way. -/
theorem misled_trans (hv : v.network.replies <:+ w.network.replies)
    (hw' : w'.network.replies <:+ v.network.replies) (h : ¬ Misled w v) :
    Misled w w' ↔ Misled v w' := by
  obtain ⟨before, hbefore⟩ := hv
  obtain ⟨rest, hrest⟩ := hw'
  constructor
  · rintro ⟨used, y, hr, hy⟩
    -- with nothing used on the rest of the way, the last reply was used before
    rcases List.eq_nil_or_concat rest with rfl | ⟨rest, z, rfl⟩
    · exact absurd ⟨used, y, by rwa [← hrest], hy⟩ h
    · have hz : (before ++ rest) ++ z :: w'.network.replies = used ++ y :: w'.network.replies := by
        rw [← hr, ← hbefore, ← hrest]
        simp
      obtain ⟨-, rfl⟩ := append_cons_inj hz
      exact ⟨rest, z, by simp [← hrest], hy⟩
  · rintro ⟨used, y, hr, hy⟩
    exact ⟨before ++ used, y, by rw [← hbefore, hr, List.append_assoc], hy⟩

/-! ## Actions that overflow only when misled -/

/-- There is an hour left to the clock. -/
def Roomy (w : World) : Prop := (w.clock.add? ServiceAccountKey.lifetime).isSome = true

/-- An action that only asks, and that overflows exactly when it is misled. -/
structure Robust (x : Action α) : Prop where
  asks : Asks x
  overflow : ∀ w, Roomy w →
    ((Effect.run x w).1 = .error .overflow ↔ Misled w (Effect.run x w).2)

/-- An action that leaves the network alone and never overflows. -/
def Quiet (x : Action α) : Prop :=
  ∀ w, (Effect.run x w).1 ≠ .error .overflow ∧ (Effect.run x w).2.network = w.network

theorem Asks.robust {x : Action α} (ha : Asks x) (hx : Quiet x) : Robust x where
  asks := ha
  overflow w _ := by
    obtain ⟨hover, hnet⟩ := hx w
    exact iff_of_false hover (not_misled (congrArg _ hnet))

theorem Robust.bind {x : Action α} {f : α → Action β} (hx : Robust x) (hf : ∀ a, Robust (f a)) :
    Robust (x >>= f) where
  asks := hx.asks.bind fun a => (hf a).asks
  overflow w hw := by
    have hasked := hx.asks w
    have hover := hx.overflow w hw
    rw [Effect.run_bind]
    generalize Effect.run x w = y at hasked hover ⊢
    obtain ⟨e | a, v⟩ := y
    · simpa using hover
    · -- the first step gave a value, so nobody was misled by it
      have hv : Roomy v := by rwa [Roomy, hasked.clock]
      have hnot : ¬ Misled w v := fun h => by simpa using hover.2 h
      exact ((hf a).overflow v hv).trans
        (misled_trans hasked.replies ((hf a).asks v).replies hnot).symm

/-- The hour left to the clock is still there after a look at the world. -/
theorem robust_get_bind {f : World → Action α} (ha : Asks (get >>= f))
    (hf : ∀ v, Roomy v → Robust (f v)) : Robust (get >>= f) where
  asks := ha
  overflow w hw := by
    rw [Effect.run_bind, Effect.run_get]
    exact (hf w hw).overflow w hw

theorem quiet_of_run_eq_ok {x : Action α}
    (h : ∀ w, ∃ a v, Effect.run x w = (.ok a, v) ∧ v.network = w.network) : Quiet x := by
  intro w
  obtain ⟨a, v, hrun, hnet⟩ := h w
  rw [hrun]
  exact ⟨by simp, hnet⟩

theorem quiet_fail (f : Failure) : Quiet (Action.fail f : Action α) :=
  fun _ => ⟨by simp [Action.fail], rfl⟩

theorem quiet_ofResult (r : Except Failure α) : Quiet (Action.ofResult r) := by
  intro w
  rw [run_ofResult]
  cases r <;> simp

theorem robust_fail (f : Failure) : Robust (Action.fail f : Action α) :=
  (asks_fail f).robust (quiet_fail f)

theorem robust_pure (a : α) : Robust (pure a : Action α) :=
  (asks_pure a).robust (quiet_of_run_eq_ok fun _ => ⟨_, _, rfl, rfl⟩)

theorem robust_ofResult (r : Except Failure α) : Robust (Action.ofResult r) :=
  (asks_ofResult r).robust (quiet_ofResult r)

theorem robust_draw (n : Nat) : Robust (Action.draw n) :=
  (asks_draw n).robust (quiet_of_run_eq_ok fun _ => ⟨_, _, rfl, rfl⟩)

theorem robust_print (line : String) : Robust (Action.print line) :=
  (asks_print line).robust (quiet_of_run_eq_ok fun _ => ⟨_, _, rfl, rfl⟩)

theorem robust_browse (address : String) (respond : List (List UInt8) → α × String) :
    Robust (Action.browse address respond) :=
  (asks_browse address respond).robust (quiet_of_run_eq_ok fun _ => ⟨_, _, rfl, rfl⟩)

/-! ## Getting new credentials -/

/-- Who asks an endpoint is misled exactly by a response with a lifetime that cannot
be added. -/
theorem misled_of_response {uri : String} {ps : Params} {r : TokenResponse}
    (h : Effect.run (requestToken uri ps) w = (.ok r, v)) :
    Misled w v ↔ ∃ lifetime ∈ r.expiresIn, Credentials.longestLifetime < lifetime := by
  obtain ⟨-, status, body, hreplies, hread⟩ := run_requestToken_eq_ok h
  rw [misled_iff hreplies]
  constructor
  · rintro ⟨status', body', r', lifetime, heq, hread', hl, hlong⟩
    obtain ⟨rfl, rfl⟩ := Http.Reply.answer.inj heq
    obtain rfl : r = r' := Except.ok.inj (hread.symm.trans hread')
    exact ⟨lifetime, hl, hlong⟩
  · rintro ⟨lifetime, hl, hlong⟩
    exact ⟨status, body, r, lifetime, rfl, hread, hl, hlong⟩

theorem not_misled_of_error {uri : String} {ps : Params} {e : Stop}
    (h : Effect.run (requestToken uri ps) w = (.error e, v)) : e ≠ .overflow ∧ ¬ Misled w v := by
  rcases hu : Url.parse uri with e' | url
  · simp only [requestToken, hu] at h
    cases h
    exact ⟨by simp, not_misled rfl⟩
  · rw [run_requestToken hu] at h
    obtain ⟨e', hs⟩ | ⟨q, shown, secure, y, rest, -, hr, hs⟩ :=
      send_cases w.network (postOf url ps)
    · simp only [hs] at h
      cases h
      exact ⟨by simp, not_misled rfl⟩
    · simp only [hs] at h
      cases y with
      | dropped =>
        cases h
        refine ⟨by simp, ?_⟩
        rw [misled_iff hr]
        rintro ⟨status, body, r, lifetime, heq, -⟩
        cases heq
      | answer status body =>
        simp only [outcome] at h
        obtain ⟨hread, rfl⟩ := Prod.mk.inj h
        cases hanswer : readAnswer status body with
        | ok r => simp [hanswer] at hread
        | error f =>
          rw [hanswer] at hread
          cases hread
          refine ⟨by simp, ?_⟩
          rw [misled_iff hr]
          rintro ⟨status', body', r, lifetime, heq, hok, -⟩
          obtain ⟨rfl, rfl⟩ := Http.Reply.answer.inj heq
          cases hanswer.symm.trans hok

theorem robust_grant (uri : String) (ps : Params) (known : Credentials) :
    Robust (grant uri ps known) where
  asks := asks_grant uri ps known
  overflow w _ := by
    rw [run_grant]
    rcases hrun : Effect.run (requestToken uri ps) w with ⟨e | r, v⟩
    · obtain ⟨he, hnot⟩ := not_misled_of_error hrun
      exact iff_of_false (by simpa using he) hnot
    · cases hc : r.credentials? known v.clock with
      | none =>
        simp only [hc, true_iff]
        exact (misled_of_response hrun).2 (TokenResponse.credentials?_eq_none.1 hc)
      | some c =>
        simp only [hc]
        refine iff_of_false (by simp) fun h => ?_
        rw [TokenResponse.credentials?_eq_none.2 ((misled_of_response hrun).1 h)] at hc
        cases hc

theorem robust_refresh (c : Credentials) : Robust (refresh c) := by
  unfold refresh
  split
  · exact robust_grant _ _ _
  · exact robust_fail _

theorem robust_randomText (n : Nat) : Robust (randomText n) := by
  unfold randomText
  exact (robust_draw n).bind fun _ => robust_pure _

theorem robust_get : Robust (get : Action World) :=
  asks_get.robust (quiet_of_run_eq_ok fun _ => ⟨_, _, rfl, rfl⟩)

theorem robust_drawConsent (secrets : ClientSecrets) : Robust (drawConsent secrets) := by
  unfold drawConsent
  apply robust_get.bind
  intro w
  apply (robust_randomText 32).bind
  intro verifier
  exact (robust_randomText 16).bind fun state => robust_pure _

theorem robust_askUser (secrets : ClientSecrets) : Robust (askUser secrets) := by
  unfold askUser
  apply (robust_drawConsent secrets).bind
  intro consent
  apply (robust_ofResult consent.url).bind
  intro url
  apply (robust_print (consentNotice url)).bind
  intro _
  apply (robust_browse url.text (respond consent.state)).bind
  intro answer
  exact (robust_ofResult answer).bind fun code => robust_grant _ _ _

/-- While there is an hour left to the clock an assertion does not overflow. -/
theorem signedAssertion_ne_overflow {now : Instant}
    (h : (now.add? ServiceAccountKey.lifetime).isSome = true) (k : ServiceAccountKey)
    (scope : String) : k.signedAssertion scope now ≠ .error .overflow := by
  obtain ⟨expires, hexpires⟩ := Option.isSome_iff_exists.1 h
  simp only [ServiceAccountKey.signedAssertion, hexpires]
  rcases k.signature (k.signedText scope now.seconds expires.seconds) with f | bs
  · simp [bind, Except.bind]
  · simp [bind, Except.bind, pure, Except.pure]

theorem robust_signIn (k : ServiceAccountKey) : Robust (AuthStrategy.signIn k) := by
  refine robust_get_bind (asks_signIn k) fun v hv => ?_
  have hassertion := signedAssertion_ne_overflow hv k readonlyScope
  have hquiet : Quiet (Action.ofOutcome (k.signedAssertion readonlyScope v.clock)) := by
    intro w
    rcases hr : k.signedAssertion readonlyScope v.clock with e | assertion
    · exact ⟨fun he => hassertion (hr.trans he), rfl⟩
    · exact ⟨by simp [Action.ofOutcome], rfl⟩
  exact ((asks_ofOutcome _).robust hquiet).bind fun assertion => robust_grant _ _ _

/-- Getting new credentials overflows only when misled, whatever the strategy. -/
theorem robust_acquire (a : AuthStrategy) : Robust a.acquire := by
  unfold AuthStrategy.acquire
  cases a with
  | interactive path =>
    apply robust_get.bind
    intro w
    exact (robust_ofResult _).bind robust_askUser
  | refreshToken clientId clientSecret token tokenUri =>
    exact robust_refresh (AuthStrategy.seed clientId clientSecret token tokenUri)
  | serviceAccount path =>
    apply robust_get.bind
    intro w
    exact (robust_ofResult _).bind robust_signIn

namespace Provider

variable {p : Provider}

theorem robust_attempt {x : Action α} (hx : Robust x) : Robust (attempt x) where
  asks := asks_attempt hx.asks
  overflow w hw := by
    have hover := hx.overflow w hw
    rw [run_attempt]
    generalize Effect.run x w = y at hover ⊢
    rcases y with ⟨(f | _) | a, v⟩ <;> simpa using hover

theorem robust_supply (ha : Robust p.acquire) (o : Option Credentials) : Robust (p.supply o) := by
  cases o with
  | none => exact ha
  | some c =>
    simp only [supply]
    split
    · refine (robust_attempt (robust_refresh c)).bind fun r => ?_
      cases r with
      | error f => exact ha
      | ok c => exact robust_pure c
    · exact ha

end Provider

/-! ## Keeping credentials -/

theorem Quiet.bind {x : Action α} {f : α → Action β} (hx : Quiet x) (hf : ∀ a, Quiet (f a)) :
    Quiet (x >>= f) := by
  intro w
  have h := hx w
  rw [Effect.run_bind]
  generalize Effect.run x w = y at h ⊢
  obtain ⟨e | a, v⟩ := y
  · exact ⟨by simpa using h.1, h.2⟩
  · exact ⟨(hf a v).1, (hf a v).2.trans h.2⟩

theorem quiet_changeFiles (op : FileTree → Except FileFault FileTree) :
    Quiet (Action.changeFiles op) := by
  intro w
  rw [Action.run_changeFiles]
  cases op w.files <;> simp

theorem quiet_alterFiles (op : FileTree → Except FileFault Unit × FileTree) :
    Quiet (Action.alterFiles op) := by
  intro w
  rw [Action.run_alterFiles]
  cases (op w.files).1 <;> simp

theorem Store.quiet_save (s : Store) (c : Credentials) : Quiet (s.save c) := by
  cases s with
  | file path =>
    apply (quiet_alterFiles _).bind
    intro _
    exact (quiet_changeFiles _).bind fun _ => quiet_changeFiles _
  | memory => exact quiet_of_run_eq_ok fun _ => ⟨_, _, rfl, rfl⟩

namespace Provider

variable {p : Provider}

theorem quiet_keep (p : Provider) (c : Credentials) : Quiet (p.keep c) := by
  unfold keep
  exact (p.store.quiet_save c).bind fun _ => quiet_of_run_eq_ok fun _ => ⟨_, _, rfl, rfl⟩

theorem run_supply_keep (ha : Robust p.acquire) (o : Option Credentials) (hw : Roomy w) :
    (Effect.run (p.supply o >>= p.keep) w).1 = .error .overflow ↔
      Misled w (Effect.run (p.supply o >>= p.keep) w).2 := by
  have hover := (robust_supply ha o).overflow w hw
  rw [Effect.run_bind]
  generalize Effect.run (p.supply o) w = y at hover ⊢
  obtain ⟨e | c, v⟩ := y
  · simpa using hover
  · obtain ⟨hne, hnet⟩ := quiet_keep p c v
    simp only
    refine iff_of_false hne fun hmisled => ?_
    rw [Misled, hnet] at hmisled
    simpa using hover.2 hmisled

/-! ## Calls -/

theorem run_credentials_overflow_iff (ha : Robust p.acquire) (hw : Roomy w) :
    (Effect.run p.credentials w).1 = .error .overflow ↔
      (∃ k, p.store.kept w = .ok (some k) ∧ k.Undatable) ∨
        Misled w (Effect.run p.credentials w).2 := by
  rcases kept_cases p w with ⟨f, hk⟩ | ⟨k, hk, hv⟩ | ⟨o, ho⟩
  · simp [run_credentials, hk, not_misled]
  · rw [run_credentials, hk]
    rcases hvalid : k.valid? w.clock with _ | _ | _
    · simp [hvalid, Credentials.valid?_eq_none.1 hvalid]
    · exact absurd hvalid hv
    · have hk' : ¬ k.Undatable := fun hundatable => by
        cases hvalid.symm.trans (Credentials.valid?_eq_none.2 hundatable)
      simp [hvalid, hk', not_misled]
  · have hnot : ¬ ∃ k, p.store.kept w = .ok (some k) ∧ k.Undatable := by
      rintro ⟨k, hk, hundatable⟩
      have hko : k ∈ o := by simpa using ho.1.symm.trans hk
      cases (ho.2 k hko).symm.trans (Credentials.valid?_eq_none.2 hundatable)
    rw [run_credentials_of_stale ho, run_supply_keep ha o hw]
    simp only [hnot, false_or]

/-- A call overflows exactly when the expiry of what is kept, less the margin, has
no date, or when the last answer used has a lifetime too long to be added. What
it gives has an expiry that can be checked; after an answer that is the lifetime
from now on, or none when that has no date. -/
theorem credentials_overflow_iff (s : Store) (a : AuthStrategy) (hw : w.clock.Representable)
    (hearly : Instant.first + Credentials.expiryMargin ≤ w.clock.seconds)
    (hlate : w.clock.seconds + ServiceAccountKey.lifetime ≤ Instant.last) :
    match Effect.run (Provider.mk s a.acquire).credentials w with
    | (result, w') =>
      (result = .error .overflow ↔
        (∃ k, s.kept w = .ok (some k) ∧ k.Undatable) ∨ Misled w w') ∧
      ∀ c, result = .ok c → ¬ c.Undatable ∧ (s.kept w = .ok (some c) ∨
        ∃ used status body r,
          w.network.replies = used ++ .answer status body :: w'.network.replies ∧
          readAnswer status body = .ok r ∧
          c.expiresAt = r.expiresIn.bind fun lifetime => w.clock.add? lifetime) := by
  have hroomy : Roomy w := by
    refine Instant.add?_isSome hw.inRange ?_ hlate
    have := (Instant.inRange_iff.1 hw.inRange).1
    simp only [ServiceAccountKey.lifetime]
    omega
  rcases h : Effect.run (Provider.mk s a.acquire).credentials w with ⟨result, w'⟩
  constructor
  · have hover := run_credentials_overflow_iff (p := Provider.mk s a.acquire) (robust_acquire a)
      hroomy
    rwa [h] at hover
  · rintro c rfl
    obtain ⟨hkept, hvalid, -⟩ | ⟨o, v, -, hs, hsave⟩ := run_credentials_eq_ok h
    · refine ⟨fun hc => ?_, .inl hkept⟩
      rw [Credentials.valid?_eq_none.2 hc] at hvalid
      cases hvalid
    · obtain ⟨used, status, body, r, known, hreplies, hread, hc⟩ :=
        grants_supply (grants_acquire a) o w c v hs
      have hrep := TokenResponse.credentials?_representable hw hc
      rw [← (Store.run_save_eq_ok hrep hsave).2.2] at hreplies
      refine ⟨TokenResponse.not_undatable hearly hc, .inr ?_⟩
      obtain ⟨-, rfl⟩ := TokenResponse.credentials?_eq_some.1 hc
      exact ⟨used, status, body, r, hreplies, hread, rfl⟩

def lifetimeAnswer (lifetime : Nat) : String :=
  (Json.object [("access_token", .string "t"), ("expires_in", .number (.int lifetime))]).text

def lifetimeWorld (lifetime : Nat) : World where
  clock := ⟨0, 0⟩
  network := { replies := [.answer 200 (lifetimeAnswer lifetime)] }

theorem readAnswer_lifetimeAnswer {lifetime : Nat} (h : lifetime < UInt64.size) :
    readAnswer 200 (lifetimeAnswer lifetime) =
      .ok { accessToken := "t", expiresIn := some lifetime } := by
  refine readAnswer_of_reads ?_
  refine Schema.Held.reads_record (r := ("t", some lifetime, none, none, ())) ?_ _ _
  refine .found (by decide) Schema.reads_string ?_
  refine .found (by decide) (Schema.reads_some_natural h) ?_
  exact .absent (by decide) rfl (.absent (by decide) rfl .nil)

theorem run_credentials_oversized : ∃ w',
    Effect.run (Provider.mk .memory localStrategy.acquire).credentials
      (lifetimeWorld (Credentials.longestLifetime + 1)) = (.error .overflow, w') := by
  obtain ⟨ps, hgrant⟩ := acquire_local
  obtain ⟨n, hn⟩ := run_requestToken_local
    (w := lifetimeWorld (Credentials.longestLifetime + 1)) rfl
    (readAnswer_lifetimeAnswer (by decide)) ps
  refine ⟨{ lifetimeWorld (Credentials.longestLifetime + 1) with network := n }, ?_⟩
  have hstale : (Provider.mk .memory localStrategy.acquire).Stale
      (lifetimeWorld (Credentials.longestLifetime + 1)) none := ⟨rfl, by simp⟩
  rw [run_credentials_of_stale hstale, Effect.run_bind]
  simp only [supply, hgrant, run_grant, hn]
  rw [TokenResponse.credentials?_eq_none.2 ⟨_, rfl, Nat.lt_succ_self _⟩]

theorem credentials_overflow_iff_oversized :
    let w := lifetimeWorld (Credentials.longestLifetime + 1)
    w.clock.Representable ∧ Instant.first + Credentials.expiryMargin ≤ w.clock.seconds ∧
      w.clock.seconds + ServiceAccountKey.lifetime ≤ Instant.last ∧ ∃ w',
        Effect.run (Provider.mk .memory localStrategy.acquire).credentials w =
          (.error .overflow, w') ∧ Misled w w' := by
  have hw : (⟨0, 0⟩ : Instant).Representable := by decide
  obtain ⟨w', h⟩ := run_credentials_oversized
  refine ⟨hw, by decide, by decide, w', h, ?_⟩
  have hover := credentials_overflow_iff (w := lifetimeWorld (Credentials.longestLifetime + 1))
    .memory localStrategy hw (by decide) (by decide)
  rw [h] at hover
  obtain ⟨k, hk, -⟩ | hmisled := hover.1.1 rfl
  · cases hk
  · exact hmisled

/-- Credentials that expire in the first second that has a date. -/
def firstExpiry : Credentials where
  accessToken := "t"
  expiresAt := some ⟨Instant.first, 0⟩

/-- A world where these are kept in a file. -/
def firstExpiryWorld : World where
  clock := ⟨0, 0⟩
  files := cachedTree firstExpiry

/-- A file with such credentials ends the program in an ordinary second. -/
theorem run_credentials_firstExpiry :
    firstExpiryWorld.clock.Representable ∧
      Instant.first + Credentials.expiryMargin ≤ firstExpiryWorld.clock.seconds ∧
      firstExpiryWorld.clock.seconds + ServiceAccountKey.lifetime ≤ Instant.last ∧
      (Effect.run (Provider.mk (.file "token.json") localStrategy.acquire).credentials
        firstExpiryWorld).1 = .error .overflow := by
  have hc : firstExpiry.Representable := by
    intro t ht
    obtain rfl : _ = t := Option.some.inj ht
    decide
  have hk : Store.kept (.file "token.json") firstExpiryWorld = .ok (some firstExpiry) :=
    loadFile_cachedTree hc []
  have hundatable : firstExpiry.Undatable := ⟨by decide, _, rfl, by decide⟩
  refine ⟨by decide, by decide, by decide, ?_⟩
  rw [run_credentials, hk]
  simp only [Credentials.valid?_eq_none.2 hundatable]

end Provider

end SheetExport.Auth
