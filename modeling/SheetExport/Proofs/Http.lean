import SheetExport.Http
import SheetExport.Proofs.Effect

/-!
# Requests of drafts

What becomes of a draft depends on the address it is sent to, which is its own
without the user and with the parameters, and on what headers can hold. Two
addresses that differ in their paths alone are written differently. An access
token that a header can hold changes nothing but the authorization of a request:
`Network.Mirrored.send`.
-/

namespace SheetExport.Http

namespace Draft

variable {d : Draft} {r : Request} {shown : String} {secure : Bool}

/-- The address a draft is sent to, with its parameters. -/
def sent (d : Draft) : Url :=
  if d.query = [] then (takeUser d.url).2 else (takeUser d.url).2.addPairs d.query

/-- An address of the web to which requests can be sent. -/
def isReachable (u : Url) : Bool :=
  (u.scheme = "https".toList || u.scheme = "http".toList) &&
    (isSendable u && Text.Utf8.size u.chars < urlLimit)

theorem request_eq (d : Draft) : d.request =
    if d.url.host?.isNone then .error (.refused d.url.text)
    else if !d.authorization.all isHeader then .error .malformed
    else if !isReachable d.sent then .error (.refused d.sent.text)
    else .ok (⟨d.verb, target d.sent, (takeUser d.url).1 ++ d.authorization, d.contentType, d.body⟩,
      d.sent.text, d.sent.scheme = "https".toList) := by
  by_cases hhost : d.url.host?.isNone = true
  · simp only [request, hhost, if_true]
    rfl
  · by_cases hheader : (!d.authorization.all isHeader) = true
    · simp only [request, hhost, hheader, if_true]
      rfl
    · simp only [request, hhost, hheader, ← sent.eq_1]
      by_cases hsecure : d.sent.scheme = "https".toList <;>
        by_cases hplain : d.sent.scheme = "http".toList <;>
        by_cases hsend : isSendable d.sent = true <;>
        by_cases hsize : urlLimit ≤ Text.Utf8.size d.sent.chars <;>
        simp [isReachable, hsecure, hplain, hsend, hsize, bind, Except.bind, pure, Except.pure,
          throw, throwThe, MonadExceptOf.throw]

theorem request_eq_ok (h : d.request = .ok (r, shown, secure)) :
    d.url.authority.isSome ∧
      r = ⟨d.verb, target d.sent, (takeUser d.url).1 ++ d.authorization, d.contentType,
        d.body⟩ := by
  rw [request_eq] at h
  split at h
  · cases h
  · next hhost =>
    have hauthority : d.url.authority.isSome := by
      cases ha : d.url.authority with
      | some a => rfl
      | none => simp [Url.host?, ha] at hhost
    split at h
    · cases h
    · split at h
      · cases h
      · exact ⟨hauthority, (Prod.mk.inj (Except.ok.inj h)).1.symm⟩

/-! ## Bearers -/

theorem isHeader_append (s t : String) : isHeader (s ++ t) = (isHeader s && isHeader t) := by
  rw [isHeader, String.toList_append, List.all_append]
  rfl

/-- The draft with an access token. -/
def bear (d : Draft) (token : String) : Draft :=
  { d with authorization := d.authorization ++ ["Bearer " ++ token] }

end Draft

def Request.bear (r : Request) (token : String) : Request :=
  { r with authorization := r.authorization ++ ["Bearer " ++ token] }

namespace Draft

/-- A token that a header can hold decides nothing about a request and comes into
its authorization only. -/
theorem request_bear {token : String} (h : isHeader token = true) (d : Draft) :
    (d.bear token).request = d.request.map fun r => (r.1.bear token, r.2) := by
  have hbearer : isHeader ("Bearer " ++ token) = true := by
    rw [isHeader_append, h]
    decide
  have hheaders : (d.authorization ++ ["Bearer " ++ token]).all isHeader =
      d.authorization.all isHeader := by
    rw [List.all_append, List.all_cons, hbearer]
    exact Bool.and_true _
  have hsent : (d.bear token).sent = d.sent := rfl
  rw [request_eq, request_eq, hsent, bear]
  simp only [hheaders]
  split
  · rfl
  · split
    · rfl
    · split
      · rfl
      · simp only [Except.map, Request.bear, List.append_assoc]

/-! ## Users in addresses -/

theorem takeUser_of_anonymous {v : Url}
    (h : ∀ a, v.authority = some a → a.user = [] ∧ a.password = none) : takeUser v = ([], v) := by
  unfold takeUser
  cases ha : v.authority with
  | none => rfl
  | some a =>
    obtain ⟨huser, hpassword⟩ := h a ha
    have hempty : decoded? [] = some "" := by
      simp [decoded?, Url.percentDecode, Text.Utf8.decodeLossy, Text.Utf8.encode]
    simp [huser, hpassword, hempty]

/-! ## Paths of addresses -/

theorem takeUser_withPath (u : Url) (p : Url.Path) :
    takeUser { u with path := p } = ((takeUser u).1, { (takeUser u).2 with path := p }) := by
  obtain ⟨scheme, authority, path, query, fragment⟩ := u
  cases authority with
  | none => rfl
  | some a =>
    simp only [takeUser]
    cases decoded? a.user with
    | none => rfl
    | some name =>
      dsimp only
      split <;> rfl

theorem isSome_authority_takeUser {u : Url} (h : u.authority.isSome) :
    (takeUser u).2.authority.isSome := by
  unfold takeUser
  split
  · exact h
  · split
    · exact h
    · dsimp only
      split
      · exact h
      · rfl

/-- The path is read off an address as it is sent. -/
theorem chars_of_target {u : Url} {p q : Url.Path} {ps : List (String × String)}
    (ha : u.authority.isSome)
    (h : target ({ u with path := p }.addPairs ps) = target ({ u with path := q }.addPairs ps)) :
    p.chars = q.chars := by
  obtain ⟨a, ha⟩ := Option.isSome_iff_exists.1 ha
  have hchars := String.ofList_inj.1 h
  simpa [Url.chars, Url.stem, Url.guard, Url.addPairs, Url.after, ha] using hchars

end Draft

namespace Network

/-! ## Networks that differ by tokens -/

variable {n m : Network} {before : List Request} {user : List String} {t u : String}

/-- Two networks have the same replies to give and were sent the same requests
since they had `before`, but for the authorization: that of one user or of none,
and the token of each. -/
structure Mirrored (before : List Request) (user : List String) (t u : String) (n m : Network) :
    Prop where
  replies : m.replies = n.replies
  secure : m.secure = n.secure
  delivered : ∃ rs : List Request,
    n.delivered = before ++ rs.map (fun r => { r with authorization := user ++ ["Bearer " ++ t] }) ∧
    m.delivered = before ++ rs.map (fun r => { r with authorization := user ++ ["Bearer " ++ u] })

theorem Mirrored.refl (n : Network) : Mirrored n.delivered user t u n n :=
  ⟨rfl, rfl, [], (List.append_nil _).symm, (List.append_nil _).symm⟩

theorem Mirrored.deliver (h : Mirrored before user t u n m) {r : Request}
    (hr : r.authorization = user) (rest : List Reply) :
    Mirrored before user t u
      { n with replies := rest, delivered := n.delivered ++ [r.bear t] }
      { m with replies := rest, delivered := m.delivered ++ [r.bear u] } := by
  obtain ⟨rs, hn, hm⟩ := h.delivered
  refine ⟨rfl, h.secure, rs ++ [r], ?_, ?_⟩
  · simp only [hn, Request.bear, hr, List.map_append, List.map_cons, List.map_nil,
      List.append_assoc]
  · simp only [hm, Request.bear, hr, List.map_append, List.map_cons, List.map_nil,
      List.append_assoc]

/-- What is sent with either token is answered alike. -/
theorem Mirrored.send (h : Mirrored before user t u n m) {d : Draft}
    (hd : ∀ r, d.request = .ok r → r.1.authorization = user) (ht : Draft.isHeader t = true)
    (hu : Draft.isHeader u = true) :
    Effect.Agree (Mirrored before user t u) (n.send (d.bear t)) (m.send (d.bear u)) := by
  unfold Network.send
  rw [Draft.request_bear ht, Draft.request_bear hu]
  cases hrequest : d.request with
  | error e => exact ⟨rfl, h⟩
  | ok r =>
    obtain ⟨r, shown, secure⟩ := r
    have hr : r.authorization = user := hd _ hrequest
    have hsecure : (secure && !m.secure) = (secure && !n.secure) := by rw [h.secure]
    simp only [Except.map, hsecure, h.replies]
    split
    · exact ⟨rfl, h⟩
    · cases n.replies with
      | nil => exact ⟨rfl, h⟩
      | cons reply rest => cases reply <;> exact ⟨rfl, h.deliver hr rest⟩

end Network

end SheetExport.Http
