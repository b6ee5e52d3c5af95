import SheetExport.Auth.Grant
import SheetExport.Proofs.Json.Decode
import SheetExport.Proofs.Time

/-!
# Credentials

Credentials are read back as they were stored, and valid as long as the response they
come from says.
-/

/-!
## Credentials that were stored

The stored form of credentials is read as the same credentials, whatever the
texts in them and whichever of them are missing: `parseJson_prettyText`.
-/

namespace SheetExport.Auth.Credentials

open Json Schema
open Time (Instant Timestamp.text Timestamp.parse_chars)

/-- Credentials whose expiry a timestamp can write. -/
def Representable (c : Credentials) : Prop := ∀ t ∈ c.expiresAt, t.Representable

theorem reads_timestamp {t : Instant} (ht : t.Representable) {d : Nat} :
    Reads (timestamp.ofJson d) (.string (Timestamp.text t)) t := by
  refine reads_text ?_
  rw [Timestamp.text, String.toList_ofList, Timestamp.parse_chars ht]

section

variable {δ σ : Type} {d : Nat} {name : String} {rest : Fields δ σ} {ms : List (String × Json)}
  {r : σ}

theorem held_optionalMember {α : Type} {s : Schema α} {f : α → String} {o : Option α}
    (hn : name ∉ rest.names) (h : ∀ x ∈ o, Reads (s.ofJson d) (.string (f x)) x)
    (hms : Held d rest ms r) :
    Held d (.cons name (.always none) (.optional s) rest) (optionalMember name (o.map f) ++ ms)
      (o, r) := by
  cases o with
  | none => exact .absent hn rfl hms
  | some x => exact .found hn (reads_some (h x rfl)) hms

theorem held_optionalString {o : Option String} (hn : name ∉ rest.names) (hms : Held d rest ms r) :
    Held d (.cons name (.always none) (.optional Schema.string) rest)
      (optionalMember name o ++ ms) (o, r) := by
  simpa using held_optionalMember (f := id) (o := o) hn (fun _ _ => reads_string) hms

end

theorem forall₂_reads_string (xs : List String) {d : Nat} :
    List.Forall₂ (Reads (Schema.string.ofJson d)) (xs.map Json.string) xs := by
  induction xs with
  | nil => exact .nil
  | cons x xs ih => exact .cons reads_string ih

theorem reads_toJson {c : Credentials} (hc : c.Representable) {d : Nat} :
    Reads (schema.ofJson (d + 2)) c.toJson c := by
  unfold schema toJson
  rw [← List.append_nil (optionalMember "token_uri" c.tokenUri)]
  simp only [List.cons_append, List.append_assoc]
  refine Held.reads_record (r := (c.accessToken, c.refreshToken, c.expiresAt, c.scopes, c.clientId,
    c.clientSecret, c.tokenUri, ())) ?_ _ _
  refine .found (by decide) reads_string ?_
  refine held_optionalString (by decide) ?_
  refine held_optionalMember (by decide) (fun t ht => reads_timestamp (hc t ht)) ?_
  refine .found (by decide) (reads_list (forall₂_reads_string c.scopes)) ?_
  refine held_optionalString (by decide) ?_
  refine held_optionalString (by decide) ?_
  exact held_optionalString (by decide) .nil

/-- Stored credentials are read as what was stored. -/
theorem parseJson_prettyText {c : Credentials} (hc : c.Representable) :
    schema.parseJson c.toJson.prettyText = .ok c :=
  Schema.parseJson_prettyText (reads_toJson hc)

end SheetExport.Auth.Credentials

/-!
## What a response makes of credentials

The credentials after a response can be stored, and they are valid exactly when
the response is of use: it has a token, and one that lasts.
-/

namespace SheetExport.Auth.TokenResponse

open Time (Instant)

variable {r : TokenResponse} {known c : Credentials} {now : Instant}

/-- The response has a token that outlasts the margin, or whose expiry has no
date or is not given. -/
def Lasting (r : TokenResponse) (now : Instant) : Prop :=
  r.accessToken ≠ "" ∧
    ∀ lifetime ∈ r.expiresIn, now.add? lifetime = none ∨ Credentials.expiryMargin < lifetime

/-- There are credentials after a response if its lifetime can be added: what
was known, with what the response carries in its place. -/
theorem credentials?_eq_some : r.credentials? known now = some c ↔
    (∀ lifetime ∈ r.expiresIn, lifetime ≤ Credentials.longestLifetime) ∧
      c = { known with
        accessToken := r.accessToken
        refreshToken := r.refreshToken <|> known.refreshToken
        expiresAt := r.expiresIn.bind fun lifetime => now.add? lifetime
        scopes := r.scopes known.scopes } := by
  unfold credentials?
  cases r.expiresIn with
  | none => simp [eq_comm]
  | some lifetime => simp [Credentials.expiringIn?, eq_comm]

theorem exists_credentials?
    (h : ∀ lifetime ∈ r.expiresIn, lifetime ≤ Credentials.longestLifetime)
    (known : Credentials) (now : Instant) : ∃ c, r.credentials? known now = some c :=
  ⟨_, credentials?_eq_some.2 ⟨h, rfl⟩⟩

theorem credentials?_eq_none : r.credentials? known now = none ↔
    ∃ lifetime ∈ r.expiresIn, Credentials.longestLifetime < lifetime := by
  constructor
  · intro h
    by_contra hlong
    simp only [not_exists, not_and, Nat.not_lt] at hlong
    obtain ⟨c, hc⟩ := exists_credentials? hlong known now
    cases h.symm.trans hc
  · rintro ⟨lifetime, hl, hlong⟩
    refine Option.eq_none_iff_forall_ne_some.2 fun c hc => ?_
    have hle := (credentials?_eq_some.1 hc).1 lifetime hl
    omega

theorem credentials?_representable (hnow : now.Representable)
    (h : r.credentials? known now = some c) : c.Representable := by
  obtain ⟨-, rfl⟩ := credentials?_eq_some.1 h
  intro t ht
  obtain ⟨lifetime, -, ht⟩ := Option.bind_eq_some_iff.1 ht
  exact hnow.add? ht

/-- Credentials are valid after a response exactly when it has a lasting token. -/
theorem valid?_credentials? (hnow : now.Representable) (h : r.credentials? known now = some c) :
    c.valid? now = some true ↔ r.Lasting now := by
  obtain ⟨-, rfl⟩ := credentials?_eq_some.1 h
  unfold Lasting Credentials.valid?
  by_cases ht : r.accessToken = ""
  · simp [ht]
  · simp only [ht, if_false, ne_eq, not_false_eq_true, true_and, Credentials.expired?]
    cases r.expiresIn with
    | none => simp
    | some lifetime =>
      cases ha : now.add? lifetime with
      | none => simp [ha]
      | some t =>
        have hmargin := Instant.add?_margin hnow (by decide : Credentials.expiryMargin ≠ 0) ha
        simp only [Option.bind_some, ha, Option.map_map, Option.mem_def, Option.some.injEq,
          forall_eq', reduceCtorEq, false_or]
        rw [← hmargin]
        cases t.add? (-(Credentials.expiryMargin : Int)) <;> simp

end SheetExport.Auth.TokenResponse

/-!
## How long a token is valid

Credentials with a lifetime are valid as long as there is more than the margin
left of it, and for good when their expiry has no date: `validity_window` gives
the instants to the nanosecond. Later instants and shorter lifetimes only ever
take validity away.
-/

namespace SheetExport.Auth.Credentials

open Time (Instant)
open Time.Instant (first inRange nanosPerSecond)

variable {c : Credentials} {now t : Instant} {e : Nat}

/-- The instant from which a token with a lifetime counts as expired. -/
def limit (now : Instant) (e : Nat) : Instant := ⟨now.seconds + e - expiryMargin, now.nanos⟩

/-- There is a token, and the end of its lifetime has no date or is more than the
margin away. -/
def Usable (c : Credentials) (now : Instant) (e : Nat) (t : Instant) : Prop :=
  c.accessToken ≠ "" ∧ (inRange (now.seconds + e) = false ∨
    t.sinceEpoch < now.sinceEpoch + ((e : Int) - expiryMargin) * nanosPerSecond)

instance (c : Credentials) (now : Instant) (e : Nat) (t : Instant) :
    Decidable (c.Usable now e t) := inferInstanceAs (Decidable (_ ∧ (_ ∨ _)))

theorem sinceEpoch_limit :
    (limit now e).sinceEpoch = now.sinceEpoch + ((e : Int) - expiryMargin) * nanosPerSecond := by
  simp only [limit, Instant.sinceEpoch, nanosPerSecond, expiryMargin]
  omega

theorem limit_le_limit {e' : Nat} (h : e ≤ e') : (limit now e).le (limit now e') = true := by
  by_cases hlt : e = e'
  · simp [hlt, Instant.le]
  · have hseconds : (limit now e).seconds < (limit now e').seconds := by
      simp only [limit]
      omega
    simp [Instant.le, hseconds]

theorem expired?_add? (hnow : now.inLeap = false) (hfirst : first + expiryMargin ≤ now.seconds + e)
    (c : Credentials) (t : Instant) :
    ({ c with expiresAt := now.add? e } : Credentials).expired? t =
      some (inRange (now.seconds + e) && (limit now e).le t) := by
  rw [expired?, Instant.add?_of_not_inLeap hnow]
  cases hend : inRange (now.seconds + e) with
  | false => rfl
  | true =>
    have hlimit : inRange (now.seconds + e + -(expiryMargin : Int)) = true := by
      rw [Instant.inRange_iff] at hend ⊢
      omega
    have hend : Instant.inLeap ⟨now.seconds + e, now.nanos⟩ = false := hnow
    simp only [if_true, Instant.add?_of_not_inLeap hend, hlimit, Option.map_some, Bool.true_and]
    rfl

theorem valid?_add? (hnow : now.inLeap = false) (hfirst : first + expiryMargin ≤ now.seconds + e)
    (c : Credentials) (t : Instant) :
    ({ c with expiresAt := now.add? e } : Credentials).valid? t =
      some (c.accessToken != "" && !(inRange (now.seconds + e) && (limit now e).le t)) := by
  rw [valid?, expired?_add? hnow hfirst]
  by_cases htoken : c.accessToken = ""
  · simp [htoken]
  · simp [htoken]

/-- Credentials with a lifetime are valid exactly while they are usable. Once they
are not they never are again, and with a longer lifetime they are valid whenever
they are with a shorter one. -/
theorem validity_window (hnow : now.inLeap = false) (he : e ≤ longestLifetime)
    (hfirst : first + expiryMargin ≤ now.seconds + e) (c : Credentials) :
    ∃ d, c.expiringIn? now e = some d ∧
      (∀ t, t.inLeap = false → ∃ b, d.valid? t = some b ∧ (b = true ↔ c.Usable now e t)) ∧
      (∀ t u, t.le u = true → d.valid? t = some false → d.valid? u = some false) ∧
      ∀ e' d', e ≤ e' → c.expiringIn? now e' = some d' →
        ∀ t, d.valid? t = some true → d'.valid? t = some true := by
  refine ⟨_, if_pos he, fun t ht => ⟨_, valid?_add? hnow hfirst c t, ?_⟩, fun t u htu => ?_,
    fun e' d' hee' hd' t => ?_⟩
  · have hlimit : (limit now e).inLeap = false := hnow
    have hle := Instant.le_iff_sinceEpoch hlimit ht
    rw [sinceEpoch_limit] at hle
    rw [Usable, ← Int.not_le, ← hle]
    simp
  · rw [valid?_add? hnow hfirst, valid?_add? hnow hfirst]
    have hlater : (limit now e).le t = true → (limit now e).le u = true :=
      fun h => Instant.le_trans h htu
    simp only [Option.some.injEq, Bool.and_eq_false_iff, Bool.not_eq_false', Bool.and_eq_true]
    exact Or.imp_right (And.imp_right hlater)
  · obtain ⟨-, hd'⟩ := Option.ite_none_right_eq_some.1 hd'
    obtain rfl := Option.some.inj hd'
    have hfirst' : first + expiryMargin ≤ now.seconds + e' := by omega
    -- an end that is later and still has a date leaves the earlier one its date
    have hrange : inRange (now.seconds + e') = true → inRange (now.seconds + e) = true := by
      simp only [Instant.inRange_iff]
      omega
    have hlimit : (limit now e').le t = true → (limit now e).le t = true :=
      Instant.le_trans (limit_le_limit hee')
    rw [valid?_add? hnow hfirst, valid?_add? hnow hfirst']
    simp only [Option.some.injEq, Bool.and_eq_true, Bool.not_eq_true', ← Bool.not_eq_true]
    exact And.imp_right (mt (And.imp hrange hlimit))

/-- A token of an hour, and one of the longest lifetime, which has no expiry. -/
theorem validity_window_hour :
    Instant.inLeap ⟨1000, 500000000⟩ = false ∧ 3600 ≤ longestLifetime ∧
    first + expiryMargin ≤ 1000 + (3600 : Nat) ∧
    ∃ d, expiringIn? { accessToken := "t" } ⟨1000, 500000000⟩ 3600 = some d ∧
      d.valid? ⟨4540, 499999999⟩ = some true ∧ d.valid? ⟨4540, 500000000⟩ = some false ∧
      d.valid? ⟨9000, 0⟩ = some false ∧
      ∃ d', expiringIn? { accessToken := "t" } ⟨1000, 500000000⟩ longestLifetime = some d' ∧
        d'.expiresAt = none ∧ d'.valid? ⟨4540, 499999999⟩ = some true := by
  have hnow : Instant.inLeap ⟨1000, 500000000⟩ = false := by decide
  have he : 3600 ≤ longestLifetime := by decide
  have hfirst : first + expiryMargin ≤ 1000 + (3600 : Nat) := by decide
  obtain ⟨d, hd, hvalid, hlater, hlonger⟩ := validity_window hnow he hfirst { accessToken := "t" }
  obtain ⟨b, hb, hbefore⟩ := hvalid ⟨4540, 499999999⟩ (by decide)
  obtain ⟨b', hb', hfrom⟩ := hvalid ⟨4540, 500000000⟩ (by decide)
  obtain rfl : b = true := hbefore.2 (by decide)
  obtain rfl : b' = false := by simpa using mt hfrom.1 (by decide)
  exact ⟨hnow, he, hfirst, d, hd, hb, hb', hlater _ _ (by decide) hb', _, rfl, by decide,
    hlonger _ _ he rfl _ hb⟩

end SheetExport.Auth.Credentials
