import SheetExport.Json.Reader
import SheetExport.Text.Quoted
import SheetExport.Time

/-!
# Credentials and grants

What gives access, how long, and what a response of the token endpoint makes of it.
-/

/-!
## Credentials

`Credentials` hold an access token and what is needed to get the next one.
They are valid while the token is not empty and does not expire within a
minute. `Credentials.schema` and `Credentials.toJson` are their stored form;
their outline does not show the secrets.
-/

namespace SheetExport.Auth

open Time (Instant Timestamp.parse Timestamp.text)
open Text (Outline)

/-- The scope that is asked for: reading spreadsheets. -/
def readonlyScope : String := "https://www.googleapis.com/auth/spreadsheets.readonly"

def defaultTokenUri : String := "https://oauth2.googleapis.com/token"

/-- An access token and what belongs to it. -/
structure Credentials where
  accessToken : String
  refreshToken : Option String := none
  expiresAt : Option Instant := none
  scopes : List String := []
  clientId : Option String := none
  clientSecret : Option String := none
  tokenUri : Option String := none
  deriving DecidableEq, Inhabited

namespace Credentials

/-- Seconds before its expiry from which a token counts as expired. -/
def expiryMargin : Nat := 60

/-- The longest lifetime in seconds that can be added to an instant. -/
def longestLifetime : Nat := 9223372036854775

/-- The credentials with a lifetime in seconds from now. An expiry without a
date is dropped. There is no answer for a lifetime beyond the longest. -/
def expiringIn? (c : Credentials) (now : Instant) (lifetime : Nat) : Option Credentials :=
  if lifetime ≤ longestLifetime then some { c with expiresAt := now.add? lifetime } else none

/-- The token expires within the margin. There is no answer if the expiry less
the margin has no date. -/
def expired? (c : Credentials) (now : Instant) : Option Bool :=
  match c.expiresAt with
  | none => some false
  | some t => (t.add? (-(expiryMargin : Int))).map fun limit => limit.le now

/-- There is a token and it does not expire within the margin. -/
def valid? (c : Credentials) (now : Instant) : Option Bool :=
  if c.accessToken = "" then some false else (c.expired? now).map not

/-- There is all that is needed to ask for a new access token. -/
def canRefresh (c : Credentials) : Bool :=
  c.refreshToken.isSome && c.clientId.isSome && c.tokenUri.isSome

def timestamp : Schema Instant :=
  .text "an RFC 3339 formatted date and time string" fun s =>
    match Timestamp.parse s.toList with
    | .ok t => .ok t
    | .error e => .error e.message

def schema : Schema Credentials :=
  .record "Credentials"
    (.cons "access_token" .required Schema.string <|
      .cons "refresh_token" (.always none) (.optional Schema.string) <|
      .cons "expires_at" (.always none) (.optional timestamp) <|
      .cons "scopes" (.always []) (.list Schema.string) <|
      .cons "client_id" (.always none) (.optional Schema.string) <|
      .cons "client_secret" (.always none) (.optional Schema.string) <|
      .cons "token_uri" (.always none) (.optional Schema.string) .nil)
    fun (accessToken, refreshToken, expiresAt, scopes, clientId, clientSecret, tokenUri, ()) =>
      ⟨accessToken, refreshToken, expiresAt, scopes, clientId, clientSecret, tokenUri⟩

/-- A member that is written only when there is a value. -/
def optionalMember (k : String) : Option String → List (String × Json)
  | some s => [(k, .string s)]
  | none => []

def toJson (c : Credentials) : Json :=
  .object <|
    ("access_token", .string c.accessToken) ::
    optionalMember "refresh_token" c.refreshToken ++
    optionalMember "expires_at" (c.expiresAt.map Timestamp.text) ++
    ("scopes", .array (c.scopes.map .string)) ::
    optionalMember "client_id" c.clientId ++
    optionalMember "client_secret" c.clientSecret ++
    optionalMember "token_uri" c.tokenUri

/-- What stands for a secret. -/
def redacted : Outline := .text "<redacted>"

def outline (c : Credentials) : Outline :=
  .openRecord "Credentials"
    [("access_token", redacted),
      ("refresh_token", .option (fun _ => redacted) c.refreshToken),
      ("expires_at", .option (fun t => .plain (Timestamp.text t)) c.expiresAt),
      ("scopes", .list (c.scopes.map .text)),
      ("client_id", .option .text c.clientId),
      ("token_uri", .option .text c.tokenUri)]

end Credentials

end SheetExport.Auth

/-!
## Grants

The token endpoint answers a grant with an access token and, as it likes, a
lifetime, a new refresh token and the scopes granted. `TokenResponse.credentials?`
puts these in the place of what was known before.
-/

namespace SheetExport.Auth

open Time (Instant)

/-- A successful answer of the token endpoint. -/
structure TokenResponse where
  accessToken : String
  expiresIn : Option Nat := none
  refreshToken : Option String := none
  scope : Option String := none
  deriving DecidableEq, Inhabited

/-- What the token endpoint says when it refuses. -/
structure TokenRefusal where
  error : String
  description : Option String := none
  deriving DecidableEq, Inhabited

namespace TokenResponse

def schema : Schema TokenResponse :=
  .record "TokenResponse"
    (.cons "access_token" .required Schema.string <|
      .cons "expires_in" (.always none) (.optional .natural) <|
      .cons "refresh_token" (.always none) (.optional Schema.string) <|
      .cons "scope" (.always none) (.optional Schema.string) .nil)
    fun (accessToken, expiresIn, refreshToken, scope, ()) =>
      ⟨accessToken, expiresIn, refreshToken, scope⟩

def scopes (r : TokenResponse) (previous : List String) : List String :=
  match r.scope with
  | some s => (Text.words s.toList).map String.ofList
  | none => previous

/-- The credentials after a response: what it does not mention stays, except
the expiry. There are none if the lifetime is too long. -/
def credentials? (r : TokenResponse) (previous : Credentials) (now : Instant) :
    Option Credentials :=
  let c : Credentials :=
    { previous with
      accessToken := r.accessToken
      refreshToken := r.refreshToken <|> previous.refreshToken
      expiresAt := none
      scopes := r.scopes previous.scopes }
  match r.expiresIn with
  | some lifetime => c.expiringIn? now lifetime
  | none => some c

end TokenResponse

namespace TokenRefusal

def schema : Schema TokenRefusal :=
  .record "TokenErrorResponse"
    (.cons "error" .required Schema.string <|
      .cons "error_description" (.always none) (.optional Schema.string) .nil)
    fun (error, description, ()) => ⟨error, description⟩

def message (r : TokenRefusal) : String :=
  match r.description with
  | some d => r.error ++ ": " ++ d
  | none => r.error

end TokenRefusal

abbrev Params := List (String × String)

/-- The parameters of a refresh, if the credentials allow one, and the endpoint
they go to. -/
def Credentials.refreshRequest? (c : Credentials) : Option (String × Params) := do
  let token ← c.refreshToken
  let id ← c.clientId
  let uri ← c.tokenUri
  return (uri,
    [("grant_type", "refresh_token"), ("refresh_token", token), ("client_id", id)] ++
      (match c.clientSecret with
        | some s => [("client_secret", s)]
        | none => []))

theorem Credentials.refreshRequest?_isSome (c : Credentials) :
    c.refreshRequest?.isSome = c.canRefresh := by
  cases c with
  | mk accessToken refreshToken expiresAt scopes clientId clientSecret tokenUri =>
    cases refreshToken <;> cases clientId <;> cases tokenUri <;> rfl

end SheetExport.Auth
