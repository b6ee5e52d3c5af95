import SheetExport.Auth.ClientSecrets
import SheetExport.Auth.Grant
import SheetExport.World

/-!
# The token endpoint

Parameters are posted as form pairs. A success is read as a `TokenResponse`; a
refusal is told in its own words, or by its status if it has none.
-/

namespace SheetExport.Auth

/-- How parameters are posted. -/
def formType : String := "application/x-www-form-urlencoded"

def postOf (url : Url) (ps : Params) : Http.Draft :=
  { verb := "POST"
    url
    contentType := some formType
    body := String.ofList (Url.Form.encode ps) }

def refusalWords (status : Nat) (body : String) : String :=
  match TokenRefusal.schema.parseJson body with
  | .ok r => r.message
  | .error _ => "token endpoint returned HTTP " ++ Http.statusText status

def readAnswer (status : Nat) (body : String) : Except Failure TokenResponse :=
  if Http.isSuccess status then
    match TokenResponse.schema.parseJson body with
    | .ok r => .ok r
    | .error e => .error (.auth ("Failed to parse token response: " ++ e.message))
  else .error (.auth (refusalWords status body))

def requestToken (uri : String) (ps : Params) : Action TokenResponse :=
  match Url.parse uri with
  | .error _ => .fail (.http Http.Fault.malformed.message)
  | .ok url => do
    let (status, body) ← Action.send (postOf url ps)
    Action.ofResult (readAnswer status body)

/-- Asks an endpoint for a token and puts the answer in the place of what was
known. -/
def grant (uri : String) (ps : Params) (known : Credentials) : Action Credentials := do
  let r ← requestToken uri ps
  match r.credentials? known (← get).clock with
  | some c => return c
  | none => throw .overflow

def refresh (c : Credentials) : Action Credentials :=
  match c.refreshRequest? with
  | some (uri, ps) => grant uri ps c
  | none =>
    .fail (.auth
      "credentials cannot be refreshed: missing refresh token, client id or token uri")

def codeParams (s : ClientSecrets) (code redirectUri verifier : String) : Params :=
  [("grant_type", "authorization_code"),
    ("code", code),
    ("client_id", s.clientId),
    ("client_secret", s.clientSecret),
    ("redirect_uri", redirectUri),
    ("code_verifier", verifier)]

/-- What is known of the credentials of a client before it has a token. -/
def ClientSecrets.known (s : ClientSecrets) : Credentials :=
  { accessToken := ""
    scopes := [readonlyScope]
    clientId := some s.clientId
    clientSecret := some s.clientSecret
    tokenUri := some s.tokenUri }

def exchangeCode (s : ClientSecrets) (code redirectUri verifier : String) : Action Credentials :=
  grant s.tokenUri (codeParams s code redirectUri verifier) s.known

end SheetExport.Auth
