import SheetExport.Auth.Consent
import SheetExport.Auth.Redirect
import SheetExport.Auth.ServiceAccount
import SheetExport.Auth.TokenEndpoint
import SheetExport.Settings.File
import SheetExport.World

/-!
# Providing credentials

Where credentials are kept, how new ones are got, and which of the two a call does.
-/

/-!
## The token cache

Credentials are kept in a file, or in memory for a single run. A file that is not
there holds none; saving creates the directory it is in and lets nobody else
read it.
-/

namespace SheetExport.Auth

/-- Where credentials are kept. -/
inductive Store where
  | file (path : String)
  | memory
  deriving DecidableEq, Repr

namespace Store

def privateMode : Nat := 0o600

def loadFile (t : FileTree) (path : String) : Except Failure (Option Credentials) :=
  match t.read path with
  | .error .notFound => .ok none
  | .error e => .error (.io e)
  | .ok text =>
    match Credentials.schema.parseJson text with
    | .ok c => .ok (some c)
    | .error e => .error (.auth ("Failed to read token cache " ++ path ++ ": " ++ e.message))

def load (s : Store) : Action (Option Credentials) := do
  let w ← get
  match s with
  | .file path => Action.ofResult (loadFile w.files path)
  | .memory => return w.memory

def save (s : Store) (c : Credentials) : Action Unit :=
  match s with
  | .file path => do
    Action.alterFiles fun t => t.createParent path
    Action.changeFiles fun t => t.write path c.toJson.prettyText
    Action.changeFiles fun t => t.setMode path privateMode
  | .memory => modify fun w => { w with memory := some c }

end Store

end SheetExport.Auth

/-!
## Asking the user

The user is shown the address of a consent. The browser comes back to a loopback
port with a code, which is traded for a token. State and verifier are drawn anew
for every consent.
-/

namespace SheetExport.Auth

def loopbackUri (port : Nat) : String := "http://127.0.0.1:" ++ toString port ++ "/"

def randomText (n : Nat) : Action String := do return Text.Base64.encode (← Action.draw n)

def consentNotice (url : Url) : String :=
  "Auth: Please visit this URL to authorize read-only access to your spreadsheets:\n\n  " ++
    url.text ++ "\n"

/-- The code in what the browser sends, and the page it is answered with. -/
def respond (state : String) (pieces : List (List UInt8)) : Except Failure String × String :=
  let r := Redirect.code (Redirect.firstLine (Redirect.received pieces)) state
  (r, Redirect.answer r.toBool)

def drawConsent (secrets : ClientSecrets) : Action Consent := do
  let redirectUri := loopbackUri (← get).port
  let verifier ← randomText 32
  let state ← randomText 16
  return { secrets, redirectUri, scope := readonlyScope, state, verifier }

def askUser (secrets : ClientSecrets) : Action Credentials := do
  let consent ← drawConsent secrets
  let url ← Action.ofResult consent.url
  Action.print (consentNotice url)
  let code ← Action.ofResult (← Action.browse url.text (respond consent.state))
  exchangeCode secrets code consent.redirectUri consent.verifier

end SheetExport.Auth

/-!
## Strategies

New credentials come from a user's consent, from a refresh token in the settings
or from the signed assertion of a service account. The files that a strategy
names are read only when it is used.
-/

namespace SheetExport

open Auth (Credentials ClientSecrets ServiceAccountKey)

namespace AuthStrategy

def label : AuthStrategy → String
  | .interactive _ => "interactive"
  | .refreshToken _ _ _ _ => "refresh-token"
  | .serviceAccount _ => "service-account"

/-- The credentials that a refresh token in the settings begins with. -/
def seed (clientId clientSecret token : String) (tokenUri : Option String) : Credentials :=
  { accessToken := ""
    refreshToken := some token
    scopes := [Auth.readonlyScope]
    clientId := some clientId
    clientSecret := some clientSecret
    tokenUri := some (tokenUri.getD Auth.defaultTokenUri) }

def assertionGrant : String := "urn:ietf:params:oauth:grant-type:jwt-bearer"

def assertionParams (assertion : String) : Auth.Params :=
  [("grant_type", assertionGrant), ("assertion", assertion)]

def signIn (k : ServiceAccountKey) : Action Credentials := do
  let assertion ← Action.ofOutcome (k.signedAssertion Auth.readonlyScope (← get).clock)
  Auth.grant k.tokenUri (assertionParams assertion)
    { accessToken := "", scopes := [Auth.readonlyScope] }

def acquire : AuthStrategy → Action Credentials
  | .interactive path => do
    Auth.askUser (← Action.ofResult (ClientSecrets.ofFile (← get).files path))
  | .refreshToken clientId clientSecret token tokenUri =>
    Auth.refresh (seed clientId clientSecret token tokenUri)
  | .serviceAccount path => do
    signIn (← Action.ofResult (ServiceAccountKey.ofFile (← get).files path))

end AuthStrategy

end SheetExport

/-!
## Calls

Credentials come from the cache while they are valid, else from a refresh, else
from the strategy. What is new is saved before it is given.
-/

namespace SheetExport.Auth

/-- Where credentials come from: a cache, and what is done when it cannot
provide. -/
structure Provider where
  store : Store
  acquire : Action Credentials

namespace Provider

def ofSettings (s : Settings) : Provider where
  store := match s.tokenCache with
    | some path => .file path
    | none => .memory
  acquire := s.auth.acquire

/-- The provider of one run. Nothing that an earlier run kept in memory is left. -/
def start (s : Settings) : Action Provider := do
  modify World.fresh
  return ofSettings s

def isValidNow (c : Credentials) : Action Bool := do
  match c.valid? (← get).clock with
  | some b => return b
  | none => throw .overflow

/-- Does something that may fail; without a date the program still ends. -/
def attempt {α : Type} (act : Action α) : Action (Except Failure α) := fun w =>
  match act w with
  | (.ok a, w) => (.ok (.ok a), w)
  | (.error (.failure f), w) => (.ok (.error f), w)
  | (.error .overflow, w) => (.error .overflow, w)

def keep (p : Provider) (c : Credentials) : Action Credentials := do
  p.store.save c
  return c

def renew (p : Provider) : Action Credentials := do p.keep (← p.acquire)

/-- Credentials in the place of ones that are not valid. -/
def replace (p : Provider) (c : Credentials) : Action Credentials := do
  if c.canRefresh then
    match ← attempt (refresh c) with
    | .ok c => p.keep c
    | .error _ => p.renew
  else p.renew

/-- Credentials to use now. -/
def credentials (p : Provider) : Action Credentials := do
  match ← p.store.load with
  | none => p.renew
  | some c => if ← isValidNow c then return c else p.replace c

end Provider

end SheetExport.Auth
