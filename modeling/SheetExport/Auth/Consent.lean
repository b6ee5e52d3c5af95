import SheetExport.Auth.ClientSecrets
import SheetExport.Digest.Sha256
import SheetExport.Text.Bytes
import SheetExport.Url

/-!
# Consent

A user consents at an address of the authorization server. The address carries
what the answer must be bound to: where it goes, a state that comes back with
it, and the challenge of a verifier that only the program knows.
-/

namespace SheetExport.Auth

/-- The challenge of a verifier: its SHA-256 digest. -/
def challenge (verifier : String) : String :=
  Text.Base64.encode (Digest.Sha256.digest (Text.Utf8.ofString verifier))

/-- What a user is asked to consent to. -/
structure Consent where
  secrets : ClientSecrets
  redirectUri : String
  scope : String
  state : String
  verifier : String

namespace Consent

def params (c : Consent) : List (String × String) :=
  [("response_type", "code"),
    ("client_id", c.secrets.clientId),
    ("redirect_uri", c.redirectUri),
    ("scope", c.scope),
    ("state", c.state),
    ("code_challenge", challenge c.verifier),
    ("code_challenge_method", "S256"),
    ("access_type", "offline"),
    ("prompt", "consent")]

def url (c : Consent) : Except Failure Url :=
  match Url.parse c.secrets.authUri with
  | .ok u => .ok (u.addPairs c.params)
  | .error e =>
    .error (.config ("Invalid auth_uri " ++ c.secrets.authUri ++ ": " ++ e.message))

end Consent

end SheetExport.Auth
