import SheetExport.Failure
import SheetExport.Json.Reader

/-!
# Client registrations

The registration of an application with the authorization server, as found in
a downloaded file: a section `installed` or, failing that, a section `web`.
-/

namespace SheetExport.Auth

/-- The registration of an application. -/
structure ClientSecrets where
  clientId : String
  clientSecret : String
  authUri : String
  tokenUri : String
  deriving DecidableEq, Inhabited

namespace ClientSecrets

def schema : Schema ClientSecrets :=
  .record "ClientSecrets"
    (.cons "client_id" .required Schema.string <|
      .cons "client_secret" .required Schema.string <|
      .cons "auth_uri" .required Schema.string <|
      .cons "token_uri" .required Schema.string .nil)
    fun (id, secret, authUri, tokenUri, ()) => ⟨id, secret, authUri, tokenUri⟩

/-- The file: the section for installed applications goes first. -/
def fileSchema : Schema (Option ClientSecrets) :=
  .record "ClientSecretsFile"
    (.cons "installed" (.byName none) (.optional schema) <|
      .cons "web" (.byName none) (.optional schema) .nil)
    fun (installed, web, ()) => installed <|> web

def parse (text : String) : Except Failure ClientSecrets :=
  match fileSchema.parseJson text with
  | .error e => .error (.config ("Failed to parse client secrets: " ++ e.message))
  | .ok none =>
    .error (.config "client secrets file has neither an 'installed' nor a 'web' section")
  | .ok (some s) => .ok s

def ofFile (t : FileTree) (path : String) : Except Failure ClientSecrets :=
  match t.read path with
  | .ok text => parse text
  | .error e =>
    .error (.config ("Failed to read client secrets " ++ path ++ ": " ++ e.message))

end ClientSecrets

end SheetExport.Auth
