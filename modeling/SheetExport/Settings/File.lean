import SheetExport.Failure
import SheetExport.Json.Reader
import SheetExport.Text.Character
import SheetExport.Yaml.Decode

/-!
# Settings and their files

Settings of an export, the spreadsheet they name and the file they are kept in.
-/

/-!
## Spreadsheet ids

A spreadsheet is named by its id or by an address that holds the id. `extract`
gives the id of the leftmost place in the text where one can stand.
-/

namespace SheetExport.SpreadsheetId

def isIdChar (c : Char) : Bool := c.isAlphanum || c == '_' || c == '-'

def marker : List Char := "/spreadsheets/d/".toList

def idHere? (cs : List Char) : Option (List Char) :=
  if marker.isPrefixOf cs then
    match (cs.drop marker.length).takeWhile isIdChar with
    | [] => none
    | id => some id
  else none

def find? : List Char → Option (List Char)
  | [] => none
  | c :: cs =>
    match idHere? (c :: cs) with
    | some id => some id
    | none => find? cs

/-- The id in a text, or the text itself without surrounding blanks. -/
def extract (s : String) : String :=
  let cs := Text.trimChars s.toList
  String.ofList ((find? cs).getD cs)

/-- What an unfinished settings file has in place of an id. -/
def placeholder : String := "YOUR_SPREADSHEET_ID_HERE"

/-- The id without surrounding blanks, unless it is missing or a placeholder. -/
def effective? (id : Option String) : Option String :=
  (id.map Text.trim).filter fun s => s ≠ "" && s ≠ placeholder

end SheetExport.SpreadsheetId

/-!
## Settings

What is exported, where to, and how access is granted. Every setting has a
default. `Settings.schema` reads settings from a document, `Settings.toJson`
writes them, and `Settings.problem?` names the first setting that cannot work.
-/

namespace SheetExport

/-- How the sheets service renders a cell. -/
inductive ValueRender where
  | formatted
  | unformatted
  | formula
  deriving DecidableEq, Repr, Inhabited

namespace ValueRender

def name : ValueRender → String
  | .formatted => "formatted"
  | .unformatted => "unformatted"
  | .formula => "formula"

def apiName : ValueRender → String
  | .formatted => "FORMATTED_VALUE"
  | .unformatted => "UNFORMATTED_VALUE"
  | .formula => "FORMULA"

def all : List ValueRender := [.formatted, .unformatted, .formula]

def schema : Schema ValueRender := .choice (all.map fun v => (v.name, v))

end ValueRender

/-- How access is granted. -/
inductive AuthStrategy where
  /-- The user consents in a browser. -/
  | interactive (clientSecrets : String)
  /-- A refresh token is at hand. -/
  | refreshToken (clientId clientSecret refreshToken : String) (tokenUri : Option String)
  /-- A service account signs for itself. -/
  | serviceAccount (keyPath : String)
  deriving DecidableEq, Repr

namespace AuthStrategy

/-- Where the client registration is read from by default. -/
def defaultClientSecrets : String := "credentials.json"

instance : Inhabited AuthStrategy := ⟨.interactive defaultClientSecrets⟩

def schema : Schema AuthStrategy :=
  .union "AuthConfig" "strategy" <|
    .cons "interactive" "AuthConfig::Interactive"
      (.cons "client_secrets" (.always defaultClientSecrets) Schema.path .nil)
      (fun (path, ()) => .interactive path) <|
    .cons "refresh_token" "AuthConfig::RefreshToken"
      (.cons "client_id" .required Schema.string <|
        .cons "client_secret" .required Schema.string <|
        .cons "refresh_token" .required Schema.string <|
        .cons "token_uri" (.always none) (.optional Schema.string) .nil)
      (fun (id, secret, token, uri, ()) => .refreshToken id secret token uri) <|
    .cons "service_account" "AuthConfig::ServiceAccount"
      (.cons "key_path" .required Schema.path .nil)
      (fun (path, ()) => .serviceAccount path) .nil

/-- A value that may be missing, written in any case. -/
def nullable : Option String → Json
  | some s => .string s
  | none => .null

def toJson : AuthStrategy → Json
  | .interactive path =>
    .object [("strategy", .string "interactive"), ("client_secrets", .string path)]
  | .refreshToken id secret token uri =>
    .object [("strategy", .string "refresh_token"), ("client_id", .string id),
      ("client_secret", .string secret), ("refresh_token", .string token),
      ("token_uri", nullable uri)]
  | .serviceAccount path =>
    .object [("strategy", .string "service_account"), ("key_path", .string path)]

def problem? : AuthStrategy → Option String
  | .interactive path => if path = "" then some "client_secrets path must not be empty" else none
  | .refreshToken id secret token _ =>
    ([("client_id", id), ("client_secret", secret), ("refresh_token", token)].find?
      fun part => Text.allBlank part.2).map
      fun part => "refresh_token strategy requires " ++ part.1
  | .serviceAccount path =>
    if path = "" then some "service_account strategy requires key_path" else none

end AuthStrategy

/-- What to export and how. -/
structure Settings where
  spreadsheetId : Option String := none
  outputDir : String := "sheets_export"
  range : String := "A:Z"
  tabs : List String := []
  valueRender : ValueRender := .formatted
  tokenCache : Option String := some "token.json"
  timeoutSecs : Nat := 30
  apiBaseUrl : String := "https://sheets.googleapis.com/v4/"
  auth : AuthStrategy := .interactive AuthStrategy.defaultClientSecrets
  deriving DecidableEq, Inhabited

namespace Settings

/-- Settings where nothing is given. -/
def standard : Settings := {}

def schema : Schema Settings :=
  .record "ExportConfig"
    (.cons "spreadsheet_id" (.always standard.spreadsheetId) (.optional Schema.string) <|
      .cons "output_dir" (.always standard.outputDir) Schema.path <|
      .cons "range" (.always standard.range) Schema.string <|
      .cons "tabs" (.always standard.tabs) (.list Schema.string) <|
      .cons "value_render" (.always standard.valueRender) ValueRender.schema <|
      .cons "token_cache" (.always standard.tokenCache) (.optional Schema.path) <|
      .cons "timeout_secs" (.always standard.timeoutSecs) .natural <|
      .cons "api_base_url" (.always standard.apiBaseUrl) Schema.string <|
      .cons "auth" (.always standard.auth) AuthStrategy.schema .nil)
    fun (spreadsheetId, outputDir, range, tabs, valueRender, tokenCache, timeoutSecs, apiBaseUrl,
        auth, ()) =>
      ⟨spreadsheetId, outputDir, range, tabs, valueRender, tokenCache, timeoutSecs, apiBaseUrl,
        auth⟩

def toJson (s : Settings) : Json :=
  .object
    [("spreadsheet_id", AuthStrategy.nullable s.spreadsheetId),
      ("output_dir", .string s.outputDir),
      ("range", .string s.range),
      ("tabs", .array (s.tabs.map .string)),
      ("value_render", .string s.valueRender.name),
      ("token_cache", AuthStrategy.nullable s.tokenCache),
      ("timeout_secs", .number (.int s.timeoutSecs)),
      ("api_base_url", .string s.apiBaseUrl),
      ("auth", s.auth.toJson)]

def problem? (s : Settings) : Option String :=
  if s.outputDir = "" then some "output_dir must not be empty"
  else if Text.allBlank s.range then some "range must not be empty"
  else if s.timeoutSecs = 0 then some "timeout_secs must be greater than zero"
  else s.auth.problem?

/-- The spreadsheet to export. -/
def effectiveId? (s : Settings) : Option String := SpreadsheetId.effective? s.spreadsheetId

end Settings

end SheetExport

/-!
## Settings files

Settings are kept in a YAML file. A file of blanks gives the standard settings.
-/

namespace SheetExport.Settings

def ofYaml (text : String) : Except Failure Settings :=
  if Text.allBlank text then .ok standard
  else (schema.parseYaml text).mapError Failure.yaml

def ofFile (t : FileTree) (path : String) : Except Failure Settings := do
  ofYaml (← (t.read path).mapError Failure.io)

end SheetExport.Settings
