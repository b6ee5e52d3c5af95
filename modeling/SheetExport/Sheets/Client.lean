import SheetExport.Failure
import SheetExport.Http
import SheetExport.Settings.File
import SheetExport.Tab

/-!
# The sheets service

What a service of spreadsheets answers, and the client that asks one on the network.
-/

/-!
## Spreadsheet services

A service tells the names of the tabs of a spreadsheet and the values in a
range. It has a state of its own, such as the network it works on or the answers
it is yet to give.
-/

namespace SheetExport.Sheets

/-- A service with a state. -/
structure Service (σ : Type) where
  tabNames : (id : String) → σ → Except Failure (List String) × σ
  values : (id range : String) → σ → Except Failure Grid × σ

/-- Answers to be given: the names of the tabs, and the values of one call after
the other. -/
structure Answers where
  names : Except Failure (List String)
  grids : List (Except Failure Grid) := []

/-- The service that gives prepared answers, and empty grids after them. -/
def prepared : Service Answers where
  tabNames _ a := (a.names, a)
  values _ _ a :=
    match a.grids with
    | [] => (.ok [], a)
    | g :: gs => (g, { a with grids := gs })

end SheetExport.Sheets

/-!
## The sheets service on the network

A client asks for the tabs of a spreadsheet, or the values in a range, at an
address below its base. Every request carries the access token. A refusal is
told in the words of the service, or by its status.
-/

namespace SheetExport.Sheets

/-- What requests to the service have in common. -/
structure Client where
  base : Url
  accessToken : String
  valueRender : ValueRender

/-! ### Documents -/

def namesSchema : Schema (List String) :=
  .record "SpreadsheetMetadata"
    (.cons "sheets" (.always [])
      (.list <| .record "SheetEntry"
        (.cons "properties" .required
          (.record "SheetProperties" (.cons "title" .required Schema.string .nil) Prod.fst) .nil)
        Prod.fst) .nil)
    Prod.fst

def valuesSchema : Schema Grid :=
  .record "ValueRange" (.cons "values" (.always []) (.list (.list .any)) .nil)
    fun (rows, ()) => rows.map fun row => row.map fun c => Cell.ofJson (Json.ofContent c)

def refusalSchema : Schema String :=
  .record "ErrorEnvelope"
    (.cons "error" .required
      (.record "ErrorBody" (.cons "message" .required Schema.string .nil) Prod.fst) .nil)
    Prod.fst

namespace Client

def ofBase (base accessToken : String) (valueRender : ValueRender) : Except Failure Client :=
  match Url.parse base with
  | .error e => .error (.config ("Invalid API base URL " ++ base ++ ": " ++ e.message))
  | .ok url =>
    match url.path with
    | .plain _ => .error (.config ("Invalid API base URL " ++ base))
    | .segments _ => .ok ⟨url, accessToken, valueRender⟩

def endpoint (c : Client) (segments : List String) : Url :=
  (c.base.pushSegments? (("spreadsheets" :: segments).map String.toList)).getD c.base

def draft (c : Client) (segments : List String) (query : List (String × String)) : Http.Draft :=
  { verb := "GET"
    url := c.endpoint segments
    query
    authorization := ["Bearer " ++ c.accessToken] }

def namesDraft (c : Client) (id : String) : Http.Draft :=
  c.draft [id] [("fields", "sheets.properties.title")]

def valuesDraft (c : Client) (id range : String) : Http.Draft :=
  c.draft [id, "values", range]
    [("majorDimension", "ROWS"), ("valueRenderOption", c.valueRender.apiName)]

def refusal (status : Nat) (body : String) : Failure :=
  match refusalSchema.parseJson body with
  | .ok words => .api status words
  | .error _ => .api status ((Http.reason? status).getD "Unknown")

def ask {α : Type} (d : Http.Draft) (read : String → Option α) (n : Http.Network) :
    Except Failure α × Http.Network :=
  match n.send d with
  | (.error e, n) => (.error (.http e.message), n)
  | (.ok (status, body), n) =>
    if Http.isSuccess status then
      match read body with
      | some a => (.ok a, n)
      | none => (.error (.http "Failed to parse JSON: error decoding response body"), n)
    else (.error (refusal status body), n)

def readNames (body : String) : Option (List String) := (namesSchema.parseJson body).toOption

def readValues (body : String) : Option Grid := (valuesSchema.parseJson body).toOption

def service (c : Client) : Service Http.Network where
  tabNames id := ask (c.namesDraft id) readNames
  values id range := ask (c.valuesDraft id range) readValues

end Client

end SheetExport.Sheets
