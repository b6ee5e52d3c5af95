import SheetExport.A1.Range
import SheetExport.FileTree
import SheetExport.Json.Lexeme
import SheetExport.Yaml.Cursor

/-!
# Failures

The ways an export can fail, with their wording.
-/

namespace SheetExport

/-- Why something was not done. -/
inductive Failure where
  | auth (words : String)
  | http (words : String)
  | api (status : Nat) (words : String)
  | config (words : String)
  | invalidRange (text : String)
  | io (fault : FileFault)
  | json (error : Json.Error)
  | yaml (error : Yaml.Error)

namespace Failure

def message : Failure → String
  | .auth words => "Authentication error: " ++ words
  | .http words => "HTTP error: " ++ words
  | .api status words => "API error (HTTP " ++ toString status ++ "): " ++ words
  | .config words => "Configuration error: " ++ words
  | .invalidRange text => "Invalid range: " ++ text
  | .io fault => "I/O error: " ++ fault.message
  | .json error => "JSON error: " ++ error.message
  | .yaml error => "YAML error: " ++ error.message

/-- The wording of what caused a failure, where that has one of its own. -/
def cause? : Failure → Option String
  | .io fault => some fault.message
  | .json error => some error.message
  | .yaml error => some error.message
  | _ => none

def ofInvalidRange (e : A1.InvalidRange) : Failure := .invalidRange e.text

end Failure

/-- Why a run ended without a result: a failure, or a moment without a date,
which ends the whole program. -/
inductive Stop where
  | failure (f : Failure)
  | overflow

end SheetExport
