import SheetExport.Cell.Stored
import SheetExport.Main
import SheetExport.Proofs.A1.Column
import SheetExport.Proofs.A1.Grammar
import SheetExport.Proofs.A1.Range
import SheetExport.Proofs.Auth.Assertion
import SheetExport.Proofs.Auth.Consent
import SheetExport.Proofs.Auth.Consulted
import SheetExport.Proofs.Auth.Credentials
import SheetExport.Proofs.Auth.Form
import SheetExport.Proofs.Auth.Overflow
import SheetExport.Proofs.Auth.Provider
import SheetExport.Proofs.Auth.Redirect
import SheetExport.Proofs.Auth.Refresh
import SheetExport.Proofs.Auth.Store
import SheetExport.Proofs.Cell.Stored
import SheetExport.Proofs.CommandLine.Settings
import SheetExport.Proofs.Csv
import SheetExport.Proofs.Export.Files
import SheetExport.Proofs.Export.Run
import SheetExport.Proofs.Export.Secrets
import SheetExport.Proofs.Export.Selection
import SheetExport.Proofs.Export.Settings
import SheetExport.Proofs.Export.Skipped
import SheetExport.Proofs.Json.Members
import SheetExport.Proofs.Json.Skip
import SheetExport.Proofs.Settings
import SheetExport.Proofs.Sheets
