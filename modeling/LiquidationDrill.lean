import LiquidationDrill.Text.Basic
import LiquidationDrill.Text.Ranges
import LiquidationDrill.Text.Blank
import LiquidationDrill.Text.Case
import LiquidationDrill.Text.Digit
import LiquidationDrill.Text.Encoded
import LiquidationDrill.Text.File
import LiquidationDrill.Text.Fill
import LiquidationDrill.Text.Lines
import LiquidationDrill.Text.Numeral
import LiquidationDrill.Text.Printable
import LiquidationDrill.Text.Quoted
import LiquidationDrill.Text.Similarity
import LiquidationDrill.Text.Terminal
import LiquidationDrill.Text.Utf8
import LiquidationDrill.Text.Word
import LiquidationDrill.Number.Double
import LiquidationDrill.Number.Decimal
import LiquidationDrill.Number.Basic
import LiquidationDrill.Number.Fixed
import LiquidationDrill.Number.PowerOfTen
import LiquidationDrill.Number.Arithmetic
import LiquidationDrill.Value.Basic
import LiquidationDrill.Value.Display
import LiquidationDrill.Value.Key
import LiquidationDrill.Value.Parts
import LiquidationDrill.Value.Arithmetic
import LiquidationDrill.Json.Reader
import LiquidationDrill.Json.Writer
import LiquidationDrill.Log.Fault
import LiquidationDrill.Log.Level
import LiquidationDrill.Log.TxHash
import LiquidationDrill.Log.VaultId
import LiquidationDrill.Log.Readers
import LiquidationDrill.Log.Record
import LiquidationDrill.Log.RecordSet
import LiquidationDrill.Log.Stream
import LiquidationDrill.Scenario.Predicate
import LiquidationDrill.Scenario.Expectation
import LiquidationDrill.Notice
import LiquidationDrill.Mainnet.Asset
import LiquidationDrill.Mainnet.Address
import LiquidationDrill.Mainnet.Interface
import LiquidationDrill.Node.Request
import LiquidationDrill.Node.Script
import LiquidationDrill.Node.Control
import LiquidationDrill.Node.ForkPoint
import LiquidationDrill.Node.Session
import LiquidationDrill.CommandLine.Basic
import LiquidationDrill.CommandLine.Arguments
import LiquidationDrill.CommandLine.Help
import LiquidationDrill.Exit
import LiquidationDrill.Folder
import LiquidationDrill.Check
import LiquidationDrill.Vault.Amount
import LiquidationDrill.Vault.Liquidation
import LiquidationDrill.Vault.SpotRatio
import LiquidationDrill.Drill.Run
import LiquidationDrill.Drill.Deploy
import LiquidationDrill.Drill.LiquidateSeries
import LiquidationDrill.Drill.LiquidateVault
import LiquidationDrill.Launch.Config
import LiquidationDrill.Launch.Options
import LiquidationDrill.Launch.Inputs
import LiquidationDrill.Launch.ShellWords
import LiquidationDrill.Launch.Run
import LiquidationDrill.Main
import LiquidationDrill.Proofs.Result
import LiquidationDrill.Proofs.Text.Lines
import LiquidationDrill.Proofs.Log.Records
import LiquidationDrill.Proofs.Json.Steps
import LiquidationDrill.Proofs.Json.Scalar
import LiquidationDrill.Proofs.Json.Passing
import LiquidationDrill.Proofs.Json.Extension
import LiquidationDrill.Proofs.Log.Line
import LiquidationDrill.Proofs.Json.Limits
import LiquidationDrill.Proofs.Log.Framing
import LiquidationDrill.Proofs.Log.Cursor
import LiquidationDrill.Proofs.Log.Faults
import LiquidationDrill.Proofs.Text.Printable
import LiquidationDrill.Proofs.Text.Utf8
import LiquidationDrill.Proofs.Text.Encoded
import LiquidationDrill.Proofs.Value.Printable
import LiquidationDrill.Proofs.Value.Showable
import LiquidationDrill.Proofs.CommandLine.Scan
import LiquidationDrill.Proofs.Check.Lines
import LiquidationDrill.Proofs.Check.Ending
import LiquidationDrill.Proofs.Node.Moments
import LiquidationDrill.Proofs.Node.Spots
import LiquidationDrill.Proofs.Vault.Blocks
import LiquidationDrill.Proofs.Vault.Nests
import LiquidationDrill.Proofs.Vault.Watched
import LiquidationDrill.Proofs.Drill.Places
import LiquidationDrill.Proofs.Drill.LiquidateVault
import LiquidationDrill.Proofs.Drill.Figures
import LiquidationDrill.Proofs.Drill.LiquidateSeries
import LiquidationDrill.Proofs.Drill.SpotsKept
import LiquidationDrill.Proofs.Drill.Charges
import LiquidationDrill.Proofs.Node.Refusal
import LiquidationDrill.Proofs.Vault.Careful
import LiquidationDrill.Proofs.Drill.CutShort
import LiquidationDrill.Proofs.Text.Numeral
import LiquidationDrill.Proofs.Json.Escape
import LiquidationDrill.Proofs.Log.Readers
import LiquidationDrill.Proofs.Json.Written
import LiquidationDrill.Proofs.Log.Events
import LiquidationDrill.Proofs.Launch.Inputs
import LiquidationDrill.Proofs.CommandLine.Given
import LiquidationDrill.Proofs.Text.Shown
import LiquidationDrill.Proofs.Scenario.Verdict
import LiquidationDrill.Proofs.Check.Options
import LiquidationDrill.Proofs.Check.Report
import LiquidationDrill.Proofs.Log.Places
import LiquidationDrill.Proofs.Log.Appended
import LiquidationDrill.Proofs.Launch.Output
import LiquidationDrill.Proofs.Scenario.Conjunction
import LiquidationDrill.Proofs.Scenario.Evidence
import LiquidationDrill.Proofs.Log.Hashes
import LiquidationDrill.Proofs.Node.InTurn
import LiquidationDrill.Proofs.Node.Replay
import LiquidationDrill.Proofs.Scenario.Appended
import LiquidationDrill.Proofs.Text.CutShort
import LiquidationDrill.Proofs.Launch.Kept
import LiquidationDrill.Proofs.Text.Rows
import LiquidationDrill.Proofs.Log.HashText
import LiquidationDrill.Proofs.Log.HashFaults
import LiquidationDrill.Proofs.Scenario.Orders
import LiquidationDrill.Proofs.Json.Grammar
import LiquidationDrill.Proofs.Json.Strings
import LiquidationDrill.Proofs.Json.Numbers
import LiquidationDrill.Proofs.Json.Spelled
import LiquidationDrill.Proofs.Json.Taken
import LiquidationDrill.Proofs.Json.Integers
import LiquidationDrill.Proofs.Log.Spelled
import LiquidationDrill.Proofs.Log.Decoded
import LiquidationDrill.Proofs.Launch.Arguments
import LiquidationDrill.Proofs.Launch.Command
import LiquidationDrill.Proofs.Text.Lower
import LiquidationDrill.Proofs.Log.VaultIds
import LiquidationDrill.Proofs.Scenario.Vaults
import LiquidationDrill.Proofs.Log.HashFound
import LiquidationDrill.Proofs.Scenario.Allowed
import LiquidationDrill.Proofs.Check.Allowed
import LiquidationDrill.Proofs.Vault.Amounts
import LiquidationDrill.Proofs.Value.Alike
import LiquidationDrill.Proofs.Log.Sameness
import LiquidationDrill.Proofs.Log.RecordSet
import LiquidationDrill.Proofs.Text.HexBytes
import LiquidationDrill.Proofs.Mainnet.Ids
import LiquidationDrill.Proofs.Text.Literal
import LiquidationDrill.Proofs.Check.Counts
