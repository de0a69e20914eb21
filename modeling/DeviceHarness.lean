import DeviceHarness.Action
import DeviceHarness.Adb.Client
import DeviceHarness.Adb.Transport
import DeviceHarness.Bench
import DeviceHarness.Checkin.Dump
import DeviceHarness.Checkin.Fetch
import DeviceHarness.Checkin.Format
import DeviceHarness.Checkin.Layout
import DeviceHarness.Checkin.ProcessStates
import DeviceHarness.Checkin.Record
import DeviceHarness.Checkin.StateCode
import DeviceHarness.Checkin.Tables.Batterystats
import DeviceHarness.Checkin.Tables.Procstats
import DeviceHarness.Checkin.Validator
import DeviceHarness.CommandLine.Command
import DeviceHarness.CommandLine.Console
import DeviceHarness.CommandLine.Grammar
import DeviceHarness.CommandLine.Logging
import DeviceHarness.CommandLine.Program
import DeviceHarness.CommandLine.Report
import DeviceHarness.CommandLine.Tasks
import DeviceHarness.Config.Project
import DeviceHarness.Config.Section
import DeviceHarness.Device
import DeviceHarness.Dictionary
import DeviceHarness.Duration
import DeviceHarness.Error
import DeviceHarness.Host.Basic
import DeviceHarness.Host.FileTree
import DeviceHarness.Host.Path
import DeviceHarness.Host.Process
import DeviceHarness.Host.Scratch
import DeviceHarness.Host.Script
import DeviceHarness.Install.AbiSplits
import DeviceHarness.Install.Apps
import DeviceHarness.Install.Session
import DeviceHarness.Instrumentation.Command
import DeviceHarness.Instrumentation.Execution
import DeviceHarness.Instrumentation.Output
import DeviceHarness.Instrumentation.Result
import DeviceHarness.Json
import DeviceHarness.Main
import DeviceHarness.Pattern.Bracket
import DeviceHarness.Pattern.Depth
import DeviceHarness.Pattern.Escape
import DeviceHarness.Pattern.Fault
import DeviceHarness.Pattern.Meaning
import DeviceHarness.Pattern.Parser
import DeviceHarness.Pattern.Properties
import DeviceHarness.Pattern.Reading
import DeviceHarness.Pattern.Report
import DeviceHarness.Pattern.Size
import DeviceHarness.Pattern.Span
import DeviceHarness.Pattern.Syntax
import DeviceHarness.Reply.Features
import DeviceHarness.Reply.Session
import DeviceHarness.Reply.Success
import DeviceHarness.Reply.Users
import DeviceHarness.Suite.Catalog
import DeviceHarness.Suite.Dumpsys
import DeviceHarness.Suite.LauncherMultiUser
import DeviceHarness.Suite.Outcome
import DeviceHarness.Suite.Preconditions
import DeviceHarness.Suite.Rig
import DeviceHarness.Suite.Run
import DeviceHarness.Suite.RunAs
import DeviceHarness.Suite.Selinux
import DeviceHarness.Suite.Splits
import DeviceHarness.Suite.TrustedVoice
import DeviceHarness.Text.Blank
import DeviceHarness.Text.Escaped
import DeviceHarness.Text.Hidden
import DeviceHarness.Text.Integer
import DeviceHarness.Text.Letters
import DeviceHarness.Text.Lines
import DeviceHarness.Text.Lossy
import DeviceHarness.Text.Numeral
import DeviceHarness.Text.Quoted
import DeviceHarness.Text.Ranges
import DeviceHarness.Text.Search
import DeviceHarness.Text.Split
import DeviceHarness.Toml.Document
import DeviceHarness.Toml.Moment
import DeviceHarness.Toml.Reader
import DeviceHarness.Toml.Scalar
import DeviceHarness.Toml.Strings
import DeviceHarness.Toml.Tree
import DeviceHarness.Toml.Value
import DeviceHarness.Users
import DeviceHarness.Wait
import DeviceHarness.Proofs.AbiChoice
import DeviceHarness.Proofs.ActionRelations
import DeviceHarness.Proofs.AdbSteps
import DeviceHarness.Proofs.AdbTraffic
import DeviceHarness.Proofs.AsideCalls
import DeviceHarness.Proofs.Backoff
import DeviceHarness.Proofs.BenchMemory
import DeviceHarness.Proofs.CommandCalls
import DeviceHarness.Proofs.CommandWords
import DeviceHarness.Proofs.DeviceAccess
import DeviceHarness.Proofs.DeviceChoice
import DeviceHarness.Proofs.DeviceListing
import DeviceHarness.Proofs.DocumentOrder
import DeviceHarness.Proofs.DumpFailures
import DeviceHarness.Proofs.DumpReading
import DeviceHarness.Proofs.DumpVerification
import DeviceHarness.Proofs.HarnessSettings
import DeviceHarness.Proofs.HostCalls
import DeviceHarness.Proofs.InstallOrder
import DeviceHarness.Proofs.InstallOutcomes
import DeviceHarness.Proofs.InstrumentationEvents
import DeviceHarness.Proofs.InstrumentationPending
import DeviceHarness.Proofs.InstrumentationRendering
import DeviceHarness.Proofs.InstrumentationSeam
import DeviceHarness.Proofs.InstrumentationTally
import DeviceHarness.Proofs.InstrumentationValues
import DeviceHarness.Proofs.InstrumentationVerdict
import DeviceHarness.Proofs.KeyRules
import DeviceHarness.Proofs.JsonReading
import DeviceHarness.Proofs.LauncherUsers
import DeviceHarness.Proofs.LayoutFit
import DeviceHarness.Proofs.LayoutPositions
import DeviceHarness.Proofs.LayoutTables
import DeviceHarness.Proofs.LineEndings
import DeviceHarness.Proofs.LoggedMessage
import DeviceHarness.Proofs.Numerals
import DeviceHarness.Proofs.PackageListing
import DeviceHarness.Proofs.PolicyVerdict
import DeviceHarness.Proofs.Polling
import DeviceHarness.Proofs.ProcessStatesReading
import DeviceHarness.Proofs.SessionId
import DeviceHarness.Proofs.ShellWords
import DeviceHarness.Proofs.StagedFiles
import DeviceHarness.Proofs.StateCodes
import DeviceHarness.Proofs.SuiteReports
import DeviceHarness.Proofs.SuiteRounds
import DeviceHarness.Proofs.TaskRelations
import DeviceHarness.Proofs.TrailingColumns
import DeviceHarness.Proofs.TransportFailures
import DeviceHarness.Proofs.UserListing
import DeviceHarness.Proofs.UserReadiness
import DeviceHarness.Proofs.UserRemoval
import DeviceHarness.Proofs.UserSerials
import DeviceHarness.Proofs.UserTracking
import DeviceHarness.Proofs.ValidatorAccounts
