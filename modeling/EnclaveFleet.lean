import EnclaveFleet.Bootstrap.Commands
import EnclaveFleet.Bootstrap.Script
import EnclaveFleet.Bootstrap.Shipped
import EnclaveFleet.Bytes.Base64
import EnclaveFleet.Bytes.Hex
import EnclaveFleet.Bytes.Md5
import EnclaveFleet.Cloud.Fault
import EnclaveFleet.Cloud.Service
import EnclaveFleet.Console.Completion
import EnclaveFleet.Console.Completion.Dialect
import EnclaveFleet.Console.Execute
import EnclaveFleet.Console.Option
import EnclaveFleet.Console.Page
import EnclaveFleet.Console.Session
import EnclaveFleet.Deferred
import EnclaveFleet.Deferred.Marker
import EnclaveFleet.Failure
import EnclaveFleet.Files.Change
import EnclaveFleet.Files.Directory
import EnclaveFleet.Files.Fault
import EnclaveFleet.Files.Location
import EnclaveFleet.Files.Path
import EnclaveFleet.Files.Tree
import EnclaveFleet.InstanceType
import EnclaveFleet.Json.Basic
import EnclaveFleet.Json.Display
import EnclaveFleet.Json.Reader
import EnclaveFleet.Json.Writer
import EnclaveFleet.Main
import EnclaveFleet.Number.Double
import EnclaveFleet.Number.Layout
import EnclaveFleet.Preflight
import EnclaveFleet.Proofs.Bootstrap.Deployed
import EnclaveFleet.Proofs.Bootstrap.Encoded
import EnclaveFleet.Proofs.Bootstrap.EnvFile
import EnclaveFleet.Proofs.Bootstrap.InlineWords
import EnclaveFleet.Proofs.Bootstrap.KeyNames
import EnclaveFleet.Proofs.Bootstrap.Payload
import EnclaveFleet.Proofs.Bootstrap.ScriptWords
import EnclaveFleet.Proofs.Bytes.Base64
import EnclaveFleet.Proofs.Bytes.Regrouping
import EnclaveFleet.Proofs.Console.CommandLine
import EnclaveFleet.Proofs.Console.Endings
import EnclaveFleet.Proofs.Console.Gate
import EnclaveFleet.Proofs.Console.InvalidSettings
import EnclaveFleet.Proofs.Console.PrintedBootstrap
import EnclaveFleet.Proofs.Console.Showing
import EnclaveFleet.Proofs.Files.Refusals
import EnclaveFleet.Proofs.Json.Fields
import EnclaveFleet.Proofs.Json.FlatObject
import EnclaveFleet.Proofs.Json.Grammar
import EnclaveFleet.Proofs.Json.Limits
import EnclaveFleet.Proofs.Json.Numbers
import EnclaveFleet.Proofs.Json.Reading
import EnclaveFleet.Proofs.Json.Strings
import EnclaveFleet.Proofs.Json.Vacant
import EnclaveFleet.Proofs.Preflight.Isolation
import EnclaveFleet.Proofs.Preflight.KeyPresence
import EnclaveFleet.Proofs.Preflight.Secrecy
import EnclaveFleet.Proofs.Preflight.Trace
import EnclaveFleet.Proofs.Preflight.Verdict
import EnclaveFleet.Proofs.Settings.Accepted
import EnclaveFleet.Proofs.Settings.CloneDirectory
import EnclaveFleet.Proofs.Settings.EmptyVariables
import EnclaveFleet.Proofs.Settings.IntegerVariables
import EnclaveFleet.Proofs.Settings.ListVariables
import EnclaveFleet.Proofs.Settings.Reported
import EnclaveFleet.Proofs.Settings.Requirements
import EnclaveFleet.Proofs.Settings.VariableFields
import EnclaveFleet.Proofs.Shell.Lexer
import EnclaveFleet.Proofs.Shell.Literal
import EnclaveFleet.Proofs.Shell.Recognition
import EnclaveFleet.Proofs.Shell.Scanner
import EnclaveFleet.Proofs.Stack.EarlyFailure
import EnclaveFleet.Proofs.Stack.Ingress
import EnclaveFleet.Proofs.Stack.LaunchedText
import EnclaveFleet.Proofs.Stack.Layout
import EnclaveFleet.Proofs.Stack.MachineImage
import EnclaveFleet.Proofs.Stack.PartIds
import EnclaveFleet.Proofs.Stack.ResourceGraph
import EnclaveFleet.Proofs.Template.Flatten
import EnclaveFleet.Proofs.Template.Lookup
import EnclaveFleet.Proofs.Text.Cuts
import EnclaveFleet.Proofs.Text.Numerals
import EnclaveFleet.Proofs.Text.Occurrences
import EnclaveFleet.Proofs.Text.Trimming
import EnclaveFleet.Run
import EnclaveFleet.Settings.Acceptance
import EnclaveFleet.Settings.Basic
import EnclaveFleet.Settings.Change
import EnclaveFleet.Settings.Description
import EnclaveFleet.Settings.Environment
import EnclaveFleet.Settings.Problem
import EnclaveFleet.Settings.Process
import EnclaveFleet.Settings.Summary
import EnclaveFleet.Settings.Validation
import EnclaveFleet.Settings.Variable
import EnclaveFleet.Shell.Quote
import EnclaveFleet.Shell.Words
import EnclaveFleet.Stack.Assembly
import EnclaveFleet.Stack.Build
import EnclaveFleet.Stack.Hosts
import EnclaveFleet.Stack.LogicalId
import EnclaveFleet.Stack.Name
import EnclaveFleet.Stack.Network
import EnclaveFleet.Stack.Part
import EnclaveFleet.Stack.Placement
import EnclaveFleet.Template.Basic
import EnclaveFleet.Template.Document
import EnclaveFleet.Template.Texts
import EnclaveFleet.Text.Blank
import EnclaveFleet.Text.Breaks
import EnclaveFleet.Text.Brief
import EnclaveFleet.Text.CaseMap
import EnclaveFleet.Text.CaseMap.Table
import EnclaveFleet.Text.Echo
import EnclaveFleet.Text.Encoding
import EnclaveFleet.Text.Escapes
import EnclaveFleet.Text.Numeral
import EnclaveFleet.Text.Points
import EnclaveFleet.Text.Printable
import EnclaveFleet.Text.Quoted
import EnclaveFleet.Text.Runs
import EnclaveFleet.Text.Similar
import EnclaveFleet.Text.Split
import EnclaveFleet.Text.Units
import EnclaveFleet.Workspace
