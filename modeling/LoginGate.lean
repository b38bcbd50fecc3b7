import LoginGate.Api.Access
import LoginGate.Api.Decision
import LoginGate.Api.Document
import LoginGate.Api.Health
import LoginGate.Api.Router
import LoginGate.Api.Sessions
import LoginGate.CommandLine.Arguments
import LoginGate.CommandLine.Setting
import LoginGate.CommandLine.Usage
import LoginGate.Decimal.Shortest
import LoginGate.Dictionary
import LoginGate.Flow.Attempt
import LoginGate.Flow.Controller
import LoginGate.Flow.Definition
import LoginGate.Flow.Format
import LoginGate.Flow.Step
import LoginGate.Http.Exchange
import LoginGate.Http.MediaType
import LoginGate.Http.Message
import LoginGate.Http.Uri
import LoginGate.Json.Error
import LoginGate.Json.Expect
import LoginGate.Json.Printer
import LoginGate.Json.Reader
import LoginGate.Json.Skip
import LoginGate.Json.Value
import LoginGate.Main
import LoginGate.Policy.Evaluation
import LoginGate.Policy.Limit
import LoginGate.Policy.Verdict
import LoginGate.Principal
import LoginGate.Principal.Format
import LoginGate.Program
import LoginGate.Proofs.Api.Access
import LoginGate.Proofs.Api.Administration
import LoginGate.Proofs.Api.Answering
import LoginGate.Proofs.Api.Listing
import LoginGate.Proofs.Api.Outsiders
import LoginGate.Proofs.Api.Question
import LoginGate.Proofs.CommandLine.Arguments
import LoginGate.Proofs.CommandLine.Likeness
import LoginGate.Proofs.CommandLine.Spelling
import LoginGate.Proofs.CommandLine.Values
import LoginGate.Proofs.Flow.Authentication
import LoginGate.Proofs.Flow.Course
import LoginGate.Proofs.Flow.Crowd
import LoginGate.Proofs.Flow.Determinacy
import LoginGate.Proofs.Flow.Failure
import LoginGate.Proofs.Flow.Format
import LoginGate.Proofs.Flow.Handover
import LoginGate.Proofs.Flow.Independence
import LoginGate.Proofs.Flow.Interpretation
import LoginGate.Proofs.Flow.Likeness
import LoginGate.Proofs.Flow.Outage
import LoginGate.Proofs.Flow.Overshoot
import LoginGate.Proofs.Flow.Queue
import LoginGate.Proofs.Flow.Recording
import LoginGate.Proofs.Flow.Refinement
import LoginGate.Proofs.Flow.Refusal
import LoginGate.Proofs.Flow.Remediation
import LoginGate.Proofs.Flow.Report
import LoginGate.Proofs.Flow.Separation
import LoginGate.Proofs.Flow.SessionLimited
import LoginGate.Proofs.Flow.SingleEvaluation
import LoginGate.Proofs.Flow.Standing
import LoginGate.Proofs.Flow.Suspension
import LoginGate.Proofs.Flow.Termination
import LoginGate.Proofs.Flow.Turn
import LoginGate.Proofs.Flow.Validation
import LoginGate.Proofs.Flow.Verdict
import LoginGate.Proofs.Json.Gives
import LoginGate.Proofs.Json.Reading
import LoginGate.Proofs.Policy.EntryPoints
import LoginGate.Proofs.Policy.Limit
import LoginGate.Proofs.Principal.Spelling
import LoginGate.Proofs.Principal.Splitting
import LoginGate.Proofs.Registry.Analytics
import LoginGate.Proofs.Registry.Lexing
import LoginGate.Proofs.Registry.Log
import LoginGate.Proofs.Registry.Memory
import LoginGate.Proofs.Registry.Query
import LoginGate.Proofs.Registry.Record
import LoginGate.Proofs.Registry.Renaming
import LoginGate.Proofs.Registry.Stamps
import LoginGate.Proofs.Service.AdminToken
import LoginGate.Proofs.Service.Configuration
import LoginGate.Proofs.Service.Secrets
import LoginGate.Proofs.Telemetry.Endpoint
import LoginGate.Proofs.Telemetry.Headers
import LoginGate.Proofs.Telemetry.Metadata
import LoginGate.Proofs.Text.Numeral
import LoginGate.Proofs.Text.Utf8
import LoginGate.Proofs.Url.Address
import LoginGate.Proofs.Url.Password
import LoginGate.Registry.Analytics
import LoginGate.Registry.Database
import LoginGate.Registry.Format
import LoginGate.Registry.Memory
import LoginGate.Registry.Query
import LoginGate.Registry.Session
import LoginGate.Service.Setup
import LoginGate.Service.Startup
import LoginGate.Telemetry.Exporter
import LoginGate.Telemetry.Metadata
import LoginGate.Text.Base64
import LoginGate.Text.Blank
import LoginGate.Text.Numeral
import LoginGate.Text.Percent
import LoginGate.Text.Quoted
import LoginGate.Text.Split
import LoginGate.Text.Utf8
import LoginGate.Url.Address
import LoginGate.Url.Basic
import LoginGate.Url.Domain
import LoginGate.Url.Parse
import LoginGate.Url.Punycode
import LoginGate.Proofs.Text.Utf16
import LoginGate.Proofs.Http.MediaType
import LoginGate.Proofs.Http.Charset
