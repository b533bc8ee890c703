import Parley.Console
import Parley.Demo.Basic
import Parley.Demo.Samples
import Parley.Expression.Evaluate
import Parley.Library.Check
import Parley.Main
import Parley.Script.File
import Parley.Session.Lines
import Parley.Session.Machine
import Parley.Session.Speaker
import Parley.Session.Stage
import Parley.Settings
import Parley.Variables.Exchange
import Parley.Proofs.Session.Contract
import Parley.Proofs.Session.Conduct
import Parley.Proofs.Session.Calls
import Parley.Proofs.Session.Teardown
import Parley.Proofs.Session.Rehearsal
import Parley.Proofs.Session.Pauses
import Parley.Proofs.Session.InStep
import Parley.Proofs.Session.Company
import Parley.Proofs.Session.Pace
import Parley.Proofs.Script.Hushed
import Parley.Proofs.Session.Likeness
import Parley.Proofs.Session.Strictness
import Parley.Proofs.Script.Directives
import Parley.Proofs.Session.Blocks
import Parley.Proofs.Session.Jumps
import Parley.Proofs.Session.Rest
import Parley.Proofs.Dialog.Saved
import Parley.Proofs.Library.Accepted
import Parley.Proofs.Library.Loaded
import Parley.Proofs.Library.Compiled
import Parley.Proofs.Session.Faults
import Parley.Proofs.Session.Composure
import Parley.Proofs.Session.Announcements
import Parley.Proofs.Session.Brackets
import Parley.Proofs.Session.Links
import Parley.Proofs.Json.Pruned
import Parley.Proofs.Library.Agreement
import Parley.Proofs.Library.Folder
import Parley.Proofs.Number.Numerals
import Parley.Proofs.Session.Tally
import Parley.Proofs.Session.Visits
import Parley.Proofs.Variables.Merging
import Parley.Proofs.Variables.Delimited
import Parley.Proofs.Variables.Counting
import Parley.Proofs.Expression.Splitting
import Parley.Proofs.Expression.Amendments
import Parley.Proofs.Number.Floats
import Parley.Proofs.Expression.Assignments
import Parley.Proofs.Script.Written
import Parley.Proofs.Session.Dispatch
import Parley.Proofs.Session.Subscriptions
import Parley.Proofs.Keyword.Templates
import Parley.Proofs.Keyword.Replacements
import Parley.Proofs.Session.Refusals
import Parley.Proofs.Session.Sources
import Parley.Proofs.Console.Answers
import Parley.Proofs.Session.Queries
import Parley.Proofs.Session.Descent
import Parley.Proofs.Session.Recording
import Parley.Proofs.Session.Repose
import Parley.Proofs.Console.Choices
import Parley.Proofs.Script.Offers
import Parley.Proofs.Script.Spoken
import Parley.Proofs.Script.Passages
import Parley.Proofs.Session.Errands
