import TestDiscovery.Files.Tree
import TestDiscovery.Main
import TestDiscovery.Json.Reader
import TestDiscovery.Proofs.Outcome
import TestDiscovery.Proofs.Entries
import TestDiscovery.Proofs.Text.Parts
import TestDiscovery.Proofs.Text.Joined
import TestDiscovery.Proofs.Text.ByteOrder
import TestDiscovery.Proofs.Files.Spelling
import TestDiscovery.Proofs.Selector.MethodText
import TestDiscovery.Proofs.Selector.MethodGrammar
import TestDiscovery.Proofs.Pattern.Rounds
import TestDiscovery.Proofs.Pattern.Matches
import TestDiscovery.Proofs.Pattern.Significant
import TestDiscovery.Proofs.Pattern.Readers
import TestDiscovery.Proofs.Pattern.SetReaders
import TestDiscovery.Proofs.Pattern.Lexing
import TestDiscovery.Proofs.Pattern.Enclosed
import TestDiscovery.Proofs.Pattern.Bounds
import TestDiscovery.Proofs.Pattern.Anchored
import TestDiscovery.Proofs.Filter.WholeName
import TestDiscovery.Proofs.Filter.Tags
import TestDiscovery.Proofs.Building.Additions
import TestDiscovery.Proofs.Building.Contract
import TestDiscovery.Proofs.Parameters.Runs
import TestDiscovery.Proofs.Config.Applied
import TestDiscovery.Proofs.Building.Batches
import TestDiscovery.Proofs.Building.Objects
import TestDiscovery.Proofs.Building.Runs
import TestDiscovery.Proofs.Building.Journal
import TestDiscovery.Proofs.Building.ByType
import TestDiscovery.Proofs.Launch.Stages
import TestDiscovery.Proofs.Launch.Faults
import TestDiscovery.Proofs.Launch.Assembled
import TestDiscovery.Proofs.Launch.Kept
import TestDiscovery.Proofs.Launch.Influence
import TestDiscovery.Proofs.Request.Faithful
import TestDiscovery.Proofs.Request.Identified
import TestDiscovery.Proofs.CommandLine.Occurrences
import TestDiscovery.Proofs.CommandLine.ReadBack
import TestDiscovery.Proofs.CommandLine.JsonFlag
import TestDiscovery.Proofs.Json.ReadBack
import TestDiscovery.Proofs.Request.JsonForm
import TestDiscovery.Proofs.Report.Printed
import TestDiscovery.Proofs.Report.Modes
import TestDiscovery.Proofs.Toml.Distinct
import TestDiscovery.Proofs.Config.Fields
import TestDiscovery.Proofs.Config.Accepted
import TestDiscovery.Proofs.Config.Merged
import TestDiscovery.Proofs.Config.Unknown
import TestDiscovery.Proofs.Config.Endings
import TestDiscovery.Proofs.Launch.Displayed
import TestDiscovery.Proofs.Launch.Document
import TestDiscovery.Proofs.Launch.ParameterSources
