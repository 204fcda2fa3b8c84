import AudioRules.Access
import AudioRules.AppId
import AudioRules.Card
import AudioRules.Characters.Age
import AudioRules.Characters.Boundary
import AudioRules.Characters.CaseFolding
import AudioRules.Characters.Category
import AudioRules.Characters.CharSet
import AudioRules.Characters.Newer
import AudioRules.Characters.Property
import AudioRules.Characters.Range
import AudioRules.Characters.Script
import AudioRules.Characters.Spans
import AudioRules.Classifier
import AudioRules.CommandLine.Arguments
import AudioRules.CommandLine.Check
import AudioRules.CommandLine.Classify
import AudioRules.CommandLine.FileTree
import AudioRules.CommandLine.Group
import AudioRules.CommandLine.Machine
import AudioRules.CommandLine.Rules
import AudioRules.CommandLine.Run
import AudioRules.Decimal.Shortest
import AudioRules.Device
import AudioRules.Error
import AudioRules.Flags
import AudioRules.Group
import AudioRules.HostObject
import AudioRules.Json.Basic
import AudioRules.Json.Decode
import AudioRules.Json.Number
import AudioRules.Json.Reader
import AudioRules.KeyMap
import AudioRules.Keyed
import AudioRules.Main
import AudioRules.Module.Pactl
import AudioRules.Module.Slots
import AudioRules.Module.Spec
import AudioRules.Pattern.Form
import AudioRules.Pattern.Named
import AudioRules.Pattern.Reader
import AudioRules.Pattern.Regex
import AudioRules.Pattern.Room
import AudioRules.Pattern.Search
import AudioRules.Predicate.Basic
import AudioRules.Predicate.Spec
import AudioRules.Proofs.AppId
import AudioRules.Proofs.Engine.Compiled
import AudioRules.Proofs.Engine.Refusal
import AudioRules.Proofs.Engine.Run
import AudioRules.Proofs.Except
import AudioRules.Proofs.KeyMap
import AudioRules.Proofs.KeyMap.Entries
import AudioRules.Proofs.Module.Conservation
import AudioRules.Proofs.Module.Journal
import AudioRules.Proofs.Predicate.Compiled
import AudioRules.Proofs.RuleSet.Item
import AudioRules.Proofs.RuleSet.Rejection
import AudioRules.Proofs.RuleSet.Reload
import AudioRules.Proofs.RuleTable
import AudioRules.Proofs.StateMachine
import AudioRules.Proofs.Stream.Activity
import AudioRules.Proofs.Stream.Calls
import AudioRules.Proofs.Stream.FilterSet
import AudioRules.Proofs.Stream.Registration
import AudioRules.Proofs.Stream.Resolution
import AudioRules.Proofs.Table.Calls
import AudioRules.Proofs.Table.Rules
import AudioRules.Proplist
import AudioRules.RuleSet.Apply
import AudioRules.RuleSet.Basic
import AudioRules.RuleSet.Document
import AudioRules.RuleTable
import AudioRules.Snapshot
import AudioRules.Stream
import AudioRules.Text.Blank
import AudioRules.Text.Bytes
import AudioRules.Text.Cut
import AudioRules.Text.Natural
import AudioRules.Text.Quoted
import AudioRules.Tool
import AudioRules.Variables
import AudioRules.Warning
import AudioRules.Proofs.Table.Classification
import AudioRules.Proofs.Module.Slots
import AudioRules.Proofs.Module.Turnover
import AudioRules.Proofs.Module.UnloadMode
import AudioRules.Proofs.Module.Reconciliation
import AudioRules.Proofs.Module.Unlinking
import AudioRules.Proofs.Predicate.Text
import AudioRules.Proofs.AppId.Calls
import AudioRules.Proofs.Predicate.Substitution
import AudioRules.Proofs.RuleSet.Substitution
import AudioRules.Proofs.Pattern.Matching
import AudioRules.Proofs.Pattern.Rest
import AudioRules.Proofs.Pattern.Sequence
import AudioRules.Proofs.Pattern.Outcome
import AudioRules.Proofs.Pattern.Outcome.Escape
import AudioRules.Proofs.Pattern.Outcome.Bracket
import AudioRules.Proofs.Pattern.Outcome.Group
import AudioRules.Proofs.Pattern.Enclosed
import AudioRules.Proofs.Table.CardClassification
import AudioRules.Proofs.Engine.Cards
import AudioRules.Proofs.CommandLine.Announcement
import AudioRules.Proofs.Snapshot
import AudioRules.Proofs.RuleSet.AppIds
import AudioRules.Proofs.Engine.GroupNames
import AudioRules.Proofs.CommandLine.Contents
import AudioRules.Proofs.CommandLine.Agreement
import AudioRules.Proofs.Module.Update
import AudioRules.Proofs.CommandLine.Clientless
import AudioRules.Proofs.Json.Decode
import AudioRules.Proofs.RuleSet.Document
import AudioRules.Proofs.Text.Bytes
import AudioRules.Proofs.Text.Words
import AudioRules.Proofs.Module.DryRun
import AudioRules.Proofs.Module.CompactForm
import AudioRules.Proofs.Table.Ports
import AudioRules.Proofs.Predicate.Sameness
import AudioRules.Proofs.Proplist
import AudioRules.Proofs.RuleSet.Warnings
