import Rulebook.Main
import Rulebook.Proofs.Concatenation
import Rulebook.Proofs.Counters
import Rulebook.Proofs.DeepRules
import Rulebook.Proofs.Documents
import Rulebook.Proofs.EagerGroups
import Rulebook.Proofs.FactoryNames
import Rulebook.Proofs.Grammar
import Rulebook.Proofs.Groups
import Rulebook.Proofs.Histories
import Rulebook.Proofs.KeyOrder
import Rulebook.Proofs.Kinds
import Rulebook.Proofs.LastKeys
import Rulebook.Proofs.LineBreaks
import Rulebook.Proofs.Literals
import Rulebook.Proofs.Modes
import Rulebook.Proofs.Negations
import Rulebook.Proofs.Nesting
import Rulebook.Proofs.NextLines
import Rulebook.Proofs.OptionalMembers
import Rulebook.Proofs.Places
import Rulebook.Proofs.ReadBack
import Rulebook.Proofs.Relocation
import Rulebook.Proofs.Renaming
import Rulebook.Proofs.Reports
import Rulebook.Proofs.Resolution
import Rulebook.Proofs.Respelling
import Rulebook.Proofs.Root
import Rulebook.Proofs.RoundTrip
import Rulebook.Proofs.RuleDepth
import Rulebook.Proofs.SharedLists
import Rulebook.Proofs.Shown
import Rulebook.Proofs.Snapshots
import Rulebook.Proofs.Unions
import Rulebook.Proofs.Unmentioned
import Rulebook.Proofs.Verdicts
import Rulebook.Proofs.VersionPattern
import Rulebook.Proofs.Warnings
