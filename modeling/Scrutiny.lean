import Scrutiny.Check.Basic
import Scrutiny.Check.Commits
import Scrutiny.Check.Demand
import Scrutiny.Check.Groups
import Scrutiny.Check.Idioms
import Scrutiny.Check.Imports
import Scrutiny.Check.Layout
import Scrutiny.Check.Naming
import Scrutiny.Check.Preflight
import Scrutiny.Check.Readme
import Scrutiny.Check.Registry
import Scrutiny.Code.Assignment
import Scrutiny.Code.Branching
import Scrutiny.Code.Builtin
import Scrutiny.Code.Call
import Scrutiny.Code.Comparison
import Scrutiny.Code.Definition
import Scrutiny.Code.Family
import Scrutiny.Code.Import
import Scrutiny.Code.Indent
import Scrutiny.Code.Kind
import Scrutiny.Code.Links
import Scrutiny.Code.Names
import Scrutiny.Code.Node
import Scrutiny.Code.Usage
import Scrutiny.CommandLine
import Scrutiny.Disk.Folder
import Scrutiny.Disk.Path
import Scrutiny.Disk.Pathspec
import Scrutiny.Disk.Repository
import Scrutiny.Disk.Revision
import Scrutiny.Disk.Snapshot
import Scrutiny.Disk.Visit
import Scrutiny.Failure
import Scrutiny.Gate
import Scrutiny.Ini.Document
import Scrutiny.Ini.Fault
import Scrutiny.Ini.Reference
import Scrutiny.Language
import Scrutiny.Language.Locale
import Scrutiny.Main
import Scrutiny.Number.Binary
import Scrutiny.Number.Decimal
import Scrutiny.Project
import Scrutiny.Proofs.Phases
import Scrutiny.Report
import Scrutiny.Review
import Scrutiny.Session
import Scrutiny.Settings
import Scrutiny.Settings.Document
import Scrutiny.Text.Case
import Scrutiny.Text.CaseTable
import Scrutiny.Text.Charset
import Scrutiny.Text.ControlTable
import Scrutiny.Text.Digit
import Scrutiny.Text.Lines
import Scrutiny.Text.Link
import Scrutiny.Text.Order
import Scrutiny.Text.Prose
import Scrutiny.Text.Quoted
import Scrutiny.Text.Search
import Scrutiny.Text.Space
import Scrutiny.Text.Tabs
import Scrutiny.Text.Utf8
import Scrutiny.Text.Wildcard
import Scrutiny.Text.Words
import Scrutiny.Tree
import Scrutiny.Value
import Scrutiny.Proofs.SyntaxGuard
import Scrutiny.Proofs.Paths
import Scrutiny.Proofs.Reading
import Scrutiny.Proofs.Walks
import Scrutiny.Proofs.SkippedFolders
import Scrutiny.Proofs.Passing
import Scrutiny.Proofs.SourceOrder
import Scrutiny.Proofs.Leniency
import Scrutiny.Proofs.Announced
import Scrutiny.Proofs.Decoding
import Scrutiny.Proofs.Contents
import Scrutiny.Proofs.Collection
import Scrutiny.Proofs.SizeGuard
import Scrutiny.Proofs.ReadmeLookup
import Scrutiny.Proofs.Offenders
import Scrutiny.Proofs.MovedProjects
import Scrutiny.Proofs.Location
import Scrutiny.Proofs.Lines
import Scrutiny.Proofs.Encoding
import Scrutiny.Proofs.Screening
import Scrutiny.Proofs.Requests
import Scrutiny.Proofs.Subfolders
import Scrutiny.Proofs.FolderPaths
import Scrutiny.Proofs.Findings
import Scrutiny.Proofs.TrackedData
import Scrutiny.Proofs.TreeWalk
import Scrutiny.Proofs.LoopNames
import Scrutiny.Proofs.Indentation
import Scrutiny.Proofs.Nesting
import Scrutiny.Proofs.NamedTargets
import Scrutiny.Proofs.LocalConstants
import Scrutiny.Proofs.Ancestors
import Scrutiny.Proofs.InnerImports
import Scrutiny.Proofs.ExitCalls
import Scrutiny.Proofs.FencedCode
import Scrutiny.Proofs.LineLimit
import Scrutiny.Proofs.Decorations
import Scrutiny.Proofs.Gates
import Scrutiny.Proofs.ImportedNames
import Scrutiny.Proofs.QueryAddresses
import Scrutiny.Proofs.LevelOrder
import Scrutiny.Proofs.MissingProjects
import Scrutiny.Proofs.PrintedReport
import Scrutiny.Proofs.WrittenSettings
import Scrutiny.Proofs.ParentLinks
import Scrutiny.Proofs.BoundedClimb
import Scrutiny.Proofs.LineTables
