import SampleProfile.Attribution
import SampleProfile.Binary64.Decimal
import SampleProfile.CallGraph
import SampleProfile.Demangle
import SampleProfile.Focus
import SampleProfile.Main
import SampleProfile.Mapping
import SampleProfile.Prefetch.Conversion
import SampleProfile.Proofs.Saturation
import SampleProfile.Report
import SampleProfile.Samples.TextFormat
import SampleProfile.Session
import SampleProfile.Workspace.Disk
import SampleProfile.Proofs.OrderedMap
import SampleProfile.Proofs.Search
import SampleProfile.Proofs.FunctionTable
import SampleProfile.Proofs.Attribution.Scope
import SampleProfile.Proofs.FunctionProfile
import SampleProfile.Proofs.Suffix
import SampleProfile.Proofs.Attribution.Fate
import SampleProfile.Proofs.Attribution.Account
import SampleProfile.Proofs.Attribution.Run
import SampleProfile.Proofs.Attribution.Merge
import SampleProfile.Proofs.Samples.TextFormat
import SampleProfile.Proofs.Workspace.Disk
import SampleProfile.Proofs.Samples.Source
import SampleProfile.Proofs.Session.Merge
import SampleProfile.Proofs.FunctionProfile.Counts
import SampleProfile.Proofs.ProfileMap.Consistency
import SampleProfile.Proofs.ProfileMap.Targets
import SampleProfile.Proofs.Prefetch.Numbering
import SampleProfile.Proofs.Prefetch.Fate
import SampleProfile.Proofs.Prefetch.Run
import SampleProfile.Proofs.Prefetch.Outcome
import SampleProfile.Proofs.Prefetch.Content
import SampleProfile.Proofs.Prefetch.Entries
import SampleProfile.Proofs.Samples.Layout
import SampleProfile.Proofs.FunctionTable.Coverage
import SampleProfile.Proofs.Attribution.Listing
import SampleProfile.Proofs.Session.Steps
import SampleProfile.Proofs.Session.Listing
import SampleProfile.Proofs.Capture
import SampleProfile.Proofs.Frame
import SampleProfile.Proofs.Mapping.Loading
import SampleProfile.Proofs.FunctionProfile.Walk
import SampleProfile.Proofs.Report.Line
import SampleProfile.Proofs.Report.Text
import SampleProfile.Proofs.Json
import SampleProfile.Proofs.Report.Document
import SampleProfile.Proofs.Session.Outcome
import SampleProfile.Proofs.CallGraph.Walk
import SampleProfile.Proofs.ProfileMap.Variants
import SampleProfile.Proofs.Session.Configuration
import SampleProfile.Proofs.Session.History
import SampleProfile.Proofs.CallGraph.Edges
import SampleProfile.Proofs.SymbolList
import SampleProfile.Proofs.Samples.Faults
import SampleProfile.Proofs.Prefetch.HintFile
import SampleProfile.Proofs.FunctionTable.Scan
import SampleProfile.Proofs.Mapping.Overflow
import SampleProfile.Proofs.Binary64
import SampleProfile.Proofs.SymbolList.Coverage
import SampleProfile.Proofs.Focus.BuildId
import SampleProfile.Proofs.Mapping.History
import SampleProfile.Proofs.Binary64.Order
import SampleProfile.Proofs.SymbolList.Share
import SampleProfile.Proofs.Pattern.Matching
import SampleProfile.Proofs.Pattern.Notation
import SampleProfile.Proofs.Focus.FileName
import SampleProfile.Proofs.FunctionProfile.Nested
import SampleProfile.Proofs.FunctionProfile.Algebra
import SampleProfile.Proofs.FunctionProfile.Stacks
import SampleProfile.Proofs.Text.ByteOrder
import SampleProfile.Proofs.Elf.FunctionSymbols
