import ScriptAudit.Catalog.Access
import ScriptAudit.Error
import ScriptAudit.HotPath
import ScriptAudit.Migration.Check
import ScriptAudit.Overview
import ScriptAudit.Pattern.ExpensiveCall
import ScriptAudit.Pattern.Report
import ScriptAudit.TypeHierarchy
import ScriptAudit.Syntax.Script
import ScriptAudit.Pattern.Analysis
import ScriptAudit.Config
import ScriptAudit.Project.Analysis
import ScriptAudit.Proofs.Ancestry
import ScriptAudit.Proofs.TypeIndex
import ScriptAudit.Proofs.Pattern.Matching
import ScriptAudit.Proofs.Syntax.Ownership
import ScriptAudit.Proofs.Pattern.Analysis
import ScriptAudit.Proofs.Pattern.Report
import ScriptAudit.Proofs.Project.Analysis
import ScriptAudit.Proofs.Catalog.SingleFlight
import ScriptAudit.Proofs.Catalog.Freshness
import ScriptAudit.Proofs.TypeParts
import ScriptAudit.Proofs.Project.Configuration
import ScriptAudit.Proofs.Migration.Check
import ScriptAudit.Proofs.Pattern.Origin
import ScriptAudit.Proofs.Reports
import ScriptAudit.Proofs.Catalog.History
import ScriptAudit.Proofs.Text.Bytes
import ScriptAudit.Proofs.Text.Occurrence
import ScriptAudit.Proofs.Text.Lines
import ScriptAudit.Proofs.Text.LineIndex
import ScriptAudit.Proofs.Text.Position
import ScriptAudit.Proofs.Migration.Lines
import ScriptAudit.Proofs.Ancestry.Steps
import ScriptAudit.Proofs.TypeName.Written
import ScriptAudit.Proofs.ComponentRoot
import ScriptAudit.Proofs.Syntax.Position
import ScriptAudit.Proofs.Pattern.Snippet
import ScriptAudit.Proofs.TypeIndex.Merged
import ScriptAudit.Proofs.Catalog.Category
import ScriptAudit.Proofs.EngineVersion
import ScriptAudit.Proofs.Migration.Search
import ScriptAudit.Proofs.Pattern.History
import ScriptAudit.Proofs.Catalog.Diagnostics
import ScriptAudit.Proofs.Syntax.Chain
import ScriptAudit.Proofs.Pattern.Concatenation
import ScriptAudit.Proofs.Migration.Term
import ScriptAudit.Proofs.Text.Reassembly
import ScriptAudit.Proofs.Syntax.Nesting
import ScriptAudit.Proofs.Pattern.SourceOrder
import ScriptAudit.Proofs.Xml.Reading
import ScriptAudit.Proofs.Xml.Content
import ScriptAudit.Proofs.Project.EnginePath
import ScriptAudit.Proofs.Project.HintPath
import ScriptAudit.Proofs.Syntax.Walk
import ScriptAudit.Proofs.TypeName.Spelling
