import Gatehouse.Admin.Access
import Gatehouse.Admin.Answer
import Gatehouse.Admin.BasePath
import Gatehouse.Admin.Body
import Gatehouse.Admin.Endpoint
import Gatehouse.Backend
import Gatehouse.Bypass
import Gatehouse.Cache.Draft
import Gatehouse.Cache.Json
import Gatehouse.Cache.Line
import Gatehouse.Cache.MethodSet
import Gatehouse.Cache.Rule
import Gatehouse.Describe
import Gatehouse.Digest.Sha256
import Gatehouse.Disk.Error
import Gatehouse.Disk.Path
import Gatehouse.Disk.Replace
import Gatehouse.Disk.Volume
import Gatehouse.Fingerprint
import Gatehouse.Gate.Annotation
import Gatehouse.Gate.Inspection
import Gatehouse.Gate.Passage
import Gatehouse.Http.Headers
import Gatehouse.Http.MediaType
import Gatehouse.Http.Message
import Gatehouse.Http.Target
import Gatehouse.Http.Url
import Gatehouse.Json.Basic
import Gatehouse.Json.Decode
import Gatehouse.Json.Draft
import Gatehouse.Pattern.Basic
import Gatehouse.Pattern.CharSet
import Gatehouse.Pattern.Engine
import Gatehouse.Pattern.Property
import Gatehouse.Pattern.Reader
import Gatehouse.Pattern.Search
import Gatehouse.Pattern.Size
import Gatehouse.Pattern.Tree
import Gatehouse.Percent
import Gatehouse.Policy.Closing
import Gatehouse.Policy.Error
import Gatehouse.Policy.File
import Gatehouse.Policy.Interleaving
import Gatehouse.Policy.Live
import Gatehouse.Policy.Watch
import Gatehouse.Proofs.Admin.Templates
import Gatehouse.Proofs.Bypass.Checking
import Gatehouse.Proofs.Cache.Agreement
import Gatehouse.Proofs.Cache.Checking
import Gatehouse.Proofs.Cache.Drafts
import Gatehouse.Proofs.Cache.Losses
import Gatehouse.Proofs.Cache.Options
import Gatehouse.Proofs.Cache.Reading
import Gatehouse.Proofs.Cache.Reordering
import Gatehouse.Proofs.Cache.Writing
import Gatehouse.Proofs.Disk.Backups
import Gatehouse.Proofs.Disk.Copies
import Gatehouse.Proofs.Disk.Following
import Gatehouse.Proofs.Disk.Holding
import Gatehouse.Proofs.Disk.Naming
import Gatehouse.Proofs.Disk.Places
import Gatehouse.Proofs.Disk.Replacement
import Gatehouse.Proofs.Disk.Supplies
import Gatehouse.Proofs.Disk.Walk
import Gatehouse.Proofs.Gate.Crossing
import Gatehouse.Proofs.Gate.Editing
import Gatehouse.Proofs.Gate.Framing
import Gatehouse.Proofs.Gate.Marking
import Gatehouse.Proofs.Gate.Mediation
import Gatehouse.Proofs.Gate.Spellings
import Gatehouse.Proofs.Gate.Upstream
import Gatehouse.Proofs.Gate.Varying
import Gatehouse.Proofs.Http.Escaping
import Gatehouse.Proofs.Http.HeaderText
import Gatehouse.Proofs.Http.Resolution
import Gatehouse.Proofs.Http.Sites
import Gatehouse.Proofs.Path.Canonical
import Gatehouse.Proofs.Path.Segments
import Gatehouse.Proofs.Policy.Closing
import Gatehouse.Proofs.Policy.Commit
import Gatehouse.Proofs.Policy.Overtaking
import Gatehouse.Proofs.Policy.Reloading
import Gatehouse.Proofs.Policy.Session
import Gatehouse.Proofs.Policy.Superseding
import Gatehouse.Proofs.Policy.Updates
import Gatehouse.Proofs.Policy.Watching
import Gatehouse.Proofs.Rules.Composition
import Gatehouse.Proofs.Rules.Reporting
import Gatehouse.Proofs.Rules.Stability
import Gatehouse.Proofs.Rules.Writing
import Gatehouse.Proofs.Server.Admission
import Gatehouse.Proofs.Server.DryRun
import Gatehouse.Proofs.Server.Preconditions
import Gatehouse.Proofs.Server.Starting
import Gatehouse.Proofs.Settings.Prefixes
import Gatehouse.Proofs.Text.Escapes
import Gatehouse.Proofs.Text.Numerals
import Gatehouse.Proofs.Text.Spelling
import Gatehouse.Proofs.Text.Utf8Bytes
import Gatehouse.Proofs.Text.Words
import Gatehouse.Report
import Gatehouse.RequestPath
import Gatehouse.Rules.Grammar
import Gatehouse.Rules.Line
import Gatehouse.Server.Serve
import Gatehouse.Server.Startup
import Gatehouse.Settings.Basic
import Gatehouse.Settings.EnvFile
import Gatehouse.Settings.Environment
import Gatehouse.Text.Blank
import Gatehouse.Text.Decimal
import Gatehouse.Text.Pieces
import Gatehouse.Text.Quoted
import Gatehouse.Text.Utf8
import Gatehouse.Unicode.CaseMap
import Gatehouse.Unicode.CaseTable
import Gatehouse.Unicode.Category
import Gatehouse.Unicode.CategoryTable
import Gatehouse.Unicode.PropertyTable
import Gatehouse.Unicode.Script
import Gatehouse.Unicode.ScriptTable
import Gatehouse.Unicode.Spans
