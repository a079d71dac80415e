import Arbor.Cli.Grammar
import Arbor.Cli.Parse
import Arbor.Cli.Run
import Arbor.Config.Basic
import Arbor.Diff.Compact
import Arbor.Diff.Script
import Arbor.Diff.Unified
import Arbor.Disk.Basic
import Arbor.Disk.Path
import Arbor.Disk.Replace
import Arbor.Edit.Confirm
import Arbor.Edit.Error
import Arbor.Edit.Fingerprint
import Arbor.Edit.Session
import Arbor.Edit.Splice
import Arbor.Encoding.Basic
import Arbor.Encoding.Chinese
import Arbor.Encoding.Codec
import Arbor.Encoding.Index
import Arbor.Encoding.Japanese
import Arbor.Encoding.Korean
import Arbor.Encoding.Tables.Japanese
import Arbor.Encoding.Tables.Korean
import Arbor.Encoding.Tables.Simplified
import Arbor.Encoding.Tables.SingleByte
import Arbor.Encoding.Tables.Traditional
import Arbor.Glob.Basic
import Arbor.Glob.Match
import Arbor.Layout.Line
import Arbor.Main
import Arbor.Outline.Header
import Arbor.Outline.Node
import Arbor.Outline.Parse
import Arbor.Outline.Span
import Arbor.Pattern.Basic
import Arbor.Pattern.Cache
import Arbor.Pattern.Expand
import Arbor.Proofs.Disk.Frame
import Arbor.Proofs.Disk.Listing
import Arbor.Proofs.Disk.Parent
import Arbor.Proofs.Disk.Path
import Arbor.Proofs.Edit.Batch
import Arbor.Proofs.Edit.Chain
import Arbor.Proofs.Edit.Conflict
import Arbor.Proofs.Edit.Copy
import Arbor.Proofs.Edit.FileByFile
import Arbor.Proofs.Edit.Isolation
import Arbor.Proofs.Edit.Lifecycle
import Arbor.Proofs.Edit.NoOverwrite
import Arbor.Proofs.Edit.Plan
import Arbor.Proofs.Edit.Rebase
import Arbor.Proofs.Edit.Reload
import Arbor.Proofs.Edit.RoundTrip
import Arbor.Proofs.Edit.Splice
import Arbor.Proofs.Edit.Write
import Arbor.Proofs.Layout.Pieces
import Arbor.Proofs.Outline.Declarative
import Arbor.Proofs.Outline.Parse
import Arbor.Proofs.Outline.Resync
import Arbor.Proofs.Pattern.Cache
import Arbor.Proofs.Search.Cursor
import Arbor.Proofs.Search.FindAll
import Arbor.Proofs.Text.Bytes
import Arbor.Proofs.Tree.Ancestors
import Arbor.Proofs.Tree.Build
import Arbor.Proofs.Tree.Climb
import Arbor.Proofs.Tree.Docstring
import Arbor.Proofs.Tree.FromDisk
import Arbor.Proofs.Tree.ImportGroups
import Arbor.Proofs.Tree.Imports
import Arbor.Proofs.Tree.Lines
import Arbor.Proofs.Tree.Lookup
import Arbor.Proofs.Tree.Order
import Arbor.Proofs.Tree.Paths
import Arbor.Proofs.Tree.Preorder
import Arbor.Proofs.Tree.Subtree
import Arbor.Proofs.Tree.Walk
import Arbor.Proofs.Tree.WellFormed
import Arbor.Regex.Basic
import Arbor.Regex.ByteRange
import Arbor.Regex.CharSet
import Arbor.Regex.Interval
import Arbor.Regex.Normal
import Arbor.Regex.Parse
import Arbor.Regex.Program
import Arbor.Regex.Property
import Arbor.Regex.Run
import Arbor.Regex.Size
import Arbor.Regex.Syntax
import Arbor.Render.Match
import Arbor.Render.Outline
import Arbor.Render.Plan
import Arbor.Render.Style
import Arbor.Search
import Arbor.Text.Age
import Arbor.Text.Blank
import Arbor.Text.Boundary
import Arbor.Text.Bytes
import Arbor.Text.CaseFold
import Arbor.Text.Category
import Arbor.Text.Hex
import Arbor.Text.Json
import Arbor.Text.Property
import Arbor.Text.PropertyName
import Arbor.Text.Quoted
import Arbor.Text.Ranges
import Arbor.Text.Script
import Arbor.Text.ScriptExtension
import Arbor.Text.Similarity
import Arbor.Text.Unprintable
import Arbor.Text.Word
import Arbor.Toml.Document
import Arbor.Toml.Read
import Arbor.Toml.Value
import Arbor.Tree.Basic
import Arbor.Tree.Build
import Arbor.Tree.Docstring
import Arbor.Tree.Imports
import Arbor.Tree.Resolve
