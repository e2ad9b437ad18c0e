import Graft.Build
import Graft.Cache
import Graft.Charset.Candidate
import Graft.Charset.CodePage
import Graft.Charset.Decode
import Graft.Charset.Detect
import Graft.Charset.DoubleByte
import Graft.Charset.MultiByte
import Graft.Charset.Plane
import Graft.Charset.Plane.Big5
import Graft.Charset.Plane.Ksx1001
import Graft.Charset.Sniff
import Graft.Charset.Trigram
import Graft.Cli.Command
import Graft.Cli.Completion
import Graft.Cli.Flag
import Graft.Cli.Help
import Graft.Cli.Program
import Graft.Cli.Run
import Graft.Component.Block
import Graft.Component.Read
import Graft.Component.Write
import Graft.Discovery
import Graft.Disk
import Graft.Document
import Graft.Extend.Chain
import Graft.Extend.Kind
import Graft.Extend.Merge
import Graft.Extend.Override
import Graft.Extend.Transform
import Graft.Glob
import Graft.Gzip
import Graft.Gzip.Deflate
import Graft.Gzip.Huffman
import Graft.Http.Accept
import Graft.Http.Address
import Graft.Http.Exposition
import Graft.Http.Listen
import Graft.Http.Message
import Graft.Http.RateLimit
import Graft.Http.Service
import Graft.Http.Transform
import Graft.Json
import Graft.Json.Field
import Graft.Json.Text
import Graft.Loader
import Graft.Log
import Graft.Main
import Graft.Manifest
import Graft.Markup.Edit
import Graft.Markup.Entity
import Graft.Markup.Entity.Table
import Graft.Markup.Node
import Graft.Markup.Progress
import Graft.Markup.Render
import Graft.Markup.Scan
import Graft.Markup.Spelling
import Graft.Markup.Token
import Graft.Markup.Tokens
import Graft.Metrics
import Graft.Path
import Graft.Proofs.Component.Enclosed
import Graft.Proofs.Component.Grammar
import Graft.Proofs.Component.RoundTrip
import Graft.Proofs.Component.Shifted
import Graft.Proofs.Component.Template
import Graft.Proofs.Component.WrittenBlock
import Graft.Proofs.Extend.Composition
import Graft.Proofs.Extend.Merged
import Graft.Proofs.Extend.Settled
import Graft.Proofs.Extend.Substitution
import Graft.Proofs.Markup.Boundary
import Graft.Proofs.Markup.Content
import Graft.Proofs.Markup.Forest
import Graft.Proofs.Markup.Joined
import Graft.Proofs.Markup.Nesting
import Graft.Proofs.Markup.Reference
import Graft.Proofs.Markup.Run
import Graft.Proofs.Markup.Scanned
import Graft.Proofs.Markup.Tag
import Graft.Proofs.Markup.Written
import Graft.Proofs.Markup.WrittenTag
import Graft.Proofs.Text.Case
import Graft.Report
import Graft.Settings
import Graft.Sha256
import Graft.Text.Base64
import Graft.Text.Bytes
import Graft.Text.Decimal
import Graft.Text.Escaped
import Graft.Text.Fold
import Graft.Text.Lower
import Graft.Text.Numeral
import Graft.Text.Printable
import Graft.Text.Quoted
import Graft.Text.Real
import Graft.Text.Record
import Graft.Text.Utf8
import Graft.Toml
import Graft.Toml.Known
import Graft.Toml.Text
import Graft.Toml.Value
import Graft.Transformer
import Graft.Ulid
import Graft.Url
import Graft.Yaml
import Graft.Yaml.Block
import Graft.Yaml.Node
import Graft.Yaml.Phrase
import Graft.Yaml.Quoted
import Graft.Yaml.Scalar
import Graft.Yaml.Token
import Graft.Yaml.Tokens
import Graft.Yaml.Value
import Graft.Proofs.Extend.TemplateTree
import Graft.Proofs.Markup.NormalForm
import Graft.Proofs.Extend.Untouched
import Graft.Proofs.Extend.Followed
import Graft.Proofs.Text.Order
import Graft.Proofs.Extend.Trail
import Graft.Proofs.Extend.Outcome
import Graft.Proofs.Component.Padded
import Graft.Proofs.Component.Reassembled
import Graft.Proofs.Markup.Lacking
import Graft.Proofs.Extend.Finished
import Graft.Proofs.Extend.Closed
import Graft.Proofs.Extend.PassedThrough
import Graft.Proofs.Extend.Interchanged
import Graft.Proofs.Extend.Noninterference
import Graft.Proofs.Markup.Outline
import Graft.Proofs.Component.Outlined
import Graft.Proofs.Extend.PadMode
import Graft.Proofs.Extend.Answered
import Graft.Proofs.Cache.Recency
import Graft.Proofs.Http.Classified
import Graft.Proofs.Build.Pool
import Graft.Proofs.Disk.Grown
import Graft.Proofs.Text.Utf8
import Graft.Proofs.Glob.Escaped
import Graft.Proofs.Path.Spelled
import Graft.Proofs.Disk.Plain
import Graft.Proofs.Build.Alone
import Graft.Proofs.Build.Schedule
import Graft.Proofs.Build.Selected
import Graft.Proofs.Disk.Tree
import Graft.Proofs.Discovery.Visited
import Graft.Proofs.Discovery.Found
import Graft.Proofs.Discovery.Walk
import Graft.Proofs.Build.Independent
import Graft.Proofs.Build.Repeated
import Graft.Proofs.Build.Rebuild
import Graft.Proofs.Extend.Within
import Graft.Proofs.Extend.Spliced
import Graft.Proofs.Component.Lined
import Graft.Proofs.Disk.Linked
import Graft.Proofs.Loader.Confined
import Graft.Proofs.Loader.Rooted
import Graft.Proofs.Markup.DocumentOrder
import Graft.Proofs.Component.Attributes
import Graft.Proofs.Component.Inserted
import Graft.Proofs.Ulid.Sortable
import Graft.Proofs.Markup.SourceSpelling
import Graft.Proofs.Build.OutputExclude
import Graft.Proofs.Path.Evaluated
import Graft.Proofs.Path.InPlace
import Graft.Proofs.Extend.Referred
import Graft.Proofs.Markup.Ended
import Graft.Proofs.Component.TokenLoop
import Graft.Proofs.Component.TemplateTokens
