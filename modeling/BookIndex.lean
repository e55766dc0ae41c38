import BookIndex.Cli
import BookIndex.Cli.Command
import BookIndex.Cli.Options
import BookIndex.Collation
import BookIndex.Collation.Order
import BookIndex.Columns
import BookIndex.Config
import BookIndex.Config.Json
import BookIndex.Destination
import BookIndex.Document
import BookIndex.Document.Files
import BookIndex.Document.Scan
import BookIndex.Entry
import BookIndex.Entry.Split
import BookIndex.Expander
import BookIndex.Expander.Expansion
import BookIndex.Folder
import BookIndex.Fragment
import BookIndex.Fragment.Equality
import BookIndex.Fragment.Json
import BookIndex.Fragment.PageNumber
import BookIndex.Fragment.Text
import BookIndex.Group
import BookIndex.Heading
import BookIndex.Heading.Merge
import BookIndex.Heading.Walk
import BookIndex.Index
import BookIndex.Json
import BookIndex.Json.Layout
import BookIndex.Json.Lexer
import BookIndex.Json.Quoted
import BookIndex.Json.Reader
import BookIndex.Main
import BookIndex.Proofs.Collation.Blocks
import BookIndex.Proofs.Collation.Rearranged
import BookIndex.Proofs.Collation.Romanized
import BookIndex.Proofs.Collation.Sorted
import BookIndex.Proofs.Columns.Greedy
import BookIndex.Proofs.Columns.Order
import BookIndex.Proofs.Columns.Partition
import BookIndex.Proofs.Columns.Targets
import BookIndex.Proofs.Config.Reloading
import BookIndex.Proofs.Document.Appending
import BookIndex.Proofs.Document.Arguments
import BookIndex.Proofs.Document.Comments
import BookIndex.Proofs.Document.Digest
import BookIndex.Proofs.Document.Entries
import BookIndex.Proofs.Document.Requests
import BookIndex.Proofs.Document.Scanning
import BookIndex.Proofs.Entry.Depth
import BookIndex.Proofs.Entry.Formats
import BookIndex.Proofs.Entry.Levels
import BookIndex.Proofs.Entry.Segments
import BookIndex.Proofs.Entry.Signs
import BookIndex.Proofs.Entry.SortKeys
import BookIndex.Proofs.Entry.Writing
import BookIndex.Proofs.Expander.Arguments
import BookIndex.Proofs.Expander.Contributions
import BookIndex.Proofs.Expander.Depth
import BookIndex.Proofs.Expander.Frames
import BookIndex.Proofs.Expander.Leaves
import BookIndex.Proofs.Fragment.Built
import BookIndex.Proofs.Fragment.Filled
import BookIndex.Proofs.Fragment.Holes
import BookIndex.Proofs.Fragment.Leaves
import BookIndex.Proofs.Fragment.Levels
import BookIndex.Proofs.Fragment.Merged
import BookIndex.Proofs.Fragment.Placeholder
import BookIndex.Proofs.Fragment.Plugged
import BookIndex.Proofs.Group.Letters
import BookIndex.Proofs.Group.Members
import BookIndex.Proofs.Group.Titles
import BookIndex.Proofs.Heading.Filing
import BookIndex.Proofs.Heading.Listing
import BookIndex.Proofs.Heading.Merging
import BookIndex.Proofs.Heading.Numbering
import BookIndex.Proofs.Heading.Position
import BookIndex.Proofs.Heading.Shape
import BookIndex.Proofs.Heading.Sharing
import BookIndex.Proofs.Heading.Sorted
import BookIndex.Proofs.Heading.Unsorted
import BookIndex.Proofs.Index.Calls
import BookIndex.Proofs.Index.Rearranged
import BookIndex.Proofs.Json.Parts
import BookIndex.Proofs.Json.Quoted
import BookIndex.Proofs.Json.Written
import BookIndex.Proofs.Text.CaseMaps
import BookIndex.Proofs.Token.Braces
import BookIndex.Proofs.Token.Canonical
import BookIndex.Proofs.Token.Writing
import BookIndex.Proofs.View.Nodes
import BookIndex.Proofs.View.Pages
import BookIndex.Proofs.View.Written
import BookIndex.Text.Alphabetic
import BookIndex.Text.Case
import BookIndex.Text.CaseTables
import BookIndex.Text.Chars
import BookIndex.Text.CodeRanges
import BookIndex.Text.Romanize
import BookIndex.Text.Spellings
import BookIndex.Token
import BookIndex.Token.Lexer
import BookIndex.Token.Source
import BookIndex.View
import BookIndex.View.Json
import BookIndex.View.Text
