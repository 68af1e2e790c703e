import TagContext.Text.Width
import TagContext.Text.Blank
import TagContext.Text.Word
import TagContext.Json
import TagContext.Decimal.Binary
import TagContext.Decimal.Shortest
import TagContext.Markup.Construct
import TagContext.Markup.Scan
import TagContext.Markup.Outline
import TagContext.Document.Position
import TagContext.Document.Basic
import TagContext.Tag.Basic
import TagContext.Tag.Qualifier
import TagContext.Nesting.Open
import TagContext.Nesting.Nearest
import TagContext.Nesting.Close
import TagContext.Nesting.Between
import TagContext.Nesting.Balance
import TagContext.Resolve
import TagContext.Cursor.Context
import TagContext.Cursor.Variables
import TagContext.Snippet.Render
import TagContext.Completion.Item
import TagContext.Completion.Basic
import TagContext.Edit.AutoClose
import TagContext.Report
import TagContext.Survey
import TagContext.Settings.Toml
import TagContext.Settings.Basic
import TagContext.Cli.Args
import TagContext.Cli.Run
import TagContext.Main
import TagContext.Proofs.Decimal
import TagContext.Proofs.Lines
import TagContext.Proofs.Scanner.Run
import TagContext.Proofs.Scanner.Count
import TagContext.Proofs.Scanner.Shape
import TagContext.Proofs.Outline
import TagContext.Proofs.Total
import TagContext.Proofs.Scanner.Joined
import TagContext.Proofs.Between
import TagContext.Proofs.Nesting.Depth
import TagContext.Proofs.Nesting.Close
import TagContext.Proofs.Nesting.Balance
import TagContext.Proofs.Nesting.Open
import TagContext.Proofs.Nesting.Nearest
import TagContext.Proofs.Nesting.Enclosing
import TagContext.Proofs.Nesting.Inside
import TagContext.Proofs.AutoClose
import TagContext.Proofs.Snippet
import TagContext.Proofs.Edit
import TagContext.Proofs.Brace
