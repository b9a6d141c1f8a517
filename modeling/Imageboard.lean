import Imageboard.Text.Blank
import Imageboard.Text.Lowercase
import Imageboard.Text.Search
import Imageboard.Text.Offset
import Imageboard.Text.Quoted
import Imageboard.Text.DecimalDigit
import Imageboard.Text.WordCharacter
import Imageboard.Markup.Options
import Imageboard.Markup.Token
import Imageboard.Markup.Reference
import Imageboard.Markup.Lexeme
import Imageboard.Markup.Tag
import Imageboard.Json.Parser
import Imageboard.Json.Printer
import Imageboard.Comment.PlainText
import Imageboard.Comment.Abbreviation
import Imageboard.Comment.Quote
import Imageboard.Comment.Anchor
import Imageboard.Rule.Sheet
import Imageboard.Rule.Run
import Imageboard.Address.PercentEncoding
import Imageboard.Address.Punycode
import Imageboard.Address.Host
import Imageboard.Address.Reader
import Imageboard.Charset.CodePage
import Imageboard.Charset.Utf8
import Imageboard.Charset.Utf16
import Imageboard.Charset.Japanese
import Imageboard.Charset.Page
import Imageboard.Calendar.Moment
import Imageboard.Calendar.PrintedDate
import Imageboard.Address.Basic
import Imageboard.Locator
import Imageboard.Counter
import Imageboard.Post.Json
import Imageboard.Post.Email
import Imageboard.Post.Collector
import Imageboard.Post.AttachmentSlot
import Imageboard.Configuration
import Imageboard.Site.Basic
import Imageboard.Rule.Description
import Imageboard.Rule.Json
import Imageboard.Main
import Imageboard.Proofs.Rule.Calls
import Imageboard.Proofs.Rule.Pieces
import Imageboard.Proofs.Markup.Coverage
import Imageboard.Proofs.Markup.Written
import Imageboard.Proofs.Post.Threads
import Imageboard.Proofs.Site.Listing
import Imageboard.Proofs.Site.Wakaba.Attachments
import Imageboard.Proofs.Site.Wakaba.Leftovers
import Imageboard.Proofs.Rule.Standing
import Imageboard.Proofs.Post.Chronicle
import Imageboard.Proofs.Rule.Places
import Imageboard.Proofs.Site.Wakaba.Numbers
import Imageboard.Proofs.Site.Erlach.Answers
import Imageboard.Proofs.Site.Erlach.Carried
import Imageboard.Proofs.Site.Messages
import Imageboard.Proofs.Rule.Failure
import Imageboard.Proofs.Charset.Page
import Imageboard.Proofs.Charset.Markup
import Imageboard.Proofs.Address.Domain
import Imageboard.Proofs.Configuration
import Imageboard.Proofs.Numeral
import Imageboard.Proofs.Site.Wakaba.Board
import Imageboard.Proofs.Site.Wakaba.Pages
import Imageboard.Proofs.Text.Search
import Imageboard.Proofs.Address.Scheme
import Imageboard.Proofs.Markup.Slices
import Imageboard.Proofs.Markup.Attributes
import Imageboard.Proofs.Markup.Edited
import Imageboard.Proofs.Rule.Bounds
import Imageboard.Proofs.Calendar.PrintedDate
import Imageboard.Proofs.Site.Conversion
import Imageboard.Proofs.Text.Replace
import Imageboard.Proofs.Markup.Reference
import Imageboard.Proofs.Comment.PlainText
import Imageboard.Proofs.Comment.References
import Imageboard.Proofs.Comment.LinkIds
import Imageboard.Proofs.Markup.Decoding
import Imageboard.Proofs.Rule.Groups
import Imageboard.Proofs.Markup.RawText
import Imageboard.Proofs.Address.ThreadLink
import Imageboard.Proofs.Address.ThreadPage
import Imageboard.Proofs.Comment.Fragment
import Imageboard.Proofs.Comment.Quote
import Imageboard.Proofs.Charset.Declaration
import Imageboard.Proofs.Markup.QuotedValue
import Imageboard.Proofs.Rule.Element
import Imageboard.Proofs.Post.Dates
import Imageboard.Proofs.Site.Wakaba.Dates
import Imageboard.Proofs.Site.Wakaba.DateTag
import Imageboard.Proofs.Configuration.Boards
import Imageboard.Proofs.Calendar.Succession
import Imageboard.Proofs.Calendar.WrittenDate
import Imageboard.Proofs.Json.Record
import Imageboard.Proofs.Post.Json
import Imageboard.Proofs.Markup.Kinds
import Imageboard.Proofs.Markup.LetterCase
import Imageboard.Proofs.Markup.Names
import Imageboard.Proofs.Markup.Recased
import Imageboard.Proofs.Rule.LetterCase
import Imageboard.Proofs.Numeral.PostNumber
import Imageboard.Proofs.Text.Expression
import Imageboard.Proofs.Address.ThreadExpression
import Imageboard.Proofs.Address.ThreadNumbers
import Imageboard.Proofs.Markup.TagGrammar
import Imageboard.Proofs.Markup.TagShape
