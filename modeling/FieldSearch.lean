import FieldSearch.Main
import FieldSearch.Declaration
import FieldSearch.Session
import FieldSearch.Proofs.Text.QuotedGrammar
import FieldSearch.Proofs.Token.Lexeme
import FieldSearch.Proofs.Token.Rules
import FieldSearch.Proofs.Token.Decomposition
import FieldSearch.Proofs.Token.RoundTrip
import FieldSearch.Proofs.Sql.Reading
import FieldSearch.Proofs.Sql.Meaning
import FieldSearch.Proofs.Sql.References
import FieldSearch.Proofs.Sql.Criteria
import FieldSearch.Proofs.Sql.Binding
import FieldSearch.Proofs.Sql.Literal
import FieldSearch.Proofs.Sql.Statements
import FieldSearch.Proofs.Registry
import FieldSearch.Proofs.Search.Insertion
import FieldSearch.Proofs.Search.Composition
import FieldSearch.Proofs.Sql.Paging
import FieldSearch.Proofs.Search.Claims
import FieldSearch.Proofs.Sql.Mentions
import FieldSearch.Proofs.Sql.ReviewJoin
import FieldSearch.Proofs.Search.Accounting
import FieldSearch.Proofs.Session.Invariant
import FieldSearch.Proofs.Search.Qualifier
import FieldSearch.Proofs.Declaration.Settings
import FieldSearch.Proofs.Declaration.Checks
import FieldSearch.Proofs.Declaration.Table
import FieldSearch.Proofs.Text.AsciiCase
import FieldSearch.Proofs.Declaration.Addressing
import FieldSearch.Proofs.Text.Titlecase
import FieldSearch.Proofs.Declaration.WrittenNames
import FieldSearch.Proofs.Sql.Compacting
import FieldSearch.Proofs.Search.ReviewPass
import FieldSearch.Proofs.Sql.TagTable
import FieldSearch.Proofs.Sql.TagMembership
import FieldSearch.Proofs.Page.Tiling
import FieldSearch.Proofs.Session.PassOrder
import FieldSearch.Proofs.Token.QuotedText
import FieldSearch.Proofs.Sql.TypeQueries
