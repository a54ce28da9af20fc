import Curator.CommandLine.Help
import Curator.CommandLine.Report
import Curator.CommandLine.Request
import Curator.CommandLine.Run
import Curator.Content
import Curator.Disk.Basic
import Curator.Disk.FileSet
import Curator.Disk.Tree
import Curator.Encoding.Basic
import Curator.Encoding.BigFive
import Curator.Encoding.CharacterGrid
import Curator.Encoding.Chinese
import Curator.Encoding.CodePage
import Curator.Encoding.DoubleByte
import Curator.Encoding.Hangul
import Curator.Encoding.Hanzi
import Curator.Encoding.Japanese
import Curator.Encoding.Kanji
import Curator.Encoding.Octets
import Curator.Encoding.Unit16
import Curator.Fault
import Curator.Feed.Document
import Curator.Feed.ErrorDocument
import Curator.Feed.PublicationDate
import Curator.Feed.Rating
import Curator.Feed.ReportedSize
import Curator.Feed.Rss
import Curator.Health.Database
import Curator.Health.RecordFile
import Curator.Health.Status
import Curator.Health.Store
import Curator.Health.Table
import Curator.Health.Tracker
import Curator.Import.Candidate
import Curator.Import.Decision
import Curator.Import.Rule
import Curator.Import.Sample
import Curator.Import.Specification
import Curator.Main
import Curator.Markup.Attribute
import Curator.Markup.Document
import Curator.Markup.Element
import Curator.Markup.Token
import Curator.Number.Binary64
import Curator.Number.Decimal
import Curator.Path
import Curator.Proofs.Disk.Companions
import Curator.Proofs.Disk.Folders
import Curator.Proofs.Disk.Grouping
import Curator.Proofs.Feed.Address
import Curator.Proofs.Feed.DateSurroundings
import Curator.Proofs.Feed.Items
import Curator.Proofs.Feed.Mention
import Curator.Proofs.Feed.Numeral
import Curator.Proofs.Feed.PublicationDate
import Curator.Proofs.Feed.Rating
import Curator.Proofs.Feed.ReportedSize
import Curator.Proofs.Health.History
import Curator.Proofs.Health.Independence
import Curator.Proofs.Health.Invariant
import Curator.Proofs.Health.Notes
import Curator.Proofs.Health.Quarantine
import Curator.Proofs.Health.RecordFile
import Curator.Proofs.Health.Records
import Curator.Proofs.Health.Table
import Curator.Proofs.Health.Unreliable
import Curator.Proofs.Health.Views
import Curator.Proofs.Health.Works
import Curator.Proofs.Import.Decision
import Curator.Proofs.Import.DefaultRules
import Curator.Proofs.Import.Scan
import Curator.Proofs.Import.Stopping
import Curator.Proofs.Import.Verdict
import Curator.Proofs.Number.Precision
import Curator.Proofs.Number.Rounding
import Curator.Proofs.Path
import Curator.Proofs.Ranking.Arrival
import Curator.Proofs.Ranking.Comparison
import Curator.Proofs.Ranking.Groups
import Curator.Proofs.Ranking.Listing
import Curator.Proofs.Ranking.Preference
import Curator.Proofs.StableSort
import Curator.Proofs.Sync.Asked
import Curator.Proofs.Sync.Gap
import Curator.Proofs.Sync.Interleaving
import Curator.Proofs.Sync.Poll
import Curator.Proofs.Sync.Record
import Curator.Proofs.Sync.Retry
import Curator.Proofs.Sync.Run
import Curator.Proofs.Sync.Stamp
import Curator.Proofs.Text.Json
import Curator.Proofs.Text.Lowercase
import Curator.Proofs.Text.Pieces
import Curator.Proofs.Text.Slash
import Curator.Proofs.Text.Trim
import Curator.Proofs.Time.Addition
import Curator.Proofs.Time.Calendar
import Curator.Proofs.Time.Digits
import Curator.Proofs.Time.Fields
import Curator.Proofs.Time.InternetLayout
import Curator.Proofs.Time.MailLayout
import Curator.Proofs.Time.Order
import Curator.Proofs.Time.PlainLayout
import Curator.Proofs.Time.Printed
import Curator.Proofs.Time.WallClock
import Curator.Quality
import Curator.Ranking.Priority
import Curator.Ranking.Ratings
import Curator.Release.Basic
import Curator.Release.DisplayedSize
import Curator.Release.UserRatings
import Curator.Session
import Curator.Settings
import Curator.Source
import Curator.Sync.Pass
import Curator.Sync.Poll
import Curator.Text.Basic
import Curator.Text.CanonicalSpelling
import Curator.Text.CodePointRange
import Curator.Text.CombiningClass
import Curator.Text.Composition
import Curator.Text.DecimalDigit
import Curator.Text.Integer
import Curator.Text.Json
import Curator.Text.Lowercase
import Curator.Text.Mark
import Curator.Text.Scan
import Curator.Text.Utf8
import Curator.Text.WordCharacter
import Curator.Time.Calendar
import Curator.Time.InternetDate
import Curator.Time.MailDate
import Curator.Time.PlainDate
import Curator.Time.Scan
import Curator.Time.Timestamp
import Curator.Toml.Document
import Curator.Toml.Moment
import Curator.Toml.Number
import Curator.Toml.Quoted
import Curator.Toml.Value
import Curator.Web.Address
import Curator.Web.Direction
import Curator.Web.Domain
import Curator.Web.DomainCharacter
import Curator.Web.DomainImage
import Curator.Web.Joining
import Curator.Web.Punycode
import Curator.Proofs.Number.Fraction
import Curator.Proofs.Ranking.Votes
import Curator.Proofs.Feed.RatingScale
import Curator.Proofs.Ranking.SizeBucket
import Curator.Proofs.Feed.ErrorDocument
