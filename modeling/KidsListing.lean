import KidsListing.Configuration.FilePath
import KidsListing.Configuration.LogLevel
import KidsListing.Configuration.Origins
import KidsListing.Configuration.Seconds
import KidsListing.Configuration.Settings
import KidsListing.Document.Basic
import KidsListing.Document.Equality
import KidsListing.Document.Path
import KidsListing.Document.PlainText
import KidsListing.Document.Raw
import KidsListing.Document.Reader
import KidsListing.Document.Spelling
import KidsListing.Fault
import KidsListing.Feed.Aggregation
import KidsListing.Feed.Channels
import KidsListing.Feed.Listings
import KidsListing.Log
import KidsListing.Main
import KidsListing.Number.Binary64
import KidsListing.Number.Shortest
import KidsListing.Provider.Client
import KidsListing.Provider.Post
import KidsListing.Run
import KidsListing.SelfCheck.Endpoints
import KidsListing.SelfCheck.Report
import KidsListing.Service.CrossOrigin
import KidsListing.Service.Endpoints
import KidsListing.Service.Query
import KidsListing.Service.Web
import KidsListing.Text.Blank
import KidsListing.Text.CodePoint
import KidsListing.Text.DecimalDigit
import KidsListing.Text.Digit
import KidsListing.Text.LooseInteger
import KidsListing.Text.Printable
import KidsListing.Text.Quoted
import KidsListing.Text.Utf8
import KidsListing.Video.Basic
import KidsListing.Video.Duration
import KidsListing.Video.Fields
import KidsListing.Video.Fragment
import KidsListing.Video.Scan
import KidsListing.Video.ViewCount
import KidsListing.Proofs.Document.Position
import KidsListing.Proofs.Document.Reader
import KidsListing.Proofs.Video.Scan
import KidsListing.Proofs.Run
import KidsListing.Proofs.Video.Isolation
import KidsListing.Proofs.Feed.Aggregation
import KidsListing.Proofs.Feed.EarlyStopping
import KidsListing.Proofs.Feed.Listings
import KidsListing.Proofs.Service.Degradation
import KidsListing.Proofs.Feed.CallDiscipline
import KidsListing.Proofs.Text.Blank
import KidsListing.Proofs.Text.Separated
import KidsListing.Proofs.Text.Utf8
import KidsListing.Proofs.Configuration.Origins
import KidsListing.Proofs.Document.Numeral
import KidsListing.Proofs.Feed.Channels
import KidsListing.Proofs.Number.Spelling
import KidsListing.Proofs.Video.ViewCount
import KidsListing.Proofs.Document.Moderate
import KidsListing.Proofs.Video.Keys
import KidsListing.Proofs.Feed.Metering
import KidsListing.Proofs.Video.Likeness
import KidsListing.Proofs.Video.Reordering
import KidsListing.Proofs.Video.Pruning
import KidsListing.Proofs.Feed.Indifference
import KidsListing.Proofs.Service.Fallback
import KidsListing.Proofs.Feed.FailingSources
import KidsListing.Proofs.Provider.Client
import KidsListing.Proofs.Video.SectionScan
import KidsListing.Proofs.Feed.Provenance
import KidsListing.Proofs.Service.Provenance
import KidsListing.Proofs.Feed.Search
import KidsListing.Proofs.Service.Search
import KidsListing.Proofs.Document.Descent
import KidsListing.Proofs.Feed.AddedSources
import KidsListing.Proofs.Video.SectionOrder
import KidsListing.Proofs.Number.Positional
import KidsListing.Proofs.Video.ExactCount
import KidsListing.Proofs.Video.Clock
import KidsListing.Proofs.Video.WritableCounts
import KidsListing.Proofs.Video.ClockWriting
import KidsListing.Proofs.Configuration.WrittenOrigins
import KidsListing.Proofs.Configuration.Seconds
import KidsListing.Proofs.Feed.ChannelFile
import KidsListing.Proofs.Feed.ChannelList
import KidsListing.Proofs.Configuration.Timeout
import KidsListing.Proofs.Document.GuardedWalk
import KidsListing.Proofs.Document.Subtree
import KidsListing.Proofs.Video.ScanBlocks
import KidsListing.Proofs.Configuration.Blanks
import KidsListing.Proofs.Video.WrittenFields
import KidsListing.Proofs.Feed.Turns
import KidsListing.Proofs.Document.StandIns
