import Rebac.Engine
import Rebac.Query.Document
import Rebac.Settings.Environment
import Rebac.Proofs.Graph.View
import Rebac.Proofs.Graph.Walk
import Rebac.Proofs.Graph.Search
import Rebac.Proofs.Graph.Shortening
import Rebac.Proofs.Graph.Chain
import Rebac.Proofs.Graph.Depth
import Rebac.Proofs.Graph.Agreement
import Rebac.Proofs.Rule.Compile
import Rebac.Proofs.Rule.Fault
import Rebac.Proofs.Rule.Meaning
import Rebac.Proofs.Graph.Listing
import Rebac.Proofs.Graph.History
import Rebac.Proofs.Graph.Renaming
import Rebac.Proofs.Listing
import Rebac.Proofs.Rule.Extension
import Rebac.Proofs.Row
import Rebac.Proofs.Answer
import Rebac.Proofs.PointCheck
import Rebac.Proofs.Page.Slices
import Rebac.Proofs.Page.Total
import Rebac.Proofs.Page.Run
import Rebac.Proofs.Count
import Rebac.Proofs.Page.Stale
import Rebac.Proofs.Run
import Rebac.Proofs.Staleness
import Rebac.Proofs.CacheKey
import Rebac.Proofs.Identifier
import Rebac.Proofs.QueryText
import Rebac.Proofs.Renaming
import Rebac.Proofs.Trace
import Rebac.Proofs.Failure
import Rebac.Proofs.Relevance
import Rebac.Proofs.Page.Kept
import Rebac.Proofs.Monotone
import Rebac.Proofs.Text.Pieces
import Rebac.Proofs.Text.Trim
import Rebac.Proofs.Rule.Splitting
import Rebac.Proofs.Rule.Reading
import Rebac.Proofs.Json.Numerals
import Rebac.Proofs.Json.Strings
import Rebac.Proofs.Json.Written
import Rebac.Proofs.Page.Offsets
import Rebac.Proofs.Json.Record
import Rebac.Proofs.Json.Writer
import Rebac.Proofs.Policy.Document
import Rebac.Proofs.Settings.Numeral
import Rebac.Proofs.Settings.Environment
