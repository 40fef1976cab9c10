import MangaRecommender.Binary64.Arithmetic
import MangaRecommender.Binary64.Order
import MangaRecommender.Decimal.Notation
import MangaRecommender.Decimal.Reading
import MangaRecommender.Text.Lowercase
import MangaRecommender.Uuid
import MangaRecommender.CalendarDate
import MangaRecommender.IpAddress
import MangaRecommender.IdMap
import MangaRecommender.Json.Record
import MangaRecommender.Catalogue.Tables
import MangaRecommender.Generator
import MangaRecommender.Document.Manga
import MangaRecommender.Document.SeedSummary
import MangaRecommender.World
import MangaRecommender.Service.Run
import MangaRecommender.Page
import MangaRecommender.Http.Run
import MangaRecommender.Settings
import MangaRecommender.Cache.Writer
import MangaRecommender.Cache.Address
import MangaRecommender.Catalogue.Statement
import MangaRecommender.Catalogue.Row
import MangaRecommender.Catalogue.Database
import MangaRecommender.Main
import MangaRecommender.Proofs.Decimal.Shortest
import MangaRecommender.Proofs.Json.Number
import MangaRecommender.Proofs.Json.Quoted
import MangaRecommender.Proofs.Document.ScoredManga
import MangaRecommender.Proofs.Binary64.Bounds
import MangaRecommender.Proofs.Score.Finite
import MangaRecommender.Proofs.Catalogue.Traced
import MangaRecommender.Proofs.Generator.Outcome
import MangaRecommender.Proofs.Cache.Key
import MangaRecommender.Proofs.Cache.ReadThrough
import MangaRecommender.Proofs.Service.Replies
import MangaRecommender.Proofs.Service.Provenance
import MangaRecommender.Proofs.Service.Coherence
import MangaRecommender.Proofs.Generator.Selection
import MangaRecommender.Proofs.Service.Isolation
import MangaRecommender.Proofs.Service.Payload
import MangaRecommender.Proofs.Cache.Writer
import MangaRecommender.Proofs.Binary64.Exact
import MangaRecommender.Proofs.Score.Terms
import MangaRecommender.Proofs.Generator.Scores
import MangaRecommender.Service.Traffic
import MangaRecommender.Proofs.Service.Traffic
import MangaRecommender.Proofs.Service.Interleaving
import MangaRecommender.Proofs.Catalogue.FirstFailure
import MangaRecommender.Proofs.Generator.Stages
import MangaRecommender.Proofs.Score.Ranking
import MangaRecommender.Proofs.Generator.Admission
import MangaRecommender.Proofs.Http.Confinement
import MangaRecommender.Proofs.Service.Transparency
import MangaRecommender.Proofs.Page.Cuts
import MangaRecommender.Proofs.Http.Pages
import MangaRecommender.Proofs.Http.Quotas
import MangaRecommender.Proofs.Catalogue.MapError
import MangaRecommender.Proofs.Service.MapError
import MangaRecommender.Proofs.Http.Concealment
import MangaRecommender.Proofs.Binary64.Monotone
import MangaRecommender.Proofs.Score.Range
import MangaRecommender.Proofs.Score.Dominance
import MangaRecommender.Proofs.Generator.SeedSet
import MangaRecommender.Proofs.Generator.Limit
import MangaRecommender.Proofs.Service.Invalidation
import MangaRecommender.Proofs.Page.Tiling
import MangaRecommender.Proofs.Binary64.TotalOrder
import MangaRecommender.Proofs.Page.StableOrder
import MangaRecommender.Proofs.Seeds
import MangaRecommender.Proofs.Generator.Query
import MangaRecommender.Proofs.Profile.Additivity
import MangaRecommender.Cache.Task
import MangaRecommender.Proofs.Cache.Shutdown
import MangaRecommender.Proofs.Score.Year
import MangaRecommender.Proofs.Profile.Multiset
import MangaRecommender.Proofs.Score.Weights
import MangaRecommender.Proofs.Http.Spelling
import MangaRecommender.Proofs.Service.Database
