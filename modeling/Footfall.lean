import Footfall.Config
import Footfall.Geo.Place
import Footfall.Proofs.Stats.Confluence
import Footfall.Proofs.Stats.Handover
import Footfall.Proofs.Stats.Isolation
import Footfall.Service.Routes
import Footfall.Stats.Densify
import Footfall.Stats.Listing
import Footfall.Stats.Summary
import Footfall.Store.Schema
import Footfall.Visit.Fingerprint
import Footfall.Proofs.Stats.CrossCheck
import Footfall.Proofs.Calendar.TextOrder
import Footfall.Proofs.Stats.Stitching
import Footfall.Proofs.Store.Resolvers
import Footfall.Proofs.Visit.Outcome
import Footfall.Proofs.Rollup.Episodes
import Footfall.Proofs.Stats.RoundTrip
import Footfall.Proofs.Rollup.Convergence
import Footfall.Proofs.Rollup.Integrity
import Footfall.Proofs.Rollup.Independence
import Footfall.Proofs.Rollup.Hours
import Footfall.Proofs.Stats.Ordered
import Footfall.Proofs.Stats.ZeroFill
import Footfall.Proofs.Calendar.Grid
import Footfall.Proofs.Stats.Walk
import Footfall.Proofs.Stats.LiveSeries
import Footfall.Proofs.Stats.Filling
import Footfall.Proofs.Stats.Additivity
import Footfall.Proofs.Service.Counters
import Footfall.Proofs.Store.Migration
import Footfall.Proofs.Visit.Classification
import Footfall.Proofs.Stats.Refusals
import Footfall.Proofs.Stats.OneMore
import Footfall.Proofs.Service.Visibility
import Footfall.Proofs.Stats.Ranking
import Footfall.Proofs.Service.Paging
import Footfall.Proofs.Visit.PagePath
import Footfall.Proofs.Visit.ReferrerHost
import Footfall.Proofs.Visit.BareReferrer
import Footfall.Proofs.Service.WholeDays
import Footfall.Proofs.Visit.Restated
import Footfall.Proofs.Stats.Cap
import Footfall.Proofs.Rollup.Schedule
import Footfall.Proofs.Config
