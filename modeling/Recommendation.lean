import Recommendation.Main
import Recommendation.Proofs.Diversity.Caps
import Recommendation.Proofs.Diversity.Scaling
import Recommendation.Proofs.Engine.Confinement
import Recommendation.Proofs.Engine.NoLeak
import Recommendation.Proofs.Engine.RowOrder
import Recommendation.Proofs.Engine.Proposals
import Recommendation.Proofs.CandidateSets
import Recommendation.Proofs.Signals
import Recommendation.Proofs.Engine.Degradation
import Recommendation.Proofs.Engine.Cancellation
import Recommendation.Proofs.Reasons
import Recommendation.Proofs.Engine.Explanations
import Recommendation.Proofs.Engine.Failures
import Recommendation.Proofs.Engine.Neighbours
import Recommendation.Proofs.Evaluation.Marks
import Recommendation.Proofs.Evaluation.SampledReads
import Recommendation.Proofs.Engine.Scaling
import Recommendation.Proofs.Service.Problems
import Recommendation.Proofs.Redaction
import Recommendation.Proofs.Diversity.Pins
import Recommendation.Proofs.Diversity.Leftovers
import Recommendation.Proofs.Allocation
import Recommendation.Proofs.Policy.Accounting
import Recommendation.Proofs.Store.Retrying
import Recommendation.Proofs.Tags
import Recommendation.Proofs.Facets
import Recommendation.Proofs.Engine.Exclusions
import Recommendation.Proofs.Engine.NamedPins
import Recommendation.Proofs.Provenance
import Recommendation.Proofs.Store.Holdouts
import Recommendation.Proofs.Store.Popularity
import Recommendation.Proofs.Engine.RecentItems
import Recommendation.Proofs.Diversity.Picks
import Recommendation.Proofs.Interests
import Recommendation.Proofs.Store.TagCredits
import Recommendation.Proofs.Relational.RuleRows
import Recommendation.Proofs.Relational.IdleRules
import Recommendation.Proofs.Counters
import Recommendation.Proofs.Diversity.LastSlots
import Recommendation.Proofs.Evaluation.Coverage
import Recommendation.Proofs.Engine.Windows
import Recommendation.Proofs.Engine.FiniteScores
import Recommendation.Proofs.Store.Pauses
import Recommendation.Proofs.ModelVersion
import Recommendation.Proofs.StrictOrders
