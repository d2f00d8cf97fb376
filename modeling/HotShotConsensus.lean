import HotShotConsensus.Data
import HotShotConsensus.Store
import HotShotConsensus.VoteCollection
import HotShotConsensus.Task
import HotShotConsensus.Vote
import HotShotConsensus.Decide
import HotShotConsensus.ViewArithmetic
import HotShotConsensus.Handle
import HotShotConsensus.Runs
import HotShotConsensus.Steps
import HotShotConsensus.Replicas
import HotShotConsensus.Decided
import HotShotConsensus.ViewChange
import HotShotConsensus.TaskLedger
import HotShotConsensus.Certificates
import HotShotConsensus.Availability
import HotShotConsensus.Proposals
import HotShotConsensus.Spinning
