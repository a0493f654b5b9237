import Hartevo.Mission.Atomicity
import Hartevo.Mission.Coherence
import Hartevo.Mission.Identity
import Hartevo.Mission.TerminalAbsorption
import Hartevo.Mission.TypedCompletion
import Hartevo.MissionLoop.DependencyOrder
import Hartevo.MissionLoop.EvidenceOnce
import Hartevo.MissionLoop.Invalidation
import Hartevo.MissionLoop.WorkItems
import Hartevo.MissionLoop.SlotAccounting
import Hartevo.MissionLoop.WriteIsolation
import Hartevo.MissionSchedule.Atomicity
import Hartevo.Collaboration.Successors
import Hartevo.Outcome.Cutoff
import Hartevo.Outcome.RefundSets
import Hartevo.Outcome.Revalidation
import Hartevo.Outcome.Review
import Hartevo.RuntimeTurn.Once
import Hartevo.RuntimeTurn.TextDeltas
import Hartevo.Session.Pairing
import Hartevo.Session.Recovery
import Hartevo.Keyring.Successors
import Hartevo.Campaign.Sends
import Hartevo.Identity.Connection
import Hartevo.WorkProduct.Handoff
import Hartevo.CreatorWork.Contract
import Hartevo.EffectBroker.Policy
