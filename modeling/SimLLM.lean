import SimLLM.PlanOrder
import SimLLM.Exclusivity
import SimLLM.CriticalChain
import SimLLM.KvReservations
import SimLLM.IncrementalBookkeeping
import SimLLM.RankingLockstep
import SimLLM.PacketDelivery
import SimLLM.NcclAllReduce
import SimLLM.EngineOrder
import SimLLM.BookkeepingRoundTrip
import SimLLM.GraphRoundTrip
import SimLLM.Rnic.PayloadIsolation
import SimLLM.Rnic.QueueConsistency
import SimLLM.Rnic.InOrderCompletion
import SimLLM.Rnic.WakeUp
import SimLLM.Rnic.PhysicalExclusivity
import SimLLM.Rnic.IngressMeter
import SimLLM.Rnic.PciePlans
import SimLLM.RoundRobin
import SimLLM.ReceiverIngress
import SimLLM.LedgerQueries
import SimLLM.NvSwitch
import SimLLM.UniformRouting
import SimLLM.ComputeGroup
import SimLLM.ObjectIdentity
import SimLLM.SchedulingProgress
import SimLLM.Rnic.DeviceTeardown
