import Coordination.Proofs.Error.RoundTrip
import Coordination.Proofs.Lock.Accounting
import Coordination.Proofs.Lock.Brackets
import Coordination.Proofs.Lock.Counting
import Coordination.Proofs.Lock.DoubleChecked
import Coordination.Proofs.Lock.Exchange
import Coordination.Proofs.Lock.Exclusion
import Coordination.Proofs.Lock.Preference
import Coordination.Proofs.Lock.Signalling
import Coordination.Proofs.Lock.Suspension
import Coordination.Proofs.Lock.Wakeup
import Coordination.Proofs.Pool.Bookkeeping
import Coordination.Proofs.Pool.Interrupts
import Coordination.Proofs.Pool.Isolation
import Coordination.Proofs.Pool.Signals
import Coordination.Proofs.Pool.Stragglers
import Coordination.Proofs.Registry.Liveness
import Coordination.Proofs.Registry.Purging
import Coordination.Proofs.Registry.Reapers
import Coordination.Proofs.Registry.Refinement
import Coordination.Proofs.Registry.Rounds
import Coordination.Proofs.Settings.Decoding
import Coordination.Simulation.Locks.Contention
import Coordination.Simulation.Pools.Performance
import Coordination.Simulation.Registries.Contention
import Coordination.Simulation.Spans
