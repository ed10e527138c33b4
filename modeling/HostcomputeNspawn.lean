import HostcomputeNspawn.CallbackLatch.Progress
import HostcomputeNspawn.CallbackLatch.Refinement
import HostcomputeNspawn.CallbackLatch.Work
import HostcomputeNspawn.Launcher
import HostcomputeNspawn.NspawnConfig.Rejection
import HostcomputeNspawn.NspawnConfig.RoundTrip
import HostcomputeNspawn.Settings
import HostcomputeNspawn.Spawn.Atomic
import HostcomputeNspawn.Spawn.Bracketing
import HostcomputeNspawn.Spawn.ComputeSystem
import HostcomputeNspawn.Spawn.Identity
import HostcomputeNspawn.Spawn.LatchLifetime
import HostcomputeNspawn.Spawn.Liveness
import HostcomputeNspawn.Spawn.Loading
import HostcomputeNspawn.Spawn.Naming
import HostcomputeNspawn.Spawn.Provenance
import HostcomputeNspawn.Spawn.Rollback
import HostcomputeNspawn.Spawn.Schedule
import HostcomputeNspawn.Spawn.Session
import HostcomputeNspawn.Spawn.Stages
