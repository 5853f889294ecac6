import Ftl.Go.Basic
import Ftl.BuildEngine.Model
import Ftl.BuildEngine.Graph
import Ftl.BuildEngine.Worker
import Ftl.BuildEngine.Gather
import Ftl.BuildEngine.Run
import Ftl.BuildEngine.Channels
import Ftl.BuildEngine.Completion
import Ftl.BuildEngine.Deploy
import Ftl.BuildEngine.Schedules
import Ftl.BuildEngine.DevLoop
import Ftl.Dal.Errs
import Ftl.Dal.Fsm
import Ftl.Dal.Leases
import Ftl.Dal.Sql
import Ftl.Dal.Deployments
import Ftl.Dal.DeploymentRuns
import Ftl.Dal.Configuration
import Ftl.Dal.PubSub
import Ftl.Kotlin.Generator
import Ftl.Kotlin.Types
import Ftl.Kotlin.Stubs
import Ftl.Kotlin.Names
import Ftl.GoRuntime.Call
