import Ubercluster.Go.Schedule
import Ubercluster.Go.Environ
import Ubercluster.Go.Runtime
import Ubercluster.Go.FanOut
import Ubercluster.Go.Progress
import Ubercluster.Config
import Ubercluster.Tracker.StartProcess
import Ubercluster.Tracker.Interleaving
import Ubercluster.Tracker.Redirect
import Ubercluster.Tracker.Completion
import Ubercluster.Tracker.Environment
import Ubercluster.Scheduler.LoadValues
import Ubercluster.Scheduler.Selection
import Ubercluster.Scheduler.Dispatch
import Ubercluster.Proxy.JobInfos
import Ubercluster.Proxy.Inception
import Ubercluster.Proxy.Aggregations
