import TorcScheduler.State.Basic
import TorcScheduler.State.Table
import TorcScheduler.State.TaskList
import TorcScheduler.State.NodeList
import TorcScheduler.Collaborator.Client
import TorcScheduler.State.Actor
import TorcScheduler.State.Replies
import TorcScheduler.State.Session
import TorcScheduler.State.Loops
import TorcScheduler.State.Compose
import TorcScheduler.State.Expiry
import TorcScheduler.State.Triple
import TorcScheduler.Routes.Invariant
import TorcScheduler.Routes.Runs
import TorcScheduler.Threads.System
import TorcScheduler.Threads.Clean
import TorcScheduler.Threads.Sync
import TorcScheduler.Api.RunApi
import TorcScheduler.Api.Runs
