import LifecycleMgr.Runs
import LifecycleMgr.Keyed
import LifecycleMgr.Enums
import LifecycleMgr.ClientName
import LifecycleMgr.State
import LifecycleMgr.Legato
import LifecycleMgr.PowerMode
import LifecycleMgr.Requests
import LifecycleMgr.Manager
import LifecycleMgr.Signals
import LifecycleMgr.Registry
import LifecycleMgr.StayActive
import LifecycleMgr.StayAliveMode
import LifecycleMgr.Threads
import LifecycleMgr.TcuWindow
import LifecycleMgr.Emergency
import LifecycleMgr.Failures
import LifecycleMgr.Broadcast
import LifecycleMgr.EventLoop
import LifecycleMgr.LastEvent
import LifecycleMgr.ModeStream
import LifecycleMgr.PowerState
import LifecycleMgr.Wakeup
import LifecycleMgr.WakeupSource
import LifecycleMgr.Replies
import LifecycleMgr.CommonApiClient
import LifecycleMgr.BatteryThermal
import LifecycleMgr.LongWindow
import LifecycleMgr.Netlink
import LifecycleMgr.Clients
import LifecycleMgr.Arbitration
import LifecycleMgr.EmergencyFlags
import LifecycleMgr.Refinements
import LifecycleMgr.Actions
import LifecycleMgr.Pauses
import LifecycleMgr.Windows
import LifecycleMgr.LatestReport
import LifecycleMgr.Answers
import LifecycleMgr.Views
import LifecycleMgr.Serial
import LifecycleMgr.Frames
import LifecycleMgr.Transports
import LifecycleMgr.RegistrationOrder
import LifecycleMgr.CriticalSections
import LifecycleMgr.Receivers
import LifecycleMgr.Wishes
import LifecycleMgr.Service
import LifecycleMgr.Schedules
import LifecycleMgr.Progress
import LifecycleMgr.Announcements
import LifecycleMgr.Process
import LifecycleMgr.Deliveries
import LifecycleMgr.RegistryLock
import LifecycleMgr.Linearization
import LifecycleMgr.RegistryProgress
