import Osal.Basic
import Osal.Deadline
import Osal.Queue.Ring
import Osal.Queue.Fifo
import Osal.Queue.Threads
import Osal.Queue.Refinement
import Osal.Queue.Wakeup
import Osal.Timer.Worker
import Osal.Timer.System
import Osal.Timer.Locks
import Osal.Timer.Delete
import Osal.Timer.Stop
import Osal.Timer.Races
import Osal.Timer.EspMeta
import Osal.Task.Registry
import Osal.Task.Lifecycle
import Osal.Task.Clock
import Osal.Sem.Count
import Osal.Mongoose.Match
import Osal.Mqtt.Config
import Osal.Mqtt.ConfigStore
import Osal.Mqtt.Packet
import Osal.Mqtt.Subscriptions
import Osal.Mqtt.Suback
import Osal.Mqtt.Puback
import Osal.Mqtt.Connection
import Osal.Mqtt.Dispatch
import Osal.Http.Server
