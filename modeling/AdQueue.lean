import AdQueue.Domain.Ad
import AdQueue.Domain.Lifecycle
import AdQueue.Domain.Queue
import AdQueue.Redis.SortedSet
import AdQueue.Redis.Strings
import AdQueue.Queue.Score
import AdQueue.Queue.Binary64
import AdQueue.Text.Strings
import AdQueue.Queue.Config
import AdQueue.Queue.Manager
import AdQueue.Queue.TopK
import AdQueue.Queue.Merge
import AdQueue.Queue.Clients
import AdQueue.Worker.Dispatch
import AdQueue.Persistence.Postgres
import AdQueue.Worker.Processing
import AdQueue.Persistence.Memory
import AdQueue.Persistence.Conditional
import AdQueue.Service.Priority
import AdQueue.Service.CreateAd
import AdQueue.Queue.Invariants
import AdQueue.Queue.Rescore
import AdQueue.Queue.Position
import AdQueue.Domain.GoMap
import AdQueue.Cache.HighPerformance
import AdQueue.Cache.Bulk
import AdQueue.Cache.Run
import AdQueue.Cache.Stats
import AdQueue.Text.Regexp
import AdQueue.Command.Entity
import AdQueue.Command.Parser
import AdQueue.Command.Executor
import AdQueue.Command.Service
import AdQueue.Command.FamilyText
import AdQueue.Command.Recent
import AdQueue.Interfaces.Handlers
import AdQueue.Interfaces.Server
import AdQueue.Persistence.Sharded
import AdQueue.Config.Env
