import Evget.Async.Interval
import Evget.Async.LockingVector
import Evget.Async.Scheduler
import Evget.Capture
import Evget.CaptureDatabase
import Evget.CaptureDrains
import Evget.CaptureFile
import Evget.Cli
import Evget.Database.Connection
import Evget.Database.ConnectionMap
import Evget.Database.Migrate
import Evget.Database.MigrateHistory
import Evget.Database.MigrateRuns
import Evget.Database.Query
import Evget.Error
import Evget.Event.Builders
import Evget.Event.Entry
import Evget.Event.EventLoop
import Evget.Event.Graph
import Evget.Event.Named
import Evget.Event.Schema
import Evget.Event.Setters
import Evget.Event.Texts
import Evget.IntervalTracker
import Evget.Lib.Alternation
import Evget.Lib.Dict
import Evget.Lib.Interleaving
import Evget.Lib.Json
import Evget.Lib.JsonReader
import Evget.Lib.Latest
import Evget.Lib.Mealy
import Evget.Lib.Observed
import Evget.Lib.Prog
import Evget.Lib.Returns
import Evget.Lib.Sqlite
import Evget.Lib.SqliteMap
import Evget.Lib.Telescope
import Evget.LibInput.Api
import Evget.LibInput.Backend
import Evget.LibInput.Devices
import Evget.LibInput.Drm
import Evget.LibInput.EventTransformer
import Evget.LibInput.GetEvent
import Evget.LibInput.Intervals
import Evget.LibInput.Isolation
import Evget.LibInput.Keyboard
import Evget.LibInput.Positions
import Evget.LibInput.Replug
import Evget.LibInput.Runs
import Evget.LibInput.XkbCommon
import Evget.Program
import Evget.Storage.Agreement
import Evget.Storage.DatabaseManager
import Evget.Storage.DatabaseStorage
import Evget.Storage.Decoding
import Evget.Storage.FilterStore
import Evget.Storage.JsonFile
import Evget.Storage.JsonStorage
import Evget.Storage.ManagerBound
import Evget.Storage.ManagerFeeding
import Evget.Storage.ManagerOrder
import Evget.Storage.ManagerReceived
import Evget.Storage.ManagerRuns
import Evget.Storage.Schema
import Evget.Storage.Sessions
import Evget.Storage.StoreAccepts
import Evget.Storage.StorePool
import Evget.Storage.StoreProtocol
import Evget.Storage.StoreReleases
import Evget.Storage.StoreRuns
import Evget.Storage.Tables
import Evget.X11.Actions
import Evget.X11.Answers
import Evget.X11.Api
import Evget.X11.Backend
import Evget.X11.ButtonEvents
import Evget.X11.Characters
import Evget.X11.Emissions
import Evget.X11.EventSwitch
import Evget.X11.EventTransformer
import Evget.X11.Handlers
import Evget.X11.Intervals
import Evget.X11.Listings
import Evget.X11.Masks
import Evget.X11.Motions
import Evget.X11.Properties
import Evget.X11.Reachable
import Evget.X11.Refreshes
import Evget.X11.Requests
import Evget.X11.Sources
import Evget.X11.Switches
import Evget.X11.Valuators
import Evget.X11.Windows
