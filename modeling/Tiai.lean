import Tiai.Lib.Runs
import Tiai.Base
import Tiai.Text
import Tiai.Wol.Packet
import Tiai.Machine.Fingerprint
import Tiai.Machine.Heartbeat
import Tiai.Lib.Detector
import Tiai.Machine.Enroll
import Tiai.Machine.Drift
import Tiai.Machine.Handshake
import Tiai.Machine.Identity
import Tiai.Lib.Column
import Tiai.Machine.KillSwitch
import Tiai.Command.Model
import Tiai.Command.Queue
import Tiai.Command.Server
import Tiai.Command.Lifecycle
import Tiai.Command.Delivery
import Tiai.Agent.Handout
import Tiai.Agent.Declined
import Tiai.Lib.Rectangle
import Tiai.User.Permissions
import Tiai.User.Accounts
import Tiai.User.Routes
import Tiai.Lib.Checked
import Tiai.User.Escalation
import Tiai.Deploy.Manifest
import Tiai.Lib.Action
import Tiai.Lib.Store
import Tiai.Deploy.World
import Tiai.Deploy.Download
import Tiai.Deploy.Executor
import Tiai.Deploy.OnlyTrusted
import Tiai.Deploy.Handling
import Tiai.Deploy.Confinement
import Tiai.Session.Model
import Tiai.Session.Rows
import Tiai.Session.Refresh
import Tiai.Session.Purge
import Tiai.Command.OneOpen
import Tiai.User.Lockout
import Tiai.Packages.Model
import Tiai.Packages.Routes
import Tiai.Packages.Readable
import Tiai.Packages.Covered
import Tiai.Lib.Sql
import Tiai.User.Selection
import Tiai.Maintenance.Policy
import Tiai.Lib.Calendar
import Tiai.Lib.Recurrence
import Tiai.Worker.Schedule
import Tiai.Worker.Mail
import Tiai.Agent.Power
import Tiai.Agent.Cache
import Tiai.Lib.Buckets
import Tiai.Usage.Model
import Tiai.Lib.Owned
import Tiai.Machine.Merge
import Tiai.Usage.Accounting
import Tiai.Lib.FreeName
import Tiai.Lib.Rows
import Tiai.Room.Model
import Tiai.Room.Directory
import Tiai.Room.Routes
import Tiai.Room.Site
import Tiai.User.Credentials
import Tiai.User.CleanCut
import Tiai.User.Guessing
import Tiai.Confined.Model
import Tiai.Confined.Routes
import Tiai.Confined.Seen
import Tiai.Confined.Covered
import Tiai.Confined.Leaks
import Tiai.Room.Reach
import Tiai.Lib.Latest
import Tiai.Packages.Slots
import Tiai.Usage.Settings
import Tiai.Maintenance.Journal
import Tiai.Maintenance.Checks
import Tiai.Maintenance.ClosedOnce
import Tiai.Lib.Upsert
import Tiai.Threat.Model
import Tiai.Threat.History
import Tiai.Lib.Regex
import Tiai.Packages.Grammar
import Tiai.Wol.SameAddress
import Tiai.Lib.Paging
import Tiai.Lists.Model
import Tiai.Lists.ShownOnce
import Tiai.Agent.Elections
import Tiai.User.RateLimit
import Tiai.Confined.Due
import Tiai.Deploy.Resume
import Tiai.Worker.Outbox
import Tiai.Inventory.Model
import Tiai.Inventory.Applied
import Tiai.Inventory.SystemVolume
import Tiai.Agent.Queue
import Tiai.Agent.Console
import Tiai.Agent.ToolOutput
import Tiai.Agent.Replay
import Tiai.Lib.Json
import Tiai.Lib.Sha256
import Tiai.Lib.SortSlice
import Tiai.Agent.InventoryState
import Tiai.Agent.InventoryHash
import Tiai.Agent.AVProduct
import Tiai.Lib.Int4
import Tiai.Machine.LowDisk
import Tiai.Machine.Online
import Tiai.Lib.Pieces
import Tiai.Machine.AgentVersion
import Tiai.Agent.DistinguishedName
import Tiai.Machine.WindowsUpdate
import Tiai.Setting.EmailPolicy
import Tiai.Packages.ContentStore
import Tiai.Heartbeat.Body
import Tiai.Heartbeat.Written
import Tiai.Heartbeat.Fits
import Tiai.MachineList.Filters
import Tiai.MachineList.Walked
import Tiai.Agent.Acl
import Tiai.Agent.UpdateInstall
import Tiai.Audit.DayStart
import Tiai.Pages.AutoRefresh
import Tiai.JsText
import Tiai.Setting.EmailCard
import Tiai.Lib.Like
import Tiai.Machine.Search
import Tiai.Lib.Dictionary
import Tiai.Lib.Double
import Tiai.Machine.VersionBadge
import Tiai.Lib.Terminal
import Tiai.Agent.Tidy
import Tiai.Agent.Survival
import Tiai.Agent.TokenDisk
import Tiai.Agent.StoreReset
import Tiai.Lists.CardLinks
import Tiai.Threat.Alert
import Tiai.Session.Renewal
import Tiai.Machine.Export
import Tiai.Pages.Walk
import Tiai.Lists.Digest
import Tiai.Lists.Tasks
import Tiai.Lists.DigestMail
