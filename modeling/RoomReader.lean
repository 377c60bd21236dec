import RoomReader.AliasCache
import RoomReader.Count
import RoomReader.Decimal.Shortest
import RoomReader.Directory
import RoomReader.Event.Basic
import RoomReader.Event.Codec
import RoomReader.Homeserver.Client
import RoomReader.Homeserver.Connections
import RoomReader.Homeserver.Error
import RoomReader.Homeserver.Exchange
import RoomReader.Homeserver.Log
import RoomReader.Homeserver.Mailbox
import RoomReader.Homeserver.Response
import RoomReader.Homeserver.Scripted
import RoomReader.Http.Status
import RoomReader.Json.Basic
import RoomReader.Json.Numeral
import RoomReader.Json.Printer
import RoomReader.Json.Raw
import RoomReader.Json.Reader
import RoomReader.Json.Record
import RoomReader.Main
import RoomReader.Media
import RoomReader.Pagination
import RoomReader.Pool.Basic
import RoomReader.Pool.Shard
import RoomReader.Pool.Sweep
import RoomReader.Pool.Worker
import RoomReader.Proofs.Calls
import RoomReader.Proofs.Directory
import RoomReader.Proofs.Event.Codec
import RoomReader.Proofs.Event.Payload
import RoomReader.Proofs.Exchange
import RoomReader.Proofs.Json.Record
import RoomReader.Proofs.Pagination
import RoomReader.Proofs.Pool.Accounting
import RoomReader.Proofs.Pool.Agreement
import RoomReader.Proofs.Pool.Budget
import RoomReader.Proofs.Pool.Containment
import RoomReader.Proofs.Pool.Crew
import RoomReader.Proofs.Pool.Eviction
import RoomReader.Proofs.Pool.Hearing
import RoomReader.Proofs.Pool.Independence
import RoomReader.Proofs.Pool.Labour
import RoomReader.Proofs.Pool.Listing
import RoomReader.Proofs.Pool.Outage
import RoomReader.Proofs.Pool.Ownership
import RoomReader.Proofs.Pool.Recency
import RoomReader.Proofs.Pool.Schedule
import RoomReader.Proofs.Pool.Settling
import RoomReader.Proofs.Pool.Slot
import RoomReader.Proofs.Pool.Tasks
import RoomReader.Proofs.Pool.Turns
import RoomReader.Proofs.Position
import RoomReader.Proofs.Projection
import RoomReader.Proofs.Search
import RoomReader.Proofs.Server.Aliases
import RoomReader.Proofs.Server.Cached
import RoomReader.Proofs.Server.Pinned
import RoomReader.Proofs.Server.Redirect
import RoomReader.Proofs.Sorting
import RoomReader.Proofs.State.Base
import RoomReader.Proofs.State.Derived
import RoomReader.Proofs.State.Fold
import RoomReader.Proofs.State.LastWriter
import RoomReader.Proofs.State.Overwrite
import RoomReader.Proofs.State.Replies
import RoomReader.Proofs.State.Roster
import RoomReader.Proofs.State.Snapshot
import RoomReader.Proofs.Text.Form
import RoomReader.Proofs.Text.Lowercase
import RoomReader.Proofs.Text.Percent
import RoomReader.Proofs.Text.Utf8
import RoomReader.Proofs.Timeline.Between
import RoomReader.Proofs.Timeline.Fetch
import RoomReader.Proofs.Timeline.History
import RoomReader.Proofs.Timeline.Mirror
import RoomReader.Proofs.Timeline.Moves
import RoomReader.Proofs.Timeline.Outage
import RoomReader.Proofs.Timeline.Paging
import RoomReader.Proofs.Timeline.Permalink
import RoomReader.Proofs.Timeline.Repetition
import RoomReader.Proofs.Timeline.Reread
import RoomReader.Proofs.Timeline.Service
import RoomReader.Proofs.Timeline.Walk
import RoomReader.Proofs.Timeline.Window
import RoomReader.Proofs.Tracking
import RoomReader.Proofs.Transcript
import RoomReader.Proofs.Url.Extension
import RoomReader.Proofs.Url.Remote
import RoomReader.Proofs.Url.Thumbnail
import RoomReader.Room.Basic
import RoomReader.Room.Codec
import RoomReader.Room.Error
import RoomReader.Room.State
import RoomReader.Room.Timeline
import RoomReader.Server.Basic
import RoomReader.Server.Error
import RoomReader.Server.Page
import RoomReader.Server.Place
import RoomReader.Server.Query
import RoomReader.Server.Response
import RoomReader.Server.Route
import RoomReader.Server.Target
import RoomReader.Server.Upkeep
import RoomReader.Settings.Basic
import RoomReader.Settings.CommandLine
import RoomReader.Settings.Homeserver
import RoomReader.Startup
import RoomReader.StringMap
import RoomReader.Text.Ascii
import RoomReader.Text.BidiClass
import RoomReader.Text.Blank
import RoomReader.Text.CaseTable
import RoomReader.Text.Composition.Basic
import RoomReader.Text.Composition.Table
import RoomReader.Text.Folding.Basic
import RoomReader.Text.Folding.Table
import RoomReader.Text.Form
import RoomReader.Text.Integer
import RoomReader.Text.Joining
import RoomReader.Text.Lowercase
import RoomReader.Text.Mark
import RoomReader.Text.Percent
import RoomReader.Text.Ranges
import RoomReader.Text.Split
import RoomReader.Text.Utf8
import RoomReader.Url.Basic
import RoomReader.Url.Domain.Basic
import RoomReader.Url.Domain.Table
import RoomReader.Url.Error
import RoomReader.Url.Host
import RoomReader.Url.Parser
import RoomReader.Url.Punycode
