import Allgres.Sandbox.Relations
import Allgres.Sandbox.Functions
import Allgres.Safety.Outstanding
import Allgres.Safety.Status
import Allgres.Safety.Leftover
import Allgres.Safety.Approvals
import Allgres.Safety.Budget
import Allgres.Integrations
import Allgres.Build
import Allgres.Safety.Secrets
import Allgres.Safety.Tick
import Allgres.Safety.Forest
import Allgres.Safety.Capacity
import Allgres.Safety.Continuation
import Allgres.Safety.Deadlock
import Allgres.Safety.Delegation
import Allgres.Safety.Stuck
import Allgres.Safety.Builds
import Allgres.Safety.Outcome
import Allgres.Safety.Schedules
import Allgres.Safety.Config
import Allgres.Safety.Mutations
import Allgres.Safety.Turns
import Allgres.Safety.Availability
import Allgres.Safety.Contents
import Allgres.Safety.Identity
import Allgres.Safety.Costs
import Allgres.Safety.Restored
import Allgres.Safety.Keys
import Allgres.Concurrent.SingleUse
import Allgres.Safety.Devices
import Allgres.Safety.Canary
import Allgres.Lib.JsonReading
import Allgres.Lib.JsonWriting
import Allgres.Safety.Confinement
import Allgres.Safety.Extraction
import Allgres.Safety.Idempotency
import Allgres.Safety.Rotation
import Allgres.Safety.Console
import Allgres.Safety.Decisions
import Allgres.Lib.RustStr
import Allgres.Lib.Utf8
import Allgres.Safety.Handlers
import Allgres.Lib.Search
import Allgres.Refine.Dump
import Allgres.Refine.Statements
import Allgres.Refine.Writing
import Allgres.Safety.Dumps
import Allgres.Addresses
import Allgres.Lib.Ranked
import Allgres.Safety.Blocklists
import Allgres.Safety.Compaction
import Allgres.Safety.Eviction
import Allgres.Safety.Literals
import Allgres.Safety.Rates
import Allgres.Safety.Spellings
import Allgres.Sandbox.Quoting
import Allgres.Sandbox.Rows
import Allgres.Lib.QueryString
import Allgres.Safety.Framing
import Allgres.Safety.Redirects
import Allgres.Safety.Stickiness
import Allgres.Safety.Bodies
import Allgres.Safety.Entries
import Allgres.Safety.Lockout
import Allgres.Safety.Mentions
import Allgres.Safety.Percent
import Allgres.Safety.Roles
import Allgres.Safety.Tickets
import Allgres.Safety.Tokens
import Allgres.Lib.Archive
import Allgres.Lib.JsonEquality
import Allgres.Safety.LlmConfigs
import Allgres.Safety.Policies
import Allgres.Safety.Rollbacks
import Allgres.Safety.SystemAgents
import Allgres.Concurrent.Deciding
import Allgres.Concurrent.Timely
import Allgres.Lib.Evolution
import Allgres.Edits.Core
import Allgres.Edits.Submit
import Allgres.Edits.Worker
import Allgres.Edits.Operators
import Allgres.Edits.Requests
import Allgres.Services
import Allgres.System
import Allgres.Edits.System
import Allgres.Safety.Supervision
import Allgres.Safety.Journals
import Allgres.Safety.Retention
import Allgres.Safety.Registry
import Allgres.Safety.Fences
import Allgres.Safety.Gate
import Allgres.Safety.Privileges
