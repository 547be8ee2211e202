import StatusDashboard.Provenance.Alone
import StatusDashboard.Properties.Coverage
import StatusDashboard.Properties.Occupancy
import StatusDashboard.Properties.Association
import StatusDashboard.Properties.Draft
import StatusDashboard.Properties.Visibility
import StatusDashboard.Properties.Publication
import StatusDashboard.Properties.Ranges
import StatusDashboard.Properties.Ownership
import StatusDashboard.Properties.Versions
import StatusDashboard.Properties.Writeback
import StatusDashboard.Properties.Atomicity
import StatusDashboard.Properties.Caching
import StatusDashboard.Properties.Keys
import StatusDashboard.Process.Automaton
import StatusDashboard.Process.Monitor
import StatusDashboard.Storage.Reads
import StatusDashboard.Handlers.Route
import StatusDashboard.Properties.Reporter
import StatusDashboard.Sequence.Change
import StatusDashboard.Properties.Levels
import StatusDashboard.Properties.Coherence
import StatusDashboard.Properties.Exclusion
import StatusDashboard.Properties.ClockLaw
import StatusDashboard.Properties.Priority
import StatusDashboard.Properties.Conservation
import StatusDashboard.Properties.Redistribution
import StatusDashboard.Properties.Answers
import StatusDashboard.Properties.Pagination
import StatusDashboard.Properties.TaskExclusion
import StatusDashboard.Properties.Catalog
import StatusDashboard.Properties.RoleResolution
import StatusDashboard.Properties.Dereference
import StatusDashboard.Static.Response
import StatusDashboard.Static.Proxy
import StatusDashboard.Properties.Genuine
import StatusDashboard.Properties.Announcement
import StatusDashboard.Properties.Audit
import StatusDashboard.Handlers.Component
import StatusDashboard.Auth.Roles
import StatusDashboard.Handlers.Render
import StatusDashboard.Properties.Backfill
import StatusDashboard.Properties.Convergence
import StatusDashboard.Properties.Acceptance
import StatusDashboard.Properties.Collapse
import StatusDashboard.Properties.Addressing
import StatusDashboard.Properties.Roundtrip
import StatusDashboard.Calendar.Division
import StatusDashboard.Calendar.Gregorian
import StatusDashboard.Properties.Chunking
import StatusDashboard.Handlers.Availability
import StatusDashboard.Properties.Availability
import StatusDashboard.Notification.Config
import StatusDashboard.Properties.Recipients
import StatusDashboard.Properties.RoleClaims
import StatusDashboard.Properties.Leases
import StatusDashboard.Properties.Draining
import StatusDashboard.Properties.Listing
import StatusDashboard.Properties.Permanence
