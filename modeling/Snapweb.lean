import Snapweb.Core.Machine
import Snapweb.Core.Members
import Snapweb.Core.Outcome
import Snapweb.Core.Responder
import Snapweb.StateTracker.StateTracker
import Snapweb.StateTracker.History
import Snapweb.StateTracker.Expiry
import Snapweb.StateTracker.Report
import Snapweb.Packages.Operations
import Snapweb.Core.Filepath
import Snapweb.Core.Files
import Snapweb.Core.Form
import Snapweb.Packages.Icons
import Snapweb.Packages.IconNames
import Snapweb.Packages.IconCache
import Snapweb.Packages.IconLookup
import Snapweb.Packages.Payload
import Snapweb.Packages.Handlers
import Snapweb.Packages.StoreListing
import Snapweb.Packages.TrackedListing
import Snapweb.Packages.Update
import Snapweb.Packages.Interleaving
import Snapweb.Packages.InTurn
import Snapweb.Core.IP
import Snapweb.NetFilter.NetFilter
import Snapweb.Config
import Snapweb.NetFilter.FilterHandler
import Snapweb.NetFilter.Refresh
import Snapweb.Core.Replace
import Snapweb.NetFilter.Redirect
import Snapweb.AccessToken.Token
import Snapweb.Client.SnapModel
import Snapweb.Client.Progress
import Snapweb.Core.Backbone
import Snapweb.Client.SnapEvents
import Snapweb.Client.Consistency
import Snapweb.Client.Leftovers
import Snapweb.Client.Polling
import Snapweb.Core.Calendar
import Snapweb.Client.Moment
import Snapweb.Client.ByteSize
import Snapweb.Client.TimeZones
import Snapweb.Client.SettingsTime
import Snapweb.TimeInfo.Timesyncd
import Snapweb.TimeInfo.Overlap
import Snapweb.TimeInfo.Stack
import Snapweb.Core.Bufio
import Snapweb.TimeInfo.Save
import Snapweb.TimeInfo.Datetime
import Snapweb.TimeInfo.Handler
import Snapweb.System.TimeSettings
import Snapweb.Certificate.Cert
import Snapweb.Core.JSON
import Snapweb.Core.UTF8
import Snapweb.Core.JSONText
import Snapweb.Core.JSONPrint
import Snapweb.Configure
import Snapweb.Core.ServeMux
import Snapweb.Server.Site
import Snapweb.Server.Access
import Snapweb.Core.Percent
import Snapweb.Server.Routes
import Snapweb.Client.Requests
import Snapweb.System.Page
import Snapweb.System.Settling
import Snapweb.System.Store
import Snapweb.System.Session
import Snapweb.Core.JSONEncode
import Snapweb.System.Wire
import Snapweb.Core.Collection
import Snapweb.System.Home
import Snapweb.System.Listings
import Snapweb.System.Polls
