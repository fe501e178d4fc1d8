import LakeAdmin.Gateway.Answer
import LakeAdmin.Service.Blocking
import LakeAdmin.Proofs.Http.Action
import LakeAdmin.Proofs.Http.Exchange
import LakeAdmin.Proofs.Text.Split
import LakeAdmin.Proofs.Text.Percent
import LakeAdmin.Proofs.Text.Form
import LakeAdmin.Proofs.Json.Distinct
import LakeAdmin.Proofs.Model.Kept
import LakeAdmin.Proofs.Model.Writable
import LakeAdmin.Proofs.Url.Host
import LakeAdmin.Proofs.Url.Cut
import LakeAdmin.Proofs.Url.Path
import LakeAdmin.Proofs.Url.Reading
import LakeAdmin.Proofs.Url.Writing
import LakeAdmin.Proofs.Url.Reference
import LakeAdmin.Proofs.Url.Join
import LakeAdmin.Proofs.Url.Again
import LakeAdmin.Proofs.Url.Place
import LakeAdmin.Proofs.Client.Request
import LakeAdmin.Proofs.Client.Path
import LakeAdmin.Proofs.Client.Segments
import LakeAdmin.Proofs.Client.Resolve
import LakeAdmin.Proofs.Client.Sending
import LakeAdmin.Proofs.Client.OwnHost
import LakeAdmin.Proofs.Client.Credentials
import LakeAdmin.Proofs.Client.Arguments
import LakeAdmin.Proofs.Service.Habit
import LakeAdmin.Proofs.Service.Listing
import LakeAdmin.Proofs.Service.Polling
import LakeAdmin.Proofs.Service.Confinement
import LakeAdmin.Proofs.Service.Addressing
import LakeAdmin.Proofs.Service.Arguments
import LakeAdmin.Proofs.Gateway.Page
import LakeAdmin.Proofs.Gateway.Paging
import LakeAdmin.Proofs.Numeric.Order
import LakeAdmin.Proofs.Numeric.Exact
import LakeAdmin.Proofs.Client.Tokens
import LakeAdmin.Proofs.ListCache
import LakeAdmin.Proofs.CacheKey
import LakeAdmin.Proofs.CacheHistory
import LakeAdmin.Proofs.Path.Written
import LakeAdmin.Proofs.Service.Sparing
import LakeAdmin.Proofs.Service.Browsing
import LakeAdmin.Proofs.Service.Caching
import LakeAdmin.Proofs.Service.Hearing
import LakeAdmin.Proofs.Service.Receiving
import LakeAdmin.Proofs.Service.Staleness
import LakeAdmin.Proofs.Gateway.Call
import LakeAdmin.Proofs.Gateway.Items
import LakeAdmin.Proofs.Gateway.Outcome
import LakeAdmin.Proofs.Json.Shape
import LakeAdmin.Proofs.Model.Grammar
import LakeAdmin.Proofs.Http.Pages
import LakeAdmin.Proofs.Net.Ipv4
import LakeAdmin.Proofs.Schema.Refusal
import LakeAdmin.Proofs.Schema.Written
import LakeAdmin.Proofs.Model.Validity
import LakeAdmin.Proofs.Json.Equal
import LakeAdmin.Proofs.Json.Present
import LakeAdmin.Proofs.Model.Body
import LakeAdmin.Proofs.Model.Account
import LakeAdmin.Proofs.Model.Range
import LakeAdmin.Proofs.Service.Submission
import LakeAdmin.Proofs.Service.Creation
import LakeAdmin.Proofs.Service.Ranges
import LakeAdmin.Proofs.Pager
import LakeAdmin.Proofs.Service.Immediate
import LakeAdmin.Proofs.Service.Options
import LakeAdmin.Proofs.Service.Faltering
import LakeAdmin.Proofs.Gateway.Breaking
import LakeAdmin.Proofs.Client.Encoding
import LakeAdmin.Proofs.Service.Scoping
import LakeAdmin.Proofs.Settings.Loading
import LakeAdmin.Proofs.Settings.BaseUrl
import LakeAdmin.Proofs.Numeric.Literal
import LakeAdmin.Proofs.Service.Pacing
import LakeAdmin.Proofs.Text.Quoted
import LakeAdmin.Proofs.Json.Equivalence
import LakeAdmin.Proofs.Json.Display
import LakeAdmin.Proofs.Failure
import LakeAdmin.Proofs.Text.Utf8
import LakeAdmin.Proofs.Text.Charset
import LakeAdmin.Proofs.Json.Start
import LakeAdmin.Proofs.Json.Document
import LakeAdmin.Proofs.Service.Refusal
import LakeAdmin.Proofs.Service.Invalidation
import LakeAdmin.Proofs.Client.Anchored
