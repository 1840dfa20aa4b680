import CredentialSupply.Cache.Basic
import CredentialSupply.Cache.EarlyRefresh
import CredentialSupply.Cache.Entry
import CredentialSupply.Cache.Lock
import CredentialSupply.Cache.Settings
import CredentialSupply.Config.Basic
import CredentialSupply.Config.Codec
import CredentialSupply.Failure
import CredentialSupply.Health.Observation
import CredentialSupply.Http.Endpoint
import CredentialSupply.Http.Exchange
import CredentialSupply.Http.Status
import CredentialSupply.Json.Magnitude
import CredentialSupply.Json.Reader
import CredentialSupply.Json.Shape
import CredentialSupply.Json.Token
import CredentialSupply.Json.Value
import CredentialSupply.Keys.Client
import CredentialSupply.Keys.KeySet
import CredentialSupply.Limit.TokenBucket
import CredentialSupply.Metrics.Codec
import CredentialSupply.Metrics.Event
import CredentialSupply.Metrics.Meter
import CredentialSupply.Metrics.Series
import CredentialSupply.Metrics.Tally
import CredentialSupply.Number.Binary64
import CredentialSupply.Outcome
import CredentialSupply.Proofs.Acceptance
import CredentialSupply.Proofs.Allowance
import CredentialSupply.Proofs.Association
import CredentialSupply.Proofs.Attempts
import CredentialSupply.Proofs.Background
import CredentialSupply.Proofs.Balance
import CredentialSupply.Proofs.Blocking
import CredentialSupply.Proofs.Bookkeeping
import CredentialSupply.Proofs.Buffer
import CredentialSupply.Proofs.Built
import CredentialSupply.Proofs.Burst
import CredentialSupply.Proofs.Chain
import CredentialSupply.Proofs.Claims
import CredentialSupply.Proofs.Closing
import CredentialSupply.Proofs.Contact
import CredentialSupply.Proofs.Content
import CredentialSupply.Proofs.Course
import CredentialSupply.Proofs.Custody
import CredentialSupply.Proofs.Decisive
import CredentialSupply.Proofs.Dormant
import CredentialSupply.Proofs.Due
import CredentialSupply.Proofs.Eager
import CredentialSupply.Proofs.Encoding
import CredentialSupply.Proofs.Encryption
import CredentialSupply.Proofs.Failing
import CredentialSupply.Proofs.Forced
import CredentialSupply.Proofs.Freshness
import CredentialSupply.Proofs.Grants
import CredentialSupply.Proofs.History
import CredentialSupply.Proofs.Inquiry
import CredentialSupply.Proofs.Omission
import CredentialSupply.Proofs.Origin
import CredentialSupply.Proofs.Outage
import CredentialSupply.Proofs.Overrun
import CredentialSupply.Proofs.Parties
import CredentialSupply.Proofs.Pause
import CredentialSupply.Proofs.Peace
import CredentialSupply.Proofs.Polling
import CredentialSupply.Proofs.Punctual
import CredentialSupply.Proofs.Queueing
import CredentialSupply.Proofs.Record
import CredentialSupply.Proofs.Resolution
import CredentialSupply.Proofs.Rounding
import CredentialSupply.Proofs.RoundingError
import CredentialSupply.Proofs.Scheduling
import CredentialSupply.Proofs.Shape
import CredentialSupply.Proofs.Shared
import CredentialSupply.Proofs.Sharing
import CredentialSupply.Proofs.Sheltered
import CredentialSupply.Proofs.SingleFlight
import CredentialSupply.Proofs.Sound
import CredentialSupply.Proofs.Spending
import CredentialSupply.Proofs.Stack
import CredentialSupply.Proofs.Steady
import CredentialSupply.Proofs.Stride
import CredentialSupply.Proofs.Tokens
import CredentialSupply.Proofs.Travel
import CredentialSupply.Proofs.Turn
import CredentialSupply.Proofs.Validity
import CredentialSupply.Proofs.Visits
import CredentialSupply.Proofs.Wake
import CredentialSupply.Proofs.Watch
import CredentialSupply.Session.Basic
import CredentialSupply.Source.Basic
import CredentialSupply.Source.Script
import CredentialSupply.Stack.Build
import CredentialSupply.Stack.Description
import CredentialSupply.Stack.Layer
import CredentialSupply.Stack.Machine
import CredentialSupply.Stack.Run
import CredentialSupply.Stack.Step
import CredentialSupply.Stack.Task
import CredentialSupply.Stack.World
import CredentialSupply.Text.Base64
import CredentialSupply.Text.Blank
import CredentialSupply.Text.Canonical
import CredentialSupply.Text.Combining
import CredentialSupply.Text.Composite
import CredentialSupply.Text.Digits
import CredentialSupply.Text.Direction
import CredentialSupply.Text.Form
import CredentialSupply.Text.Hidden
import CredentialSupply.Text.Joining
import CredentialSupply.Text.Mark
import CredentialSupply.Text.Quoted
import CredentialSupply.Text.Ranges
import CredentialSupply.Text.Split
import CredentialSupply.Text.Utf8
import CredentialSupply.Time.FloatSeconds
import CredentialSupply.Time.Instant
import CredentialSupply.Time.Span
import CredentialSupply.Time.Timestamp
import CredentialSupply.Token.AccessToken
import CredentialSupply.Token.Client
import CredentialSupply.Token.Credentials
import CredentialSupply.Token.Grant
import CredentialSupply.Url.Basic
import CredentialSupply.Url.File
import CredentialSupply.Url.Host
import CredentialSupply.Url.Name.Ascii
import CredentialSupply.Url.Name.Expansion
import CredentialSupply.Url.Name.Label
import CredentialSupply.Url.Name.Mapping
import CredentialSupply.Url.Name.Refused
import CredentialSupply.Url.Name.Replacement
import CredentialSupply.Url.Percent
import CredentialSupply.Url.Punycode
import CredentialSupply.Url.Reader
import CredentialSupply.Url.Segment
