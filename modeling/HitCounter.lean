import HitCounter.Admin.Basic
import HitCounter.Buffer.Clock
import HitCounter.Config.Basic
import HitCounter.Endpoint.Basic
import HitCounter.Main
import HitCounter.Text.Utf8.Lemmas
import HitCounter.Proofs.Counting.Recorded
import HitCounter.Proofs.Counting.Separation
import HitCounter.Proofs.Endpoint.Sink
import HitCounter.Proofs.Buffer.Conservation
import HitCounter.Proofs.Json.Spelled
import HitCounter.Proofs.Json.Written
import HitCounter.Proofs.Site.Settings
import HitCounter.Proofs.Store.Cache
import HitCounter.Proofs.Store.Batch
import HitCounter.Proofs.Store.Registry
import HitCounter.Proofs.Buffer.Persist
import HitCounter.Proofs.Counting.Verdict
import HitCounter.Proofs.Http.Form
import HitCounter.Proofs.Json.Grammar
import HitCounter.Proofs.Hit.Payload
import HitCounter.Proofs.Text.Ascii
import HitCounter.Proofs.Endpoint.Answer
import HitCounter.Proofs.Admin.Effect
import HitCounter.Proofs.Admin.Session
import HitCounter.Proofs.Http.Host
import HitCounter.Proofs.Admin.IgnoreList
import HitCounter.Proofs.Counting.UserAgent
import HitCounter.Proofs.Config.Reading
import HitCounter.Proofs.Buffer.Configured
import HitCounter.Proofs.Buffer.Shutdown
import HitCounter.Proofs.Store.Freshness
import HitCounter.Proofs.Numeric.Value
import HitCounter.Proofs.Visitor.AcceptedLanguages
import HitCounter.Proofs.Http.Header
import HitCounter.Proofs.Visitor.PreferredLanguage
import HitCounter.Proofs.Visitor.BaseLanguage
import HitCounter.Proofs.Json.Value
import HitCounter.Proofs.Hit.Members
import HitCounter.Proofs.Hit.Overlay
import HitCounter.Proofs.Visitor.Origin
import HitCounter.Proofs.Visitor.Detection
import HitCounter.Proofs.Hit.Rules
import HitCounter.Proofs.Hit.Checks
import HitCounter.Proofs.Numeric.Digits
import HitCounter.Proofs.Net.Grammar
import HitCounter.Proofs.Net.Reading
import HitCounter.Proofs.Net.Canonical
import HitCounter.Proofs.Numeric.Literal
import HitCounter.Proofs.Hit.Size
import HitCounter.Proofs.Numeric.Rounding
import HitCounter.Proofs.Numeric.Shortest
import HitCounter.Proofs.Store.SizeColumn
import HitCounter.Proofs.Visitor.Location
import HitCounter.Proofs.Counting.Collection
import HitCounter.Proofs.Config.Accepted
import HitCounter.Proofs.Text.Lowercase
import HitCounter.Proofs.Admin.Edits
