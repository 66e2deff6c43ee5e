import VersionedStore.Config.Load
import VersionedStore.Client.Session
import VersionedStore.Proofs.Message.RoundTrip
import VersionedStore.Proofs.Client.Put
import VersionedStore.Proofs.Client.Errors
import VersionedStore.Proofs.Client.Get
import VersionedStore.Proofs.Retry.Wrapping
import VersionedStore.Proofs.Message.Variation
import VersionedStore.Proofs.Retry.Bound
import VersionedStore.Proofs.Field.Numeral
import VersionedStore.Proofs.Field.Size
import VersionedStore.Proofs.Message.Reencoding
import VersionedStore.Proofs.Tracing.Disclosure
import VersionedStore.Proofs.Number.Exact
import VersionedStore.Proofs.Field.Spelling
import VersionedStore.Proofs.Message.Versions
import VersionedStore.Proofs.Client.Endpoint
import VersionedStore.Proofs.Failure.Refusal
import VersionedStore.Proofs.Tracing.Transparency
import VersionedStore.Proofs.Config.Environment
import VersionedStore.Proofs.Json.Unambiguous
import VersionedStore.Proofs.Message.Unambiguous
import VersionedStore.Proofs.Client.Concurrency
import VersionedStore.Proofs.Config.Pause
import VersionedStore.Proofs.Message.Payload
import VersionedStore.Proofs.Client.Log
import VersionedStore.Proofs.Message.Revalidation
import VersionedStore.Proofs.Tracing.Capture
import VersionedStore.Proofs.Retry.Schedule
import VersionedStore.Proofs.Config.Address
import VersionedStore.Proofs.Message.Elements
import VersionedStore.Proofs.Message.Integer
