import BucketClock.Config.Assembly
import BucketClock.Config.EnvironmentFile
import BucketClock.Json.Records
import BucketClock.Proofs.Store.Commit
import BucketClock.Proofs.Store.Contents
import BucketClock.Proofs.Store.Events
import BucketClock.Proofs.Supply
import BucketClock.Proofs.Track.Run
import BucketClock.Scheduler
import BucketClock.Proofs.Track.Passage
import BucketClock.Proofs.Track.Drain
import BucketClock.Proofs.Track.Sound
import BucketClock.Proofs.Track.Goods
import BucketClock.Proofs.Track.Conservation
import BucketClock.Proofs.Track.Delivery
import BucketClock.Proofs.Track.FrameOrder
import BucketClock.Proofs.Store.Calm
import BucketClock.Proofs.Track.Timetable
import BucketClock.Proofs.Track.Output
import BucketClock.Proofs.Track.Drive
import BucketClock.Proofs.Store.Harmless
import BucketClock.Proofs.Track.Emptiness
import BucketClock.Proofs.Track.Course
import BucketClock.Proofs.Track.Seeded
import BucketClock.Proofs.Track.Foreign
import BucketClock.Proofs.Track.TickOutcome
import BucketClock.Proofs.Store.Sturdy
import BucketClock.Proofs.Track.Atomic
import BucketClock.Proofs.Track.Retries
import BucketClock.Proofs.Track.RetryLaw
import BucketClock.Proofs.Track.Books
import BucketClock.Proofs.Track.Careers
import BucketClock.Proofs.Track.Chronicle
import BucketClock.Proofs.Timeline
import BucketClock.Proofs.Track.Resubmission
import BucketClock.Proofs.Track.Callbacks
import BucketClock.Proofs.Track.Lineage
import BucketClock.Proofs.Alike
import BucketClock.Proofs.Store.Alike
import BucketClock.Proofs.Track.Interchange
import BucketClock.Proofs.Supply.Draws
import BucketClock.Proofs.Supply.Lifecycle
import BucketClock.Proofs.Track.FrameCap
import BucketClock.Proofs.Track.FrameCount
import BucketClock.Proofs.Store.Twin
import BucketClock.Proofs.Track.Ticking
import BucketClock.Proofs.Track.Twin
import BucketClock.Proofs.Track.Reordering
import BucketClock.Proofs.Store.Identity
import BucketClock.Proofs.Track.Identity
import BucketClock.Proofs.Track.Uniqueness
import BucketClock.Proofs.Track.Auditing
import BucketClock.Proofs.Bucket
import BucketClock.Proofs.Track.IndexRange
import BucketClock.Proofs.Assembly
import BucketClock.Proofs.Environment
import BucketClock.Proofs.Window.Remainder
import BucketClock.Proofs.Json.RoundTrip
import BucketClock.Proofs.Json.Fields
import BucketClock.Proofs.Json.Records
