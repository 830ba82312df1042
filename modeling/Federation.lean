import Federation.Text.Blank
import Federation.Text.Quoted
import Federation.Text.Utf8
import Federation.Double.Shortest
import Federation.Json.Printer
import Federation.Json.Reader
import Federation.Json.Record
import Federation.Uuid
import Federation.Instant
import Federation.Directory.ServiceError
import Federation.Directory.Wire
import Federation.Directory.Cloud
import Federation.Directory.Gateway
import Federation.Directory.Store
import Federation.Reconcile.Lock
import Federation.Reconcile.Run
import Federation.Reconcile.Crowd
import Federation.Directory.Rehearsal
import Federation.Directory.Guard
import Federation.Command.Text
import Federation.Declaration.Load
import Federation.Http.Url
import Federation.Directory.Remote
import Federation.Command.Run
import Federation.Main
import Federation.Proofs.Answer
import Federation.Proofs.Store
import Federation.Proofs.Attempt
import Federation.Proofs.Ensure
import Federation.Proofs.DryRun
import Federation.Proofs.Aim
import Federation.Proofs.Lock
import Federation.Proofs.Weave
import Federation.Proofs.Account
import Federation.Proofs.Abide
import Federation.Proofs.Conduct
import Federation.Proofs.Bookkeeping
import Federation.Proofs.Upheld
import Federation.Proofs.Report
import Federation.Proofs.Unique
import Federation.Proofs.Turns
import Federation.Proofs.Once
import Federation.Proofs.Crowd
import Federation.Proofs.Sequence
import Federation.Proofs.Provenance
import Federation.Proofs.Locality
import Federation.Proofs.Scope
import Federation.Proofs.Crew
import Federation.Proofs.Parts
import Federation.Proofs.Confluence
import Federation.Proofs.Growth
import Federation.Proofs.Converge
import Federation.Proofs.Removal
import Federation.Proofs.Cut
import Federation.Proofs.Resume
import Federation.Proofs.Loaded
import Federation.Proofs.Residue
import Federation.Proofs.Slots
import Federation.Proofs.Halt
import Federation.Proofs.Orderly
import Federation.Proofs.Confirmed
import Federation.Proofs.Codec
import Federation.Proofs.Operation
import Federation.Proofs.Service
import Federation.Proofs.Moment
import Federation.Proofs.Still
import Federation.Proofs.Flag
import Federation.Proofs.Accepted
import Federation.Proofs.Canonical
import Federation.Proofs.RoundTrip
import Federation.Proofs.Restored
import Federation.Proofs.Sent
import Federation.Proofs.Lineage
import Federation.Proofs.Lookups
import Federation.Proofs.Muster
import Federation.Proofs.Excision
import Federation.Proofs.Journal
import Federation.Proofs.Warrant
import Federation.Proofs.Stages
import Federation.Proofs.Namesake
import Federation.Proofs.Effect
import Federation.Proofs.Intact
import Federation.Proofs.Foretold
import Federation.Proofs.Composite
import Federation.Proofs.Lasting
import Federation.Proofs.Delimited
import Federation.Proofs.Compound
import Federation.Proofs.Failed
import Federation.Proofs.Breach
import Federation.Proofs.Composed
import Federation.Proofs.Replay
import Federation.Proofs.Troop
import Federation.Proofs.Whole
import Federation.Proofs.Bounds
import Federation.Proofs.Renewal
import Federation.Proofs.Lines
import Federation.Proofs.Legible
import Federation.Proofs.Shown
