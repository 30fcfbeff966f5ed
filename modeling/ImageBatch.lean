import ImageBatch.Batch.Whole
import ImageBatch.Proofs.Artifact.Repetition
import ImageBatch.Proofs.Artifact.Runs
import ImageBatch.Proofs.Artifact.Stems
import ImageBatch.Proofs.Backend.Attempts
import ImageBatch.Proofs.Batch.Accounting
import ImageBatch.Proofs.Batch.Chronicle
import ImageBatch.Proofs.Batch.Product
import ImageBatch.Proofs.Batch.Restoring
import ImageBatch.Proofs.Batch.Uses
import ImageBatch.Proofs.Config
import ImageBatch.Proofs.Feature.Precedence
import ImageBatch.Proofs.Job.Career
import ImageBatch.Proofs.Server.Dialogue
import ImageBatch.Proofs.Server.Nodes
import ImageBatch.Proofs.Server.Shelf
import ImageBatch.Proofs.Style.Keywords
import ImageBatch.Proofs.Template.Acceptance
import ImageBatch.Proofs.Template.Kinds
import ImageBatch.Proofs.Tracker.Adoption
import ImageBatch.Proofs.Tracker.Causes
import ImageBatch.Proofs.Tracker.Completeness
import ImageBatch.Proofs.Tracker.Draining
import ImageBatch.Proofs.Tracker.Isolation
import ImageBatch.Proofs.Tracker.Pacing
import ImageBatch.Proofs.Tracker.Persistence
import ImageBatch.Proofs.Tracker.Settled
import ImageBatch.Proofs.Tracker.Submission
import ImageBatch.Server.Rehearsal
