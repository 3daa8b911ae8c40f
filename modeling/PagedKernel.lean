import PagedKernel.Image.Program
import PagedKernel.Platform
import PagedKernel.Scheduler
import PagedKernel.Proofs.Geometry
import PagedKernel.Proofs.Memory
import PagedKernel.Proofs.Translation
import PagedKernel.Proofs.Placement
import PagedKernel.Proofs.Loading.Cases
import PagedKernel.Proofs.Loading.Acceptance
import PagedKernel.Proofs.Loading.Contents
import PagedKernel.Proofs.Copying
import PagedKernel.Proofs.Access
import PagedKernel.Proofs.Scheduling.Runs
import PagedKernel.Proofs.Scheduling.Orderly
import PagedKernel.Proofs.Scheduling.Steps
import PagedKernel.Proofs.Isolation.PrivateSystem
import PagedKernel.Proofs.Isolation.Simulation
import PagedKernel.Proofs.Isolation.Refinement
import PagedKernel.Proofs.Abiding
import PagedKernel.Proofs.Bookkeeping
import PagedKernel.Proofs.Course
import PagedKernel.Proofs.Scheduling.Progress
import PagedKernel.Proofs.Construction
import PagedKernel.Proofs.Scheduling.Chronicle
import PagedKernel.Proofs.Scheduling.Refusals
import PagedKernel.Proofs.Platform.Accounts
import PagedKernel.Proofs.Loading.Ranges
import PagedKernel.Proofs.Loading.Reservation
import PagedKernel.Proofs.Isolation.Relocation
import PagedKernel.Proofs.Scheduling.Occurrences
import PagedKernel.Proofs.Scheduling.Fairness
import PagedKernel.Proofs.Loading.Codec
import PagedKernel.Proofs.Loading.Twin
import PagedKernel.Proofs.Resolution
import PagedKernel.Proofs.WordStore
import PagedKernel.Proofs.Platform.Effects
import PagedKernel.Proofs.Platform.Ledger
import PagedKernel.Proofs.Platform.Coherence
import PagedKernel.Proofs.Addressing
import PagedKernel.Proofs.Duplication
import PagedKernel.Proofs.Loading.Assembly
import PagedKernel.Proofs.Loading.Landing
import PagedKernel.Proofs.Referencing
import PagedKernel.Proofs.Reservations
import PagedKernel.Proofs.Scheduling.Shifts
import PagedKernel.Proofs.Scheduling.Records
import PagedKernel.Proofs.Scheduling.Rotation
import PagedKernel.Proofs.Launching
import PagedKernel.Proofs.Platform.Readiness
import PagedKernel.Proofs.Diagnosis
import PagedKernel.Proofs.Scheduling.Journal
