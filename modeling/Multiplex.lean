import Multiplex.Dialing
import Multiplex.Rehearsal.Report
import Multiplex.Rehearsal.Scripted
import Multiplex.Settings.Load
import Multiplex.Exchange.Desk
import Multiplex.Proofs.Correlation
import Multiplex.Proofs.LoopDeath
import Multiplex.Proofs.Shutdown
import Multiplex.Proofs.Displacement
import Multiplex.Proofs.Playing
import Multiplex.Proofs.Leaving
import Multiplex.Proofs.Handing
import Multiplex.Proofs.Wire
import Multiplex.Proofs.Parsing
import Multiplex.Proofs.Stream
import Multiplex.Proofs.RoundTrip
import Multiplex.Proofs.Canonical
import Multiplex.Proofs.Calm
import Multiplex.Proofs.Drafts
import Multiplex.Proofs.Answering
import Multiplex.Proofs.Echo
import Multiplex.Proofs.Occupancy
import Multiplex.Proofs.Closing
import Multiplex.Proofs.Balance
import Multiplex.Proofs.Verdicts
import Multiplex.Proofs.Reception
import Multiplex.Proofs.Preparation
import Multiplex.Proofs.Strays
import Multiplex.Proofs.Deadlines
import Multiplex.Proofs.WriteFailures
import Multiplex.Proofs.LengthHeaders
import Multiplex.Proofs.PickUps
import Multiplex.Proofs.Components
import Multiplex.Proofs.Layering
import Multiplex.Proofs.Handles
import Multiplex.Proofs.Rest
import Multiplex.Proofs.TraceCycle
import Multiplex.Proofs.TraceNumbers
import Multiplex.Proofs.Abandonment
