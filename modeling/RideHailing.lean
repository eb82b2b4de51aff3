import RideHailing.Transition.Labelled
import RideHailing.Transition.Interleaving
import RideHailing.Bytes.LittleEndian
import RideHailing.Bytes.Region
import RideHailing.Cipher.Keystream
import RideHailing.Arithmetic.SquareMultiply
import RideHailing.Arithmetic.Machine
import RideHailing.Common.SharedData
import RideHailing.Common.Protocol
import RideHailing.Common.Crypto
import RideHailing.Common.Rc4
import RideHailing.Common.Net
import RideHailing.Server.MapMonitor
import RideHailing.Server.ResourceService
import RideHailing.Server.Coordinator
import RideHailing.Fleet.System
import RideHailing.Fleet.Lifecycle
import RideHailing.Fleet.Ledger
import RideHailing.Fleet.RateLimit
import RideHailing.Server.Dispatcher
import RideHailing.Session.Packets
import RideHailing.Session.Effect
import RideHailing.Session.Gate
import RideHailing.Session.Binding
import RideHailing.Client.Core
import RideHailing.Session.Residue
import RideHailing.Session.Stream
import RideHailing.Session.Reply
import RideHailing.Session.Exchange
import RideHailing.Session.Honest
import RideHailing.Session.Reuse
import RideHailing.Session.Blocked
import RideHailing.Session.Truncation
import RideHailing.Loop.FirstLeast
import RideHailing.Server.Selection
import RideHailing.Fleet.Table
import RideHailing.Session.Identity
import RideHailing.Session.Contribution
import RideHailing.Session.Framing
import RideHailing.Server.NextStep
import RideHailing.Fleet.Journey
import RideHailing.Fleet.Restart
import RideHailing.Fleet.Shutdown
import RideHailing.Session.Replay
import RideHailing.Fleet.LimiterHistory
import RideHailing.Fleet.Registration
import RideHailing.Fleet.Sole
import RideHailing.Fleet.Cells
import RideHailing.Fleet.Refueling
import RideHailing.Fleet.Reporting
import RideHailing.Fleet.Requests
import RideHailing.Arithmetic.EndAround
import RideHailing.Cipher.Change
import RideHailing.Common.Checksum
import RideHailing.Session.Corruption
import RideHailing.Session.Keys
import RideHailing.Common.PowerMod
import RideHailing.Cipher.Permutation
import RideHailing.Common.Rc4Loops
import RideHailing.Server.PathSafety
import RideHailing.Session.Alone
import RideHailing.Session.Interleaving
import RideHailing.Session.Provenance
import RideHailing.Session.Attribution
import RideHailing.Transition.Durable
import RideHailing.Session.Exhaustion
import RideHailing.Session.Answers
import RideHailing.Fleet.Lifetimes
import RideHailing.Fleet.Unlimited
import RideHailing.Server.InsecureDispatcher
import RideHailing.Session.Insecure
import RideHailing.Session.Transparency
import RideHailing.Client.Malicious
import RideHailing.Session.Forgery
import RideHailing.Client.StressRuns
import RideHailing.Fleet.Views
import RideHailing.Fleet.Arrivals
