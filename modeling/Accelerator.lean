import Accelerator.Proofs.Buffer.Capacity
import Accelerator.Proofs.Buffer.Mapping
import Accelerator.Proofs.Device.Course
import Accelerator.Proofs.Dispatch.Choice
import Accelerator.Proofs.Dispatch.Freshness
import Accelerator.Proofs.Latency
import Accelerator.Proofs.Lifetime
import Accelerator.Proofs.Packet.Dump
import Accelerator.Proofs.Settings.Entries
import Accelerator.Proofs.Settings.Variables
import Accelerator.Proofs.World.Agreement
import Accelerator.Proofs.World.Calls
import Accelerator.Proofs.World.Ranges
import Accelerator.Proofs.World.Requests
import Accelerator.Proofs.World.Slots
import Accelerator.Proofs.World.Success
import Accelerator.Proofs.World.UsedBank
import Accelerator.Proofs.World.Waiting
import Accelerator.Site.Run
