import VirtualUSB.Base.LabelledSystem
import VirtualUSB.Base.GreedyMatch
import VirtualUSB.Base.Framing
import VirtualUSB.Device.Equiv.ExactlyOnce
import VirtualUSB.Device.Equiv.Matching
import VirtualUSB.Device.Equiv.ReplyLength
import VirtualUSB.Device.Equiv.Queues
import VirtualUSB.Device.Equiv.Addressing
import VirtualUSB.Device.Equiv.Status
import VirtualUSB.Device.Equiv.Rejection
import VirtualUSB.Device.Equiv.Configuration
import VirtualUSB.Threads.Equiv.Sockets
import VirtualUSB.Threads.Equiv.Failure
import VirtualUSB.Threads.Equiv.Instances
import VirtualUSB.Threads.Equiv.Shutdown
import VirtualUSB.Host.Equiv.Delivery
import VirtualUSB.Host.Equiv.Replies
import VirtualUSB.App.Equiv.LineCoding
import VirtualUSB.App.Equiv.Terminal
import VirtualUSB.Vhci.Equiv.Attach
import VirtualUSB.Vhci.Equiv.Ports
import VirtualUSB.Vhci.Equiv.Speed
import VirtualUSB.Vhci.Equiv.Release
import VirtualUSB.Toastbox.Equiv.RingBuffer
import VirtualUSB.Toastbox.Equiv.Strings
import VirtualUSB.Toastbox.Equiv.RefCounted
import VirtualUSB.Toastbox.Equiv.USBProgram
import VirtualUSB.Toastbox.Equiv.HashInts
import VirtualUSB.Toastbox.Equiv.Coroutines
import VirtualUSB.Base.Ranking
import VirtualUSB.Threads.Equiv.Progress
import VirtualUSB.Threads.Equiv.Stopping
import VirtualUSB.Host.Equiv.Service
