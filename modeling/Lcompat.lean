import Lcompat.Kref
import Lcompat.Xarray.Alloc
import Lcompat.Refcount
import Lcompat.Idr
import Lcompat.Kfifo
import Lcompat.Bitops
import Lcompat.Seqlock
import Lcompat.Net.Queue
import Lcompat.PagePool
import Lcompat.Net.References
import Lcompat.Net.Bounds
import Lcompat.Net.Window
import Lcompat.Net.Logical
import Lcompat.Net.Orders
import Lcompat.Pci.Removal
import Lcompat.Pci.Register
import Lcompat.Pci.Probing
import Lcompat.Pci.Classes
import Lcompat.Pci.Resources
import Lcompat.Dma.Resv
import Lcompat.Workqueue.Conservation
import Lcompat.Workqueue.Flush
import Lcompat.Workqueue.Wake
import Lcompat.Workqueue.Delayed
import Lcompat.Workqueue.Modify
import Lcompat.Workqueue.Refuse
import Lcompat.Workqueue.Touch
import Lcompat.Workqueue.Race
import Lcompat.Timer.Rearm
import Lcompat.Timer.Delete
import Lcompat.Tasklet.Schedule
import Lcompat.Tasklet.Disable
import Lcompat.Tasklet.Kill
import Lcompat.Usb.Kill
import Lcompat.Usb.Pending
import Lcompat.Usb.Refs
import Lcompat.Usb.Disconnect
import Lcompat.Usb.Reports
import Lcompat.Usb.Refill
import Lcompat.Usb.Endpoints
import Lcompat.Usb.Packet
import Lcompat.Usb.Pipes
import Lcompat.Kthread.Park
import Lcompat.ListHeap
import Lcompat.Kthread.Stop
import Lcompat.Completion.Sticky
import Lcompat.Completion.Timeout
import Lcompat.Firmware
import Lcompat.Mac80211.Overlap
import Lcompat.Mac80211.Receive
import Lcompat.Mac80211.Delivery
import Lcompat.Mac80211.Helpers
import Lcompat.Mac80211.Handshake
import Lcompat.Mac80211.Requests
import Lcompat.Mac80211.Results
import Lcompat.Mac80211.Scan
import Lcompat.Mac80211.Unregister
import Lcompat.Mac80211.Rates
import Lcompat.Mac80211.Qos
import Lcompat.Mac80211.Selection
import Lcompat.Mac80211.Ownership
import Lcompat.Mac80211.Tuning
import Lcompat.Mac80211.Sweep
import Lcompat.Mac80211.Assembly
import Lcompat.Mac80211.Traffic
import Lcompat.Mac80211.Ledger
import Lcompat.Mac80211.Lookups
