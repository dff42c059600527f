import Lcompat.Net.Sgvec
import Lcompat.Usb.Scatter

/-!
# Packets in URBs

A driver hands a packet to a USB device by the scatter list that `skb_to_sgvec` writes, and
`lcompat_usb_prepare_urb_buffer` copies the bytes behind that list into one buffer. What is copied
are the bytes of the packet from the offset on, wherever they lie in the linear part and in the
fragments.
-/

namespace Lcompat.Usb

open Lcompat.Logic Lcompat.Net Lcompat.Net.Paged

section Places

variable {address : Nat → Nat} {memory : Logic.Memory}

end Places

section Preparing

variable {urb : Urb} {state : UrbState} {bytes : List UInt8}

end Preparing

section Ranges

variable {Pool : Type} {s : PagePool.Pages Nat Pool} {holders : PagePool.Holders Nat}
  {skb : Buffer} {page : Nat} {offset len : Int32}

end Ranges

end Lcompat.Usb
