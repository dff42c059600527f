import Mathlib

/-!
# Error numbers

The error numbers the modelled functions return, negated as the callers see them.
-/

namespace Lcompat

/-- `ENOENT`. -/
def ENOENT : Int := 2

/-- `EIO`. -/
def EIO : Int := 5

/-- `EAGAIN`. -/
def EAGAIN : Int := 11

/-- `ENOMEM`. -/
def ENOMEM : Int := 12

/-- `EBUSY`. -/
def EBUSY : Int := 16

/-- `ENODEV`. -/
def ENODEV : Int := 19

/-- `EINVAL`. -/
def EINVAL : Int := 22

/-- `ENOSPC`. -/
def ENOSPC : Int := 28

/-- `EPIPE`. -/
def EPIPE : Int := 32

/-- `ENAMETOOLONG`. -/
def ENAMETOOLONG : Int := 36

/-- `EPROTO`. -/
def EPROTO : Int := 71

/-- `EOVERFLOW`. -/
def EOVERFLOW : Int := 75

/-- `EMSGSIZE`. -/
def EMSGSIZE : Int := 90

/-- `EOPNOTSUPP`. -/
def EOPNOTSUPP : Int := 95

/-- `ENOTCONN`. -/
def ENOTCONN : Int := 107

/-- `ETIMEDOUT`. -/
def ETIMEDOUT : Int := 110

/-- `EINPROGRESS`. -/
def EINPROGRESS : Int := 115

end Lcompat
