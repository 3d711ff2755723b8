import LinkProbe.Address.Shorthand
import LinkProbe.Address.Endpoint
import LinkProbe.IoFailure
import LinkProbe.Wire

/-!
# The network around the probe

What the probe can find out by asking: which addresses a name has, and what comes of an attempt to
connect to one.

* `Network.resolve`: the addresses of a host, which may be written as a number.
* `Network.unrouted`: the network of a machine that no way leads out of.
-/

namespace LinkProbe

/-- What comes of an attempt to connect to an address. -/
inductive Reach where
  /-- The peer takes the connection. -/
  | accepts (peer localEnd : Endpoint) (wire : Wire)
  /-- The peer takes the connection, but one of its two ends cannot be told. -/
  | untold (failure : IoFailure)
  | fails (failure : IoFailure)
  /-- No answer ever comes. -/
  | silent
deriving DecidableEq, Repr

/-- What the probe can find out by asking. -/
structure Network where
  /-- The addresses of a host. -/
  resolve : String → Except IoFailure (List IpAddress)
  /-- What comes of an attempt to connect. -/
  reach : Endpoint → Reach

namespace Network

/-- A host that holds a NUL can be no name. -/
def nulInName : IoFailure := .stated .invalidInput "file name contained an unexpected NUL byte"

/-- A name that nobody knows. -/
def unknownName : IoFailure :=
  .stated .other "failed to lookup address information: Name or service not known"

/-- The addresses of a host where the names in `names` are known: an address is its own only
address, in its full form or, for one of four bytes, in a short one. -/
def lookUp (names : List (String × List IpAddress)) (host : String) :
    Except IoFailure (List IpAddress) :=
  match IpAddress.parse? host with
  | some address => .ok [address]
  | none =>
    if host.toList.contains '\x00' then .error nulInName
    else match Shorthand.parse? host.toList with
      | some address => .ok [.v4 address]
      | none =>
        match names.lookup host with
        | some addresses => .ok addresses
        | none => .error unknownName

/-- The one name that every machine knows. -/
def localNames : List (String × List IpAddress) := [("localhost", [.v4 .loopback])]

/-- The network of a machine that no way leads out of. -/
def unrouted : Network where
  resolve := lookUp localNames
  reach _ := .fails .unreachableNetwork

/-- The network of a machine on which all attempts lead to the same end. -/
def leadingTo (reach : Reach) : Network where
  resolve := lookUp localNames
  reach _ := reach

end Network

end LinkProbe
