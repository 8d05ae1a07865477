import FwRouter.Ipaddress.RoundTrip

/-!
# Unions of networks

`Covers ns a` says that the address `a` lies in one of the networks `ns`; it is all a packet
filter sees of a list of networks.  `CollapseAddresses` is `ipaddress.collapse_addresses`: any
function that may rewrite a list of networks but keeps what the list covers.
-/

namespace Ipaddress

open Py

/-- The address lies in one of the networks. -/
def Covers (ns : List IpNetwork) (a : Addr) : Prop := ∃ n ∈ ns, a ∈ n

instance (ns : List IpNetwork) (a : Addr) : Decidable (Covers ns a) :=
  inferInstanceAs (Decidable (∃ n ∈ ns, a ∈ n))

/-- `ipaddress.collapse_addresses`, by the property its callers rely on. -/
structure CollapseAddresses where
  collapse : List IpNetwork → List IpNetwork
  covers_collapse : ∀ ns a, Covers (collapse ns) a ↔ Covers ns a

/-- The order in which `collapse_addresses` yields networks of one version. -/
def networkKey (n : IpNetwork) : Nat ×ₗ Nat := toLex (n.networkAddress.addr.ip, n.prefixlen)

/-- The collapse that only sorts and drops repetitions.  It agrees with `collapse_addresses` on
lists of one version in which no network lies in another one or has its sibling beside it. -/
def CollapseAddresses.sorted : CollapseAddresses where
  collapse ns := ns.dedup.insertionSort fun n m => networkKey n ≤ networkKey m
  covers_collapse ns a := by simp [Covers]

/-- Printing a list of networks and reading it again covers the same addresses. -/
lemma covers_filterMap_str (ns : List IpNetwork) (a : Addr) :
    Covers ((ns.map IpNetwork.str).filterMap ipNetwork) a ↔ Covers ns a := by
  simp [List.filterMap_map, ipNetwork_str]

end Ipaddress
