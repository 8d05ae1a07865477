import FwRouter.Python.Text

/-!
# Addresses and networks

The values of Python's `ipaddress` module.  `Addr` is a bare address, a version and a number
below `2 ^ 32` or `2 ^ 128`; it is what a packet carries.  `IpAddress` is the object
`ip_address` returns, which for version 6 may also carry a scope id.  `IpNetwork` is the object
`ip_network` returns: a network address whose host bits are zero, and a prefix length.

Both objects hold their well-formedness as fields, so a network with stray host bits or a scope
id with a slash in it cannot be built.  Membership of an address in a network never looks at
scope ids, as `_BaseNetwork.__contains__` does not.
-/

namespace Ipaddress

open Py

inductive Version where
  | v4
  | v6
deriving DecidableEq, Repr

def Version.maxPrefixlen : Version → Nat
  | .v4 => 32
  | .v6 => 128

/-- A bare address: what the destination field of a packet holds. -/
structure Addr where
  version : Version
  ip : Nat
  lt : ip < 2 ^ version.maxPrefixlen
deriving DecidableEq

lemma resolver_lt : 134744072 < 2 ^ Version.v4.maxPrefixlen := by decide

/-- The text after `%` in an IPv6 address, as `_split_scope_id` admits it. -/
def ScopeOk (s : Text) : Prop := s ≠ [] ∧ '%' ∉ s ∧ '/' ∉ s

instance (s : Text) : Decidable (ScopeOk s) := inferInstanceAs (Decidable (_ ∧ _ ∧ _))

/-- `IPv4Address` or `IPv6Address`. -/
structure IpAddress where
  addr : Addr
  scopeId : Option Text
  scope_v6 : scopeId ≠ none → addr.version = .v6
  scope_ok : ∀ s ∈ scopeId, ScopeOk s
deriving DecidableEq

/-- The low `h` bits of `ip` cleared. -/
def clearHost (h ip : Nat) : Nat := ip / 2 ^ h * 2 ^ h

/-- `IPv4Network` or `IPv6Network`. -/
structure IpNetwork where
  networkAddress : IpAddress
  prefixlen : Nat
  prefixlen_le : prefixlen ≤ networkAddress.addr.version.maxPrefixlen
  aligned : clearHost (networkAddress.addr.version.maxPrefixlen - prefixlen)
    networkAddress.addr.ip = networkAddress.addr.ip
deriving DecidableEq

namespace IpNetwork

def version (n : IpNetwork) : Version := n.networkAddress.addr.version

def hostBits (n : IpNetwork) : Nat := n.version.maxPrefixlen - n.prefixlen

/-- `_BaseNetwork.__contains__` on an address. -/
def contains (n : IpNetwork) (a : Addr) : Bool :=
  a.version == n.version && clearHost n.hostBits a.ip == n.networkAddress.addr.ip

instance : Membership Addr IpNetwork := ⟨fun n a => n.contains a = true⟩

instance (a : Addr) (n : IpNetwork) : Decidable (a ∈ n) :=
  inferInstanceAs (Decidable (n.contains a = true))

lemma mem_def {a : Addr} {n : IpNetwork} :
    a ∈ n ↔ a.version = n.version ∧ clearHost n.hostBits a.ip = n.networkAddress.addr.ip := by
  show n.contains a = true ↔ _
  simp [contains]

end IpNetwork

lemma clearHost_le (h ip : Nat) : clearHost h ip ≤ ip := Nat.div_mul_le_self ip (2 ^ h)

lemma clearHost_idem (h ip : Nat) : clearHost h (clearHost h ip) = clearHost h ip := by
  simp [clearHost, Nat.mul_div_cancel _ (Nat.two_pow_pos h)]

@[simp] lemma clearHost_zero (ip : Nat) : clearHost 0 ip = ip := by simp [clearHost]

/-- The bare address with its host bits cleared. -/
def Addr.clearHost (a : Addr) (h : Nat) : Addr where
  version := a.version
  ip := Ipaddress.clearHost h a.ip
  lt := lt_of_le_of_lt (clearHost_le h a.ip) a.lt

/-- An address without a scope id. -/
def IpAddress.ofAddr (a : Addr) : IpAddress where
  addr := a
  scopeId := none
  scope_v6 h := absurd rfl h
  scope_ok s hs := by simp at hs

/-- `ip_network((address, prefixlen), strict=False)`.  A network address that already has its
host bits clear is kept, scope id included; otherwise it is rebuilt from the masked number, and
the scope id is gone. -/
def IpNetwork.ofAddress (a : IpAddress) (p : Nat) (hp : p ≤ a.addr.version.maxPrefixlen) :
    IpNetwork :=
  if h : clearHost (a.addr.version.maxPrefixlen - p) a.addr.ip = a.addr.ip then
    { networkAddress := a, prefixlen := p, prefixlen_le := hp, aligned := h }
  else
    { networkAddress := .ofAddr (a.addr.clearHost (a.addr.version.maxPrefixlen - p))
      prefixlen := p
      prefixlen_le := hp
      aligned := clearHost_idem _ _ }

/-- The network of one address, `address/32` or `address/128`. -/
def IpAddress.host (a : IpAddress) : IpNetwork :=
  IpNetwork.ofAddress a a.addr.version.maxPrefixlen le_rfl

lemma IpAddress.host_eq (a : IpAddress) :
    a.host = { networkAddress := a, prefixlen := a.addr.version.maxPrefixlen,
               prefixlen_le := le_rfl, aligned := by simp } := by
  simp [host, IpNetwork.ofAddress]

/-- The network of an address contains that address and no other. -/
lemma IpAddress.mem_host {a : IpAddress} {d : Addr} : d ∈ a.host ↔ d = a.addr := by
  rw [host_eq, IpNetwork.mem_def]
  simp only [IpNetwork.version, IpNetwork.hostBits, Nat.sub_self, clearHost_zero]
  constructor
  · rintro ⟨hv, hip⟩
    obtain ⟨v, ip, hlt⟩ := d
    obtain ⟨⟨v', ip', hlt'⟩, _, _, _⟩ := a
    simp only at hv hip
    subst hv hip
    rfl
  · rintro rfl
    exact ⟨rfl, rfl⟩

lemma IpNetwork.version_ofAddress (a : IpAddress) (p : Nat) (hp) :
    (IpNetwork.ofAddress a p hp).version = a.addr.version := by
  unfold IpNetwork.ofAddress IpNetwork.version
  split <;> rfl

namespace IpNetwork

/-- `broadcast_address`: the last address of the network. -/
def broadcastIp (n : IpNetwork) : Nat := n.networkAddress.addr.ip + (2 ^ n.hostBits - 1)

/-- The broadcast address stays below the address space's end. -/
lemma broadcastIp_lt (n : IpNetwork) : n.broadcastIp < 2 ^ n.version.maxPrefixlen := by
  obtain ⟨⟨⟨v, ip, hlt⟩, _, _, _⟩, p, hp, hal⟩ := n
  simp only [broadcastIp, hostBits, version] at hlt hp hal ⊢
  set h := v.maxPrefixlen - p with hh
  -- `ip` is a multiple of the block size and below a multiple of it, so the block fits.
  have hsplit : 2 ^ v.maxPrefixlen = 2 ^ p * 2 ^ h := by
    rw [← pow_add]; congr 1; omega
  have hdiv : ip / 2 ^ h < 2 ^ p := by
    rw [Nat.div_lt_iff_lt_mul (Nat.two_pow_pos h), ← hsplit]; exact hlt
  have hblock : (ip / 2 ^ h + 1) * 2 ^ h ≤ 2 ^ p * 2 ^ h := Nat.mul_le_mul_right _ hdiv
  have hip : ip / 2 ^ h * 2 ^ h = ip := hal
  have hpos : 0 < 2 ^ h := Nat.two_pow_pos h
  rw [hsplit]
  rw [Nat.add_mul, Nat.one_mul, hip] at hblock
  omega

def firstAddr (n : IpNetwork) : Addr := n.networkAddress.addr

def lastAddr (n : IpNetwork) : Addr := ⟨n.version, n.broadcastIp, n.broadcastIp_lt⟩

/-- `_BaseNetwork.overlaps`. -/
def overlaps (n m : IpNetwork) : Bool :=
  m.contains n.firstAddr || (m.contains n.lastAddr || (n.contains m.firstAddr ||
    n.contains m.lastAddr))

end IpNetwork

end Ipaddress
