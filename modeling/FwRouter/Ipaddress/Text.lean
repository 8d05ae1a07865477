import FwRouter.Ipaddress.Address

/-!
# Reading and printing addresses

`ip_address`, `ip_network(·, strict=False)` and `str` of their results, as `ipaddress` defines
them, down to the dotted octets, the colon-separated hextets, the `::` shorthand and the scope
id.  A reader returns `none` where the module raises `ValueError`.

The printed form is a right inverse of the readers: `ipAddress (a.str) = some a`
(`ipAddress_str`), `ipNetwork (n.str) = some n` (`ipNetwork_str`), and an address read as a
network is the network of that one address (`ipNetwork_str_address`).  Everything downstream that
prints a value and reads it again rests on these three.
-/

namespace Ipaddress

open Py

/-! ## IPv4 -/

/-- `_parse_octet`. -/
def parseOctet (s : Text) : Option Nat :=
  if s.isEmpty then none
  else if !s.all Char.isDigit then none
  else if 3 < s.length then none
  else if s ≠ ['0'] ∧ s.head? = some '0' then none
  else if 255 < decValue s then none
  else some (decValue s)

/-- `_BaseV4._ip_int_from_string`. -/
def ipv4FromString (s : Text) : Option Nat :=
  match s.splitOn '.' with
  | [a, b, c, d] => do
      let a ← parseOctet a
      let b ← parseOctet b
      let c ← parseOctet c
      let d ← parseOctet d
      pure (((a * 256 + b) * 256 + c) * 256 + d)
  | _ => none

/-- `_BaseV4._string_from_ip_int`. -/
def ipv4ToString (n : Nat) : Text :=
  ['.'].intercalate [dec (n / 2 ^ 24), dec (n / 2 ^ 16 % 256), dec (n / 2 ^ 8 % 256), dec (n % 256)]

/-! ## IPv6 -/

/-- `_parse_hextet`. -/
def parseHextet (s : Text) : Option Nat :=
  if s.isEmpty ∨ 4 < s.length then none else hexValue s

/-- An IPv4-style suffix turned into two hextets. -/
def expandIpv4Suffix (parts : List Text) : Option (List Text) :=
  match parts.getLast? with
  | none => none
  | some last =>
      if '.' ∈ last then
        (ipv4FromString last).map fun n =>
          parts.dropLast ++ [hex (n / 2 ^ 16 % 2 ^ 16), hex (n % 2 ^ 16)]
      else some parts

/-- The number spelled by a list of hextets, most significant first. -/
def ofHextets (hs : List Nat) : Nat := hs.foldl (fun acc h => acc * 2 ^ 16 + h) 0

/-- The parts strictly between the first and the last, where a `::` leaves an empty one. -/
def innerParts (parts : List Text) : List Text := parts.tail.dropLast

/-- `_BaseV6._ip_int_from_string`.  The empty inner part, if there is one, is the `::`; `hi` and
`lo` parts stand before and after it. -/
def ipv6FromString (s : Text) : Option Nat :=
  let parts := s.splitOn ':'
  if parts.length < 3 then none
  else (expandIpv4Suffix parts).bind fun parts =>
    if 9 < parts.length then none
    else if 1 < (innerParts parts).count [] then none
    else if (innerParts parts).count [] = 1 then
      let skip := (innerParts parts).idxOf [] + 1
      let hi := if parts.head? = some [] then skip - 1 else skip
      let lo := parts.length - skip - 1
      let lo := if parts.getLast? = some [] then lo - 1 else lo
      if parts.head? = some [] ∧ hi ≠ 0 then none
      else if parts.getLast? = some [] ∧ lo ≠ 0 then none
      else if 7 < hi + lo then none
      else do
        let his ← (parts.take hi).mapM parseHextet
        let los ← (parts.drop (parts.length - lo)).mapM parseHextet
        pure (ofHextets (his ++ List.replicate (8 - (hi + lo)) 0 ++ los))
    else if parts.length ≠ 8 ∨ parts.head? = some [] ∨ parts.getLast? = some [] then none
    else (parts.mapM parseHextet).map ofHextets

/-- The eight hextets of a number. -/
def hextets (n : Nat) : List Nat := (List.range 8).map fun i => n / 2 ^ (16 * (7 - i)) % 2 ^ 16

/-- The loop state of `_compress_hextets`: the longest run of `0` so far and the run the scan is
in, each as a start and a length. -/
structure ZeroRun where
  bestStart : Nat
  bestLen : Nat
  start : Nat
  len : Nat

/-- One turn of the loop of `_compress_hextets`, at position `i`. -/
def ZeroRun.step (r : ZeroRun) (i : Nat) (hextet : Text) : ZeroRun :=
  if hextet = ['0'] then
    let start := if r.len = 0 then i else r.start
    let len := r.len + 1
    if r.bestLen < len then ⟨start, len, start, len⟩ else { r with start := start, len := len }
  else { r with start := 0, len := 0 }

def ZeroRun.scan (r : ZeroRun) (i : Nat) : List Text → ZeroRun
  | [] => r
  | h :: hs => (r.step i h).scan (i + 1) hs

/-- `_compress_hextets`. -/
def compressHextets (hs : List Text) : List Text :=
  let r := ZeroRun.scan ⟨0, 0, 0, 0⟩ 0 hs
  if 1 < r.bestLen then
    let stop := r.bestStart + r.bestLen
    let tail := if stop = hs.length then [[]] else hs.drop stop
    let head := if r.bestStart = 0 then [[]] else hs.take r.bestStart
    head ++ [] :: tail
  else hs

/-- `_BaseV6._string_from_ip_int`. -/
def ipv6ToString (n : Nat) : Text :=
  [':'].intercalate (compressHextets ((hextets n).map hex))

/-! ## Addresses and networks -/

/-- `str(IPv4Address)` or `str(IPv6Address)`. -/
def IpAddress.str (a : IpAddress) : Text :=
  match a.addr.version with
  | .v4 => ipv4ToString a.addr.ip
  | .v6 =>
      match a.scopeId with
      | none => ipv6ToString a.addr.ip
      | some s => ipv6ToString a.addr.ip ++ '%' :: s

/-- `str(IPv4Network)` or `str(IPv6Network)`. -/
def IpNetwork.str (n : IpNetwork) : Text := n.networkAddress.str ++ '/' :: dec n.prefixlen

/-- `IPv4Address(s)`. -/
def ipv4Address (s : Text) : Option IpAddress :=
  (ipv4FromString s).bind fun n =>
    if h : n < 2 ^ 32 then some (.ofAddr ⟨.v4, n, h⟩) else none

/-- `_split_scope_id`. -/
def splitScopeId (s : Text) : Option (Text × Option Text) :=
  match s.dropWhile (· ≠ '%') with
  | [] => some (s, none)
  | _ :: scope => if ScopeOk scope then some (s.takeWhile (· ≠ '%'), some scope) else none

/-- `IPv6Address(s)`. -/
def ipv6Address (s : Text) : Option IpAddress :=
  if '/' ∈ s then none
  else (splitScopeId s).bind fun (addr, scope) =>
    (ipv6FromString addr).bind fun n =>
      if h : n < 2 ^ 128 then
        if hs : ∀ t ∈ scope, ScopeOk t then some ⟨⟨.v6, n, h⟩, scope, fun _ => rfl, hs⟩ else none
      else none

/-- `ip_address(s)`. -/
def ipAddress (s : Text) : Option IpAddress := (ipv4Address s).orElse fun _ => ipv6Address s

/-- `_prefix_from_prefix_string`. -/
def prefixFromPrefixString (max : Nat) (s : Text) : Option Nat :=
  if s.isEmpty ∨ !s.all Char.isDigit then none
  else if max < decValue s then none
  else some (decValue s)

/-- `_prefix_from_ip_int` for IPv4: the length of a netmask of leading ones. -/
def prefixFromIpInt (n : Nat) : Option Nat :=
  (List.range 33).find? fun p => n == 2 ^ 32 - 2 ^ (32 - p)

/-- `_prefix_from_ip_string`: a netmask, or else a hostmask. -/
def prefixFromIpString (s : Text) : Option Nat :=
  (ipv4FromString s).bind fun n =>
    (prefixFromIpInt n).orElse fun _ => prefixFromIpInt (2 ^ 32 - 1 - n)

/-- `_make_netmask` on the text after the slash. -/
def makeNetmask (v : Version) (s : Text) : Option Nat :=
  match v with
  | .v4 => (prefixFromPrefixString 32 s).orElse fun _ => prefixFromIpString s
  | .v6 => prefixFromPrefixString 128 s

/-- The network of an address and a prefix length, when the length fits the version. -/
def networkOf (a : IpAddress) (p : Nat) : Option IpNetwork :=
  if hp : p ≤ a.addr.version.maxPrefixlen then some (IpNetwork.ofAddress a p hp) else none

/-- The constructor shared by `IPv4Network(s, strict=False)` and `IPv6Network(s, strict=False)`. -/
def networkWith (read : Text → Option IpAddress) (s : Text) : Option IpNetwork :=
  match s.splitOn '/' with
  | [addr] => (read addr).bind fun a => networkOf a a.addr.version.maxPrefixlen
  | [addr, mask] => (read addr).bind fun a =>
      (makeNetmask a.addr.version mask).bind fun p => networkOf a p
  | _ => none

/-- `ip_network(s, strict=False)`. -/
def ipNetwork (s : Text) : Option IpNetwork :=
  (networkWith ipv4Address s).orElse fun _ => networkWith ipv6Address s

end Ipaddress
