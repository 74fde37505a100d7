import RedDock.Blocks
import RedDock.Text

/-!
# Addresses and networks

The parts of Python's `ipaddress` module (3.13) the code uses: how an address or
a network is read from text, how it is printed, and the comparisons of networks.
A reading that raises `ValueError` is absent here.
-/
namespace RedDock
open Text

/-- The two address families. -/
inductive Version
  | v4
  | v6
  deriving DecidableEq, Repr

/-- `max_prefixlen`. -/
def Version.bits : Version → Nat
  | .v4 => 32
  | .v6 => 128

/-- One point of the address space of a family. -/
abbrev Host := Version × Nat

/-- A set of numbers as points of one family. -/
def hosts (v : Version) (s : Set Nat) : Set Host := {h | h.1 = v ∧ h.2 ∈ s}

/-- `IPv4Address` and `IPv6Address`, the second with its zone. -/
inductive IPAddress
  | v4 (ip : Fin (2 ^ 32))
  | v6 (ip : Fin (2 ^ 128)) (scope_id : Option Text)
  deriving DecidableEq

/-- `IPv4Network` and `IPv6Network`. -/
inductive IPNetwork
  | v4 (block : Block 32)
  | v6 (block : Block 128)
  deriving DecidableEq

namespace IPAddress

def version : IPAddress → Version
  | .v4 _ => .v4
  | .v6 _ _ => .v6
def ip : IPAddress → Nat
  | .v4 n => n.val
  | .v6 n _ => n.val
/-- The point of address space, without the zone. -/
def host (a : IPAddress) : Host := (a.version, a.ip)

/-! ### Reading -/

/-- `_BaseV4._parse_octet`. -/
def parse_octet (octet_str : Text) : Option Nat :=
  if !isDigits octet_str then none
  else if 3 < octet_str.length then none
  else if octet_str ≠ ['0'] ∧ octet_str.head? = some '0' then none
  else if 255 < ofDec octet_str then none
  else some (ofDec octet_str)

/-- `_BaseV4._ip_int_from_string`. -/
def v4_int_from_string (ip_str : Text) : Option (Fin (2 ^ 32)) := do
  let octets := ip_str.splitOn '.'
  if octets.length ≠ 4 then none
  else
    let bytes ← octets.mapM parse_octet
    return Fin.ofNat (2 ^ 32) (ofDigits 256 bytes)

/-- `_BaseV6._parse_hextet`. -/
def parse_hextet (hextet_str : Text) : Option Nat :=
  if 4 < hextet_str.length then none else ofHex hextet_str

/-- An IPv4-style last part, converted to two hextets. -/
def expandDotted (parts : List Text) : Option (List Text) :=
  if '.' ∈ parts.getLastD [] then do
    let ipv4_int ← v4_int_from_string (parts.getLastD [])
    return parts.dropLast ++ [hex (ipv4_int.val / 65536), hex (ipv4_int.val % 65536)]
  else some parts

/-- The positions strictly inside `parts` that hold an empty part. -/
def skipIndices (parts : List Text) : List Nat :=
  (List.range (parts.length - 1)).filter fun i => 1 ≤ i ∧ parts[i]? = some []

/-- The parts before and after the run of zeroes `::` stands for, at `skip`. -/
def sidesOf (parts : List Text) (skip : Nat) : Option (Nat × Nat) :=
  let hi := if parts.head? = some [] then skip - 1 else skip
  let lo := if parts.getLast? = some [] then parts.length - skip - 2 else parts.length - skip - 1
  if parts.head? = some [] ∧ hi ≠ 0 then none
  else if parts.getLast? = some [] ∧ lo ≠ 0 then none
  else if 8 < hi + lo + 1 then none
  else some (hi, lo)

/-- The eight hextets a split text stands for. -/
def hextetsOf (parts : List Text) : Option (List Nat) :=
  match skipIndices parts with
  | [] =>
    if parts.length ≠ 8 then none
    else if parts.head? = some [] then none
    else if parts.getLast? = some [] then none
    else parts.mapM parse_hextet
  | [skip] => do
    let (hi, lo) ← sidesOf parts skip
    let high ← (parts.take hi).mapM parse_hextet
    let low ← (parts.drop (parts.length - lo)).mapM parse_hextet
    return high ++ List.replicate (8 - (hi + lo)) 0 ++ low
  | _ :: _ :: _ => none

/-- `_BaseV6._ip_int_from_string`. -/
def v6_int_from_string (ip_str : Text) : Option (Fin (2 ^ 128)) := do
  let split := ip_str.splitOn ':'
  if split.length < 3 then none
  else
    let parts ← expandDotted split
    if 9 < parts.length then none
    else
      let hextets ← hextetsOf parts
      return Fin.ofNat (2 ^ 128) (ofDigits 65536 hextets)

/-- `_BaseV6._split_scope_id`. -/
def split_scope_id (ip_str : Text) : Option (Text × Option Text) :=
  match partition '%' ip_str with
  | (addr, false, _) => some (addr, none)
  | (addr, true, scope_id) => if scope_id = [] ∨ '%' ∈ scope_id then none else some (addr, some scope_id)

/-- `IPv4Address(text)`. -/
def ofTextV4 (address : Text) : Option IPAddress :=
  if '/' ∈ address then none else (v4_int_from_string address).map .v4

/-- `IPv6Address(text)`. -/
def ofTextV6 (address : Text) : Option IPAddress :=
  if '/' ∈ address then none
  else do
    let (addr, scope_id) ← split_scope_id address
    let ip ← v6_int_from_string addr
    return .v6 ip scope_id

/-- `ipaddress.ip_address(text)`. -/
def ip_address (address : Text) : Option IPAddress := ofTextV4 address <|> ofTextV6 address

/-! ### Printing -/

/-- What `_compress_hextets` keeps while it looks for the longest run of zeros. -/
structure Runs where
  best_start : Nat := 0
  best_len : Nat := 0
  start : Option Nat := none
  len : Nat := 0

/-- One round of the loop of `_compress_hextets`. -/
def Runs.next (s : Runs) (index : Nat) (hextet : Text) : Runs :=
  if hextet = ['0'] then
    let len := s.len + 1
    let start := s.start.getD index
    if s.best_len < len then { best_start := start, best_len := len, start := some start, len := len }
    else { s with start := some start, len := len }
  else { s with start := none, len := 0 }

/-- The loop of `_compress_hextets`. -/
def zeroRuns (hextets : List Text) : Runs :=
  hextets.zipIdx.foldl (fun s entry => s.next entry.2 entry.1) {}

/-- The run `[start, stop)` of hextets replaced by an empty part, with one more
    empty part at an end of the address it reaches. -/
def cutRun (hextets : List Text) (start stop : Nat) : List Text :=
  (if start = 0 then [[]] else []) ++ hextets.take start ++ [[]] ++ hextets.drop stop ++
    (if stop = hextets.length then [[]] else [])

/-- `_BaseV6._compress_hextets`. -/
def compress_hextets (hextets : List Text) : List Text :=
  let runs := zeroRuns hextets
  if 1 < runs.best_len then cutRun hextets runs.best_start (runs.best_start + runs.best_len) else hextets

/-- `_BaseV6._string_from_ip_int`. -/
def v6_string (ip : Nat) : Text := join [':'] (compress_hextets ((digitsOf 65536 8 ip).map hex))

/-- `_BaseV4._string_from_ip_int`. -/
def v4_string (ip : Nat) : Text := join ['.'] ((digitsOf 256 4 ip).map dec)

/-- `IPv6Address.ipv4_mapped`; an IPv4 address has none. -/
def ipv4_mapped : IPAddress → Option (Fin (2 ^ 32))
  | .v4 _ => none
  | .v6 ip _ => if ip.val / 2 ^ 32 = 0xFFFF then some (Fin.ofNat (2 ^ 32) ip.val) else none

/-- `str(address)`. -/
def str : IPAddress → Text
  | .v4 ip => v4_string ip.val
  | .v6 ip scope_id =>
    let ip_str := match ipv4_mapped (.v6 ip scope_id) with
      | none => v6_string ip.val
      | some mapped => v6_string (ip.val / 2 ^ 32) ++ [':'] ++ v4_string mapped.val
    match scope_id with
    | none => ip_str
    | some scope_id => ip_str ++ ['%'] ++ scope_id

/-- `is_unspecified`. -/
def is_unspecified (a : IPAddress) : Bool :=
  match a.ipv4_mapped with
  | some mapped => mapped.val == 0
  | none => a.ip == 0

/-- `is_multicast`: 224.0.0.0/4 and ff00::/8. -/
def is_multicast : IPAddress → Bool
  | .v4 ip => ip.val / 2 ^ 28 == 0xE
  | .v6 ip scope_id =>
    match ipv4_mapped (.v6 ip scope_id) with
    | some mapped => mapped.val / 2 ^ 28 == 0xE
    | none => ip.val / 2 ^ 120 == 0xFF

end IPAddress

namespace IPNetwork
open IPAddress

def version : IPNetwork → Version
  | .v4 _ => .v4
  | .v6 _ => .v6
def prefixlen : IPNetwork → Nat
  | .v4 b => b.len
  | .v6 b => b.len
def network_address : IPNetwork → IPAddress
  | .v4 b => .v4 ⟨b.base, b.base_lt⟩
  | .v6 b => .v6 ⟨b.base, b.base_lt⟩ none
def broadcast_address : IPNetwork → IPAddress
  | .v4 b => .v4 ⟨b.last, b.last_lt⟩
  | .v6 b => .v6 ⟨b.last, b.last_lt⟩ none
def num_addresses : IPNetwork → Nat
  | .v4 b => b.size
  | .v6 b => b.size
/-- `network.is_multicast`. -/
def is_multicast (n : IPNetwork) : Bool := n.network_address.is_multicast && n.broadcast_address.is_multicast

/-- The points of address space a network denotes. -/
def space : IPNetwork → Set Host
  | .v4 b => hosts .v4 b.space
  | .v6 b => hosts .v6 b.space

/-- `address in network`. -/
def contains : IPNetwork → IPAddress → Bool
  | .v4 b, .v4 ip => b.contains ip.val
  | .v6 b, .v6 ip _ => b.contains ip.val
  | _, _ => false
/-- `network.overlaps(other)`. -/
def overlaps : IPNetwork → IPNetwork → Bool
  | .v4 b, .v4 c => b.overlaps c
  | .v6 b, .v6 c => b.overlaps c
  | _, _ => false
/-- `network.subnet_of(other)` for networks of one family. -/
def subnet_of : IPNetwork → IPNetwork → Bool
  | .v4 b, .v4 c => b.subnetOf c
  | .v6 b, .v6 c => b.subnetOf c
  | _, _ => false
/-- `network.supernet_of(other)`. -/
def supernet_of (n m : IPNetwork) : Bool := m.subnet_of n
/-- `list(network.address_exclude(other))`; absent when it raises. -/
def address_exclude : IPNetwork → IPNetwork → Option (List IPNetwork)
  | .v4 b, .v4 c => (b.exclude c).map (List.map .v4)
  | .v6 b, .v6 c => (b.exclude c).map (List.map .v6)
  | _, _ => none

/-- The network that holds one address. -/
def single : IPAddress → IPNetwork
  | .v4 ip => .v4 (Block.single ip.val ip.isLt)
  | .v6 ip _ => .v6 (Block.single ip.val ip.isLt)
/-- The network of a prefix length around an address, its host bits cleared. -/
def around : IPAddress → Nat → Option IPNetwork
  | .v4 ip, len => if le : len ≤ 32 then some (.v4 (Block.around ip.val len le ip.isLt)) else none
  | .v6 ip _, len => if le : len ≤ 128 then some (.v6 (Block.around ip.val len le ip.isLt)) else none

/-! ### Reading and printing -/

/-- `_prefix_from_prefix_string`. -/
def prefix_from_prefix_string (max_prefixlen : Nat) (prefixlen_str : Text) : Option Nat :=
  if !isDigits prefixlen_str then none
  else if max_prefixlen < ofDec prefixlen_str then none
  else some (ofDec prefixlen_str)
/-- `_prefix_from_ip_int`: ones followed by zeroes. -/
def prefix_from_ip_int (ip_int : Nat) : Option Nat :=
  (List.range 33).find? fun prefixlen => ip_int == 2 ^ 32 - 2 ^ (32 - prefixlen)
/-- `_prefix_from_ip_string`: a netmask, or a hostmask. -/
def prefix_from_ip_string (ip_str : Text) : Option Nat := do
  let ip_int ← v4_int_from_string ip_str
  prefix_from_ip_int ip_int.val <|> prefix_from_ip_int (2 ^ 32 - 1 - ip_int.val)
/-- `_make_netmask`, for the prefix length alone. -/
def make_netmask (version : Version) (arg : Text) : Option Nat :=
  match version with
  | .v4 => prefix_from_prefix_string 32 arg <|> prefix_from_ip_string arg
  | .v6 => prefix_from_prefix_string 128 arg

/-- `IPv4Network(address, strict)` or `IPv6Network(address, strict)`, by the
    reader of their address. With `strict` a network with host bits set is refused. -/
def ofText (read : Text → Option IPAddress) (address : Text) (strict : Bool) : Option IPNetwork := do
  let (addr, mask) ← match address.splitOn '/' with
    | [addr] => some (addr, none)
    | [addr, mask] => some (addr, some mask)
    | _ => none
  let start ← read addr
  let prefixlen ← match mask with
    | none => some start.version.bits
    | some mask => make_netmask start.version mask
  let network ← around start prefixlen
  if strict ∧ network.network_address.ip ≠ start.ip then none else some network

/-- `ipaddress.ip_network(text, strict)`. -/
def ip_network (address : Text) (strict : Bool) : Option IPNetwork :=
  ofText ofTextV4 address strict <|> ofText ofTextV6 address strict

/-- `str(network)`. -/
def str (n : IPNetwork) : Text := n.network_address.str ++ ['/'] ++ dec n.prefixlen

end IPNetwork
end RedDock
