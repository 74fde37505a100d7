import RedDock.MappedAddresses
import RedDock.RateLimitBound
import RedDock.Urls

/-!
# Client buckets

The address the trusted ingress verifies, the rate-limit subject it becomes, and
the text that is digested for a bucket. An IPv6 client is counted with its /64.
-/
set_option autoImplicit false
namespace RedDock.ClientBuckets
open Text IPAddress IpText RateLimits Fallible

/-! ### The ingress -/

/-- `TrustedIngressMiddleware`. -/
structure TrustedIngress where
  authority : Bytes
  trusted_proxies : List IPNetwork

/-- An ASGI scope: the host of its peer, and its headers. -/
structure Scope where
  client : Option Text
  headers : List (Bytes × Bytes)

def REQUIRED_HEADERS : List Bytes :=
  [encode_ascii "host".toList, encode_ascii "x-forwarded-for".toList, encode_ascii "x-forwarded-host".toList,
    encode_ascii "x-forwarded-proto".toList]
def REJECTED_HEADERS : List Bytes :=
  [encode_ascii "forwarded".toList, encode_ascii "x-forwarded-port".toList, encode_ascii "x-forwarded-prefix".toList]

/-- `TrustedIngressMiddleware.__init__`; what it raises is a `ValueError`. -/
def TrustedIngress.create (u : Unicode) (public_origin : Text) (trusted_proxy_cidrs : List Text) : Option TrustedIngress := do
  let parts ← Urls.urlsplit u public_origin
  if parts.netloc = [] ∨ isAscii parts.netloc = false then none
  else
    let trusted_proxies ← trusted_proxy_cidrs.mapM fun value => IPNetwork.ip_network value true
    if trusted_proxies = [] then none else some ⟨encode_ascii parts.netloc, trusted_proxies⟩

/-- `bytes.lower` -/
def lower (b : Bytes) : Bytes := b.map fun x => if 65 ≤ x ∧ x ≤ 90 then x + 32 else x

/-- `bytes.decode("ascii")` -/
def decode_ascii (b : Bytes) : Option Text :=
  if b.all (· < 128) then some (b.map fun x => Char.ofNat x.toNat) else none

/-- `_values` -/
def Scope.values (scope : Scope) (name : Bytes) : List Bytes :=
  (scope.headers.filter fun header => lower header.1 = name).map Prod.snd

/-- `_verified_client` -/
def TrustedIngress.verified_client (ingress : TrustedIngress) (scope : Scope) : Option Text := do
  let peer ← scope.client
  let peer_address ← ip_address peer
  if ingress.trusted_proxies.any (·.contains peer_address) = false then none
  else if REJECTED_HEADERS.any (fun name => scope.values name ≠ []) then none
  else if REQUIRED_HEADERS.any (fun name => (scope.values name).length ≠ 1) then none
  else if (scope.values (encode_ascii "host".toList)).head? ≠ some ingress.authority then none
  else if (scope.values (encode_ascii "x-forwarded-host".toList)).head? ≠ some ingress.authority then none
  else if (scope.values (encode_ascii "x-forwarded-proto".toList)).head? ≠ some (encode_ascii "https".toList) then none
  else
    let forwarded ← (scope.values (encode_ascii "x-forwarded-for".toList)).head?
    let text ← decode_ascii forwarded
    let client_address ← ip_address text
    if client_address.str ≠ text then none else some text

/-! ### The subject of a client -/

/-- `RateLimitSubject(scope, value)` -/
def RateLimitSubject.create (scope : RateLimitScope) (value : Text) : Except Refusal RateLimitSubject :=
  if valid : Subject scope value then .ok ⟨scope, value, valid⟩
  else if scope = .global then .error (.value_error "global rate-limit subject is invalid".toList)
  else .error (.value_error "rate-limit subject is invalid".toList)

/-- `str(ip_network(address, strict=False))`. The address of the network keeps
    its zone where it had no host bits to clear. -/
def network_str (address : Text) : Option Text := do
  let network ← IPNetwork.ip_network address false
  let start ← ip_address (partition '/' address).1
  let network_address := if start.ip = network.network_address.ip then start else network.network_address
  return network_address.str ++ ['/'] ++ dec network.prefixlen

def client_subject (verified_client_ip : Text) : Except Refusal RateLimitSubject :=
  match ip_address verified_client_ip with
  | none => .error (.value_error "verified client address is invalid".toList)
  | some address =>
    if address.str ≠ verified_client_ip then .error (.value_error "verified client address must be canonical".toList)
    else match address with
      | .v4 _ => RateLimitSubject.create .client address.str
      | .v6 _ _ =>
        match network_str (address.str ++ "/64".toList) with
        | none => .error (.value_error [])
        | some value => RateLimitSubject.create .client value

/-! ### What the ingress accepts -/

/-- The text of an accepted client is ASCII, and is how its address is printed. -/
structure Verified (text : Text) (address : IPAddress) : Prop where
  read : ip_address text = some address
  canonical : address.str = text
  ascii : isAscii text = true

theorem isAscii_decode {b : Bytes} {t : Text} (decoded : decode_ascii b = some t) : isAscii t = true := by
  unfold decode_ascii at decoded
  split at decoded
  · rename_i small
    cases decoded
    simp only [isAscii, List.all_map, List.all_eq_true] at small ⊢
    intro x member
    have low : x.toNat < 128 := by simpa [UInt8.lt_iff_toNat_lt] using small x member
    simp only [Function.comp, decide_eq_true_eq]
    rw [Char.toNat_ofNat, if_pos (Or.inl (by omega))]
    exact low
  · cases decoded

theorem verified_of_accepted {ingress : TrustedIngress} {scope : Scope} {text : Text}
    (accepted : ingress.verified_client scope = some text) : ∃ address, Verified text address := by
  unfold TrustedIngress.verified_client at accepted
  simp only [Option.bind_eq_bind, Option.bind_eq_some_iff] at accepted
  obtain ⟨peer, _, peer_address, _, accepted⟩ := accepted
  iterate 6 (split at accepted; · cases accepted)
  simp only [Option.bind_eq_some_iff] at accepted
  obtain ⟨forwarded, _, decoded, decodes, client_address, reads, accepted⟩ := accepted
  split at accepted
  · cases accepted
  · rename_i same
    cases accepted
    exact ⟨client_address, reads, by simpa using same, isAscii_decode decodes⟩

/-! ### The text of a client's network -/

/-- The first address of the /64 of an address. -/
def block_start (ip : Fin (2 ^ 128)) : Fin (2 ^ 128) :=
  ⟨ip.val / 2 ^ 64 * 2 ^ 64, lt_of_le_of_lt (Nat.div_mul_le_self _ _) ip.isLt⟩

/-- The zone a network keeps, of an address with no host bits to clear. -/
def kept_zone (ip : Fin (2 ^ 128)) (scope_id : Option Text) : Option Text := if ip = block_start ip then scope_id else none

/-- The address of the /64 of an IPv6 address. -/
def client_network (ip : Fin (2 ^ 128)) (scope_id : Option Text) : IPAddress := .v6 (block_start ip) (kept_zone ip scope_id)

theorem block_start_eq_iff (ip ip' : Fin (2 ^ 128)) : block_start ip = block_start ip' ↔ ip.val / 2 ^ 64 = ip'.val / 2 ^ 64 := by
  rw [Fin.ext_iff]
  exact Nat.mul_left_inj (Nat.two_pow_pos 64).ne'

theorem block_start_start (ip : Fin (2 ^ 128)) : block_start (block_start ip) = block_start ip := by
  rw [block_start_eq_iff]
  exact Nat.mul_div_cancel _ (Nat.two_pow_pos 64)

theorem block_start_unmapped (ip : Fin (2 ^ 128)) (scope_id : Option Text) : ipv4_mapped (.v6 (block_start ip) scope_id) = none := by
  have inside : (block_start ip).val = ip.val / 2 ^ 64 * 2 ^ 64 := rfl
  have other : ¬(block_start ip).val / 2 ^ 32 = 0xFFFF := by omega
  exact if_neg other

theorem slash_notMem_of_read {t : Text} {a : IPAddress} (read : ip_address t = some a) : '/' ∉ t := by
  intro member
  simp [ip_address, ofTextV4, ofTextV6, member] at read

theorem ofTextV4_version {t : Text} {a : IPAddress} (read : ofTextV4 t = some a) : ∃ ip, a = .v4 ip := by
  unfold ofTextV4 at read
  split at read
  · cases read
  · obtain ⟨ip, _, rfl⟩ := Option.map_eq_some_iff.mp read
    exact ⟨ip, rfl⟩

theorem readers_of_v6 {t : Text} {ip : Fin (2 ^ 128)} {scope_id : Option Text} (read : ip_address t = some (.v6 ip scope_id)) :
    ofTextV4 t = none ∧ ofTextV6 t = some (.v6 ip scope_id) := by
  unfold ip_address at read
  cases v4 : ofTextV4 t with
  | none => exact ⟨rfl, by simpa [v4] using read⟩
  | some a =>
    obtain ⟨_, rfl⟩ := ofTextV4_version v4
    simp [v4] at read

/-- The network an IPv6 text names with `/64` behind it. -/
theorem ip_network_64 {t : Text} {ip : Fin (2 ^ 128)} {scope_id : Option Text} (read : ip_address t = some (.v6 ip scope_id)) :
    IPNetwork.ip_network (t ++ "/64".toList) false = IPNetwork.around (.v6 ip scope_id) 64 := by
  obtain ⟨not_v4, v6⟩ := readers_of_v6 read
  have slash := slash_notMem_of_read read
  have digits : '/' ∉ dec 64 := by decide
  have shape : t ++ "/64".toList = t ++ '/' :: dec 64 := rfl
  have none_v4 : IPNetwork.ofText ofTextV4 (t ++ '/' :: dec 64) false = none := by
    apply ofText_none
    intro s first
    have parts : ∀ l ∈ [t, dec 64], '/' ∉ l := by simp [slash, digits]
    have pieces := List.splitOn_intercalate '/' parts (by simp)
    rw [show ['/'].intercalate [t, dec 64] = t ++ '/' :: dec 64 by simp [List.intercalate_cons_cons]] at pieces
    rw [pieces] at first
    cases first
    exact not_v4
  have mask : IPNetwork.make_netmask .v6 (dec 64) = some 64 := make_netmask_dec (by decide)
  rw [shape, IPNetwork.ip_network, none_v4, ofText_prefix slash digits v6, IPAddress.version, mask]
  rfl

theorem partition_of_read {t : Text} {a : IPAddress} (read : ip_address t = some a) (rest : Text) :
    (partition '/' (t ++ '/' :: rest)).1 = t := by
  rw [partition_append (slash_notMem_of_read read)]

theorem around_64 (ip : Fin (2 ^ 128)) (scope_id : Option Text) : ∃ network, IPNetwork.around (.v6 ip scope_id) 64 = some network ∧
    network.network_address = .v6 (block_start ip) none ∧ network.prefixlen = 64 := by
  have len_le : 64 ≤ 128 := by decide
  refine ⟨.v6 (Block.around ip.val 64 len_le ip.isLt), ?_, rfl, rfl⟩
  simp only [IPNetwork.around, len_le, dite_true]

/-- Clearing no bit leaves the address, with its zone. -/
theorem network_str_64 {t : Text} {ip : Fin (2 ^ 128)} {scope_id : Option Text} (read : ip_address t = some (.v6 ip scope_id)) :
    network_str (t ++ "/64".toList) = some ((client_network ip scope_id).str ++ "/64".toList) := by
  have start : (partition '/' (t ++ "/64".toList)).1 = t := partition_of_read read _
  have len : dec 64 = "64".toList := by decide
  obtain ⟨network, around, address, bits⟩ := around_64 ip scope_id
  have chosen : (if (IPAddress.v6 ip scope_id).ip = network.network_address.ip then IPAddress.v6 ip scope_id
      else network.network_address) = client_network ip scope_id := by
    have same : (IPAddress.v6 ip scope_id).ip = (IPAddress.v6 (block_start ip) none).ip ↔ ip = block_start ip := Fin.ext_iff.symm
    rw [address, client_network, kept_zone]
    by_cases first : ip = block_start ip
    · rw [if_pos (same.mpr first), if_pos first, ← first]
    · rw [if_neg (mt same.mp first), if_neg first]
  unfold network_str
  rw [ip_network_64 read, start, read, around]
  simp only [Option.bind_eq_bind, Option.bind_some, Option.pure_def, chosen, bits, len]
  rw [List.append_assoc]
  rfl

/-- The address of the network is read back from its text. -/
theorem client_network_read {t : Text} {ip : Fin (2 ^ 128)} {scope_id : Option Text} (verified : Verified t (.v6 ip scope_id)) :
    ip_address (client_network ip scope_id).str = some (client_network ip scope_id) := by
  unfold client_network kept_zone
  split
  · rename_i first
    rw [← first, verified.canonical]
    exact verified.read
  · exact ip_address_str ⟨block_start_unmapped ip none, fun _ _ is => (IPAddress.v6.inj is).2.symm⟩

theorem network_text_inj {x y : Text} {ip ip' : Fin (2 ^ 128)} {scope_id scope_id' : Option Text}
    (left : Verified x (.v6 ip scope_id)) (right : Verified y (.v6 ip' scope_id')) :
    (client_network ip scope_id).str ++ "/64".toList = (client_network ip' scope_id').str ++ "/64".toList ↔
      client_network ip scope_id = client_network ip' scope_id' := by
  constructor
  · intro same
    have texts := List.append_cancel_right same
    exact Option.some.inj ((client_network_read left).symm.trans ((congrArg ip_address texts).trans (client_network_read right)))
  · intro same
    rw [same]

/-! ### Same subject -/

/-- What a client is counted under. -/
def bucket_value : IPAddress → Text
  | .v4 ip => v4_string ip.val
  | .v6 ip scope_id => (client_network ip scope_id).str ++ "/64".toList

theorem bucket_value_v6 (ip : Fin (2 ^ 128)) (scope_id : Option Text) :
    bucket_value (.v6 ip scope_id) = (client_network ip scope_id).str ++ "/64".toList := rfl

section Subjects
variable {x y : Text} {a b : IPAddress}

theorem client_subject_eq (verified : Verified x a) : client_subject x = RateLimitSubject.create .client (bucket_value a) := by
  have printed : ¬a.str ≠ x := not_not.mpr verified.canonical
  unfold client_subject
  rw [verified.read]
  simp only [if_neg printed]
  cases a with
  | v4 ip => rfl
  | v6 ip scope_id =>
    have named := network_str_64 verified.read
    rw [← verified.canonical] at named
    simp only [named]
    rfl

theorem create_ok {value : Text} {subject : RateLimitSubject} (created : RateLimitSubject.create .client value = .ok subject) :
    subject.scope = .client ∧ subject.value = value ∧ Subject .client value := by
  unfold RateLimitSubject.create at created
  split at created
  · rename_i valid
    cases created
    exact ⟨rfl, rfl, valid⟩
  · cases created

/-- Two accepted clients share a subject where their values are one, and it is stored. -/
theorem same_subject_iff (left : Verified x a) (right : Verified y b) :
    (∃ subject, client_subject x = .ok subject ∧ client_subject y = .ok subject) ↔
      bucket_value a = bucket_value b ∧ Subject .client (bucket_value a) := by
  rw [client_subject_eq left, client_subject_eq right]
  constructor
  · rintro ⟨subject, first, second⟩
    exact ⟨(create_ok first).2.1.symm.trans (create_ok second).2.1, (create_ok first).2.2⟩
  · rintro ⟨same, valid⟩
    refine ⟨⟨.client, bucket_value a, valid⟩, ?_, ?_⟩
    · exact dif_pos valid
    · rw [← same]
      exact dif_pos valid

theorem subject_client_iff {value : Text} (ascii : isAscii value = true) (some_value : value ≠ []) :
    Subject .client value ↔ value.length ≤ 128 ∧ '\x00' ∉ value := by
  simp [Subject, ascii, some_value]

/-- What is written without a zone is short and ASCII. -/
theorem stored_plain (plain : Plain a) (suffix : Text) (short : suffix.length ≤ 3) (chars : ∀ c ∈ suffix, AddressChar c ∨ c = '/') :
    Subject .client (a.str ++ suffix) := by
  have each : ∀ c ∈ a.str ++ suffix, c.toNat < 128 ∧ c ≠ '\x00' := by
    intro c member
    have char : AddressChar c ∨ c = '/' := (List.mem_append.mp member).elim (fun first => Or.inl (str_char plain c first)) (chars c)
    rcases char with (rfl | rfl | digit | ⟨low, high⟩) | rfl
    · decide
    · decide
    · have range : c.toNat ≤ 57 ∧ 48 ≤ c.toNat := by
        simp only [Char.isDigit, Bool.and_eq_true, decide_eq_true_eq] at digit
        exact ⟨digit.2, digit.1⟩
      refine ⟨by omega, ?_⟩
      rintro rfl
      exact absurd digit (by decide)
    · have upper : c.toNat ≤ 'f'.toNat := high
      have upper' : 'f'.toNat = 102 := rfl
      refine ⟨by omega, ?_⟩
      rintro rfl
      exact absurd low (by decide)
    · decide
  have some_value : a.str ++ suffix ≠ [] := by
    have unread : ip_address [] = none := by decide
    intro empty
    have reads := ip_address_str plain
    rw [(List.append_eq_nil_iff.mp empty).1, unread] at reads
    cases reads
  rw [subject_client_iff (List.all_eq_true.mpr fun c member => decide_eq_true (each c member).1) some_value]
  have length := str_length plain
  refine ⟨?_, fun member => (each _ member).2 rfl⟩
  rw [List.length_append]
  omega

theorem stored_v4 (ip : Fin (2 ^ 32)) : Subject .client (bucket_value (.v4 ip)) := by
  have plain : Plain (.v4 ip) := ⟨rfl, fun _ _ is => IPAddress.noConfusion is⟩
  have valid := stored_plain plain [] (by decide) (by simp)
  rwa [List.append_nil] at valid

/-- A network that keeps a zone is stored where its text is short and has no NUL. -/
theorem stored_v6 {ip : Fin (2 ^ 128)} {scope_id : Option Text} (verified : Verified x (.v6 ip scope_id)) :
    Subject .client (bucket_value (.v6 ip scope_id)) ↔ (kept_zone ip scope_id ≠ none → x.length ≤ 125 ∧ '\x00' ∉ x) := by
  rw [bucket_value_v6]
  cases kept : kept_zone ip scope_id with
  | none =>
    have plain : Plain (client_network ip scope_id) := by
      rw [client_network, kept]
      exact ⟨block_start_unmapped ip none, fun _ _ is => (IPAddress.v6.inj is).2.symm⟩
    have suffix : ∀ c ∈ "/64".toList, AddressChar c ∨ c = '/' := by
      intro c member
      have cases_of : c = '/' ∨ c = '6' ∨ c = '4' := by simpa using member
      rcases cases_of with rfl | rfl | rfl
      · exact Or.inr rfl
      · exact Or.inl (Or.inr (Or.inr (Or.inl rfl)))
      · exact Or.inl (Or.inr (Or.inr (Or.inl rfl)))
    have valid := stored_plain plain "/64".toList (by decide) suffix
    exact ⟨fun _ absent => absurd rfl absent, fun _ => valid⟩
  | some zone =>
    have whole : client_network ip scope_id = .v6 ip scope_id := by
      unfold kept_zone at kept
      split at kept
      · rename_i first
        rw [client_network, kept_zone, if_pos first, ← first]
      · cases kept
    rw [whole, verified.canonical]
    have ascii : isAscii (x ++ "/64".toList) = true := by
      have text := verified.ascii
      unfold isAscii at text ⊢
      rw [List.all_append, text]
      decide
    rw [subject_client_iff ascii (by simp)]
    have zero : '\x00' ∉ "/64".toList := by decide
    have count : (x ++ "/64".toList).length = x.length + 3 := List.length_append
    rw [count, List.mem_append]
    simp only [zero, or_false, ne_eq, reduceCtorEq, not_false_eq_true, forall_const]
    exact and_congr (by omega) Iff.rfl

/-! ### Clients told apart -/

/-- The IPv4 address a client denotes, dotted or mapped. -/
def ipv4_of : IPAddress → Option (Fin (2 ^ 32))
  | .v4 ip => some ip
  | .v6 ip scope_id => ipv4_mapped (.v6 ip scope_id)

/-- One IPv4 address, or two ordinary IPv6 addresses of one /64. -/
def SameClient (a b : IPAddress) : Prop :=
  (∃ ip, ipv4_of a = some ip ∧ ipv4_of b = some ip) ∨ (ipv4_of a = none ∧ ipv4_of b = none ∧ a.ip / 2 ^ 64 = b.ip / 2 ^ 64)

/-- The zone that stays in the text of a client's network. -/
def zone : IPAddress → Option Text
  | .v4 _ => none
  | .v6 ip scope_id => kept_zone ip scope_id

/-- Where the subjects of two clients are one exactly if the clients are: a
    mapped address meets no dotted form of itself and, in `::/64`, no other
    address, and the zones that two networks keep are one and fit a subject. -/
structure Clear (a b : IPAddress) : Prop where
  dotted : a.version ≠ b.version → ipv4_of a ≠ ipv4_of b
  mapped : a.version = b.version → a.ipv4_mapped.isSome = true ∨ b.ipv4_mapped.isSome = true →
    a.ipv4_mapped = b.ipv4_mapped ∨ a.ip / 2 ^ 64 ≠ b.ip / 2 ^ 64 ∨ zone a ≠ zone b
  zoned : ipv4_of a = none → ipv4_of b = none → a.ip / 2 ^ 64 = b.ip / 2 ^ 64 →
    zone a = zone b ∧ (zone a ≠ none → a.str.length ≤ 125 ∧ '\x00' ∉ a.str)

theorem kept_zone_mapped {ip : Fin (2 ^ 128)} {scope_id : Option Text} (inner : (ipv4_mapped (.v6 ip scope_id)).isSome = true) :
    ip.val / 2 ^ 64 = 0 ∧ kept_zone ip scope_id = none := by
  have high : ip.val / 2 ^ 32 = 0xFFFF := by
    by_contra other
    have absent : ipv4_mapped (.v6 ip scope_id) = none := if_neg other
    rw [absent] at inner
    cases inner
  have start : (block_start ip).val = ip.val / 2 ^ 64 * 2 ^ 64 := rfl
  refine ⟨by omega, if_neg fun same => ?_⟩
  have value := congrArg Fin.val same
  omega

theorem client_network_eq_iff {ip ip' : Fin (2 ^ 128)} {scope_id scope_id' : Option Text} :
    client_network ip scope_id = client_network ip' scope_id' ↔
      ip.val / 2 ^ 64 = ip'.val / 2 ^ 64 ∧ kept_zone ip scope_id = kept_zone ip' scope_id' := by
  rw [client_network, client_network, IPAddress.v6.injEq, block_start_eq_iff]

/-- IPv6 clients share a subject where their network and the zone it keeps are one. -/
theorem same_subject_v6 {ip ip' : Fin (2 ^ 128)} {scope_id scope_id' : Option Text} (left : Verified x (.v6 ip scope_id))
    (right : Verified y (.v6 ip' scope_id')) : (∃ subject, client_subject x = .ok subject ∧ client_subject y = .ok subject) ↔
      (ip.val / 2 ^ 64 = ip'.val / 2 ^ 64 ∧ kept_zone ip scope_id = kept_zone ip' scope_id') ∧
        (kept_zone ip scope_id ≠ none → x.length ≤ 125 ∧ '\x00' ∉ x) := by
  rw [same_subject_iff left right, stored_v6 left, bucket_value_v6, bucket_value_v6, network_text_inj left right, client_network_eq_iff]

theorem same_client_v6 (ip ip' : Fin (2 ^ 128)) (scope_id scope_id' : Option Text) :
    SameClient (.v6 ip scope_id) (.v6 ip' scope_id') ↔
      (∃ inner, ipv4_mapped (.v6 ip scope_id) = some inner ∧ ipv4_mapped (.v6 ip' scope_id') = some inner) ∨
        (ipv4_mapped (.v6 ip scope_id) = none ∧ ipv4_mapped (.v6 ip' scope_id') = none ∧ ip.val / 2 ^ 64 = ip'.val / 2 ^ 64) := Iff.rfl

theorem clear_v6_iff (ip ip' : Fin (2 ^ 128)) (scope_id scope_id' : Option Text) :
    Clear (.v6 ip scope_id) (.v6 ip' scope_id') ↔
      ((ipv4_mapped (.v6 ip scope_id)).isSome = true ∨ (ipv4_mapped (.v6 ip' scope_id')).isSome = true →
        ipv4_mapped (.v6 ip scope_id) = ipv4_mapped (.v6 ip' scope_id') ∨ ip.val / 2 ^ 64 ≠ ip'.val / 2 ^ 64 ∨
          kept_zone ip scope_id ≠ kept_zone ip' scope_id') ∧
      (ipv4_mapped (.v6 ip scope_id) = none → ipv4_mapped (.v6 ip' scope_id') = none → ip.val / 2 ^ 64 = ip'.val / 2 ^ 64 →
        kept_zone ip scope_id = kept_zone ip' scope_id' ∧
          (kept_zone ip scope_id ≠ none → (IPAddress.v6 ip scope_id).str.length ≤ 125 ∧ '\x00' ∉ (IPAddress.v6 ip scope_id).str)) :=
  ⟨fun clear => ⟨clear.mapped rfl, clear.zoned⟩, fun parts => ⟨fun other => absurd rfl other, fun _ => parts.1, parts.2⟩⟩

/-- Two IPv6 clients, by whether each is mapped. -/
theorem clear_v6 {ip ip' : Fin (2 ^ 128)} {scope_id scope_id' : Option Text} (left : Verified x (.v6 ip scope_id))
    (right : Verified y (.v6 ip' scope_id')) :
    ((∃ subject, client_subject x = .ok subject ∧ client_subject y = .ok subject) ↔ SameClient (.v6 ip scope_id) (.v6 ip' scope_id')) ↔
      Clear (.v6 ip scope_id) (.v6 ip' scope_id') := by
  rw [same_subject_v6 left right, ← left.canonical, same_client_v6, clear_v6_iff]
  have low := @kept_zone_mapped ip scope_id
  have low' := @kept_zone_mapped ip' scope_id'
  cases one : ipv4_mapped (.v6 ip scope_id) with
  | none =>
    cases other : ipv4_mapped (.v6 ip' scope_id') with
    | none => simp; tauto
    | some inner' =>
      obtain ⟨_, unzoned'⟩ := low' (by rw [other]; rfl)
      simp [unzoned']
      tauto
  | some inner =>
    obtain ⟨zero, unzoned⟩ := low (by rw [one]; rfl)
    cases other : ipv4_mapped (.v6 ip' scope_id') with
    | none =>
      simp [unzoned]
      tauto
    | some inner' =>
      obtain ⟨zero', unzoned'⟩ := low' (by rw [other]; rfl)
      rw [zero, zero', unzoned, unzoned']
      simp [eq_comm]

theorem slash_mem_bucket_value (a : IPAddress) : '/' ∈ bucket_value a ↔ a.version = .v6 := by
  cases a with
  | v4 ip =>
    refine iff_of_false (fun slash => ?_) Version.noConfusion
    rcases v4_string_char slash with digit | dot
    · exact absurd digit (by decide)
    · exact absurd dot (by decide)
  | v6 ip scope_id =>
    rw [bucket_value_v6]
    exact iff_of_true (List.mem_append_right _ (by decide)) rfl

/-- Clients of two families share no subject. -/
theorem subjects_apart (left : Verified x a) (right : Verified y b) (families : a.version ≠ b.version) :
    ¬∃ subject, client_subject x = .ok subject ∧ client_subject y = .ok subject := by
  rw [same_subject_iff left right]
  rintro ⟨same, _⟩
  have slash := slash_mem_bucket_value a
  rw [same, slash_mem_bucket_value] at slash
  apply families
  cases one : a.version <;> cases other : b.version <;> simp [one, other] at slash ⊢

theorem ipv4_of_families (families : a.version ≠ b.version) : ipv4_of a ≠ none ∨ ipv4_of b ≠ none := by
  cases a with
  | v4 ip => exact Or.inl (Option.some_ne_none ip)
  | v6 ip scope_id =>
    cases b with
    | v4 ip' => exact Or.inr (Option.some_ne_none ip')
    | v6 ip' scope_id' => exact absurd rfl families

theorem clear_mixed (families : a.version ≠ b.version) : Clear a b ↔ ¬SameClient a b := by
  have some_ipv4 := ipv4_of_families families
  constructor
  · rintro clear (⟨inner, one, other⟩ | ⟨one, other, _⟩)
    · exact clear.dotted families (one.trans other.symm)
    · exact some_ipv4.elim (· one) (· other)
  · intro differ
    refine ⟨fun _ same => differ (Or.inl ?_), fun same => absurd same families, fun one other => ?_⟩
    · cases one : ipv4_of a with
      | some inner => exact ⟨inner, rfl, same.symm.trans one⟩
      | none => exact (some_ipv4.elim (· one) (· (same.symm.trans one))).elim
    · exact (some_ipv4.elim (· one) (· other)).elim

theorem clear_v4 {ip ip' : Fin (2 ^ 32)} (left : Verified x (.v4 ip)) (right : Verified y (.v4 ip')) :
    ((∃ subject, client_subject x = .ok subject ∧ client_subject y = .ok subject) ↔ SameClient (.v4 ip) (.v4 ip')) ∧
      Clear (.v4 ip) (.v4 ip') := by
  have printed : bucket_value (.v4 ip) = bucket_value (.v4 ip') ↔ ip = ip' := by
    constructor
    · intro same
      have reads := congrArg v4_int_from_string same
      exact Option.some.inj ((v4_int_from_v4_string ip).symm.trans (reads.trans (v4_int_from_v4_string ip')))
    · intro same
      rw [same]
  have one : ipv4_of (.v4 ip) = some ip := rfl
  have other : ipv4_of (.v4 ip') = some ip' := rfl
  constructor
  · rw [same_subject_iff left right, printed, SameClient, one, other]
    simp [stored_v4, eq_comm]
  · refine ⟨fun differ => absurd rfl differ, fun _ inner => ?_, fun absent => ?_⟩
    · rcases inner with inner | inner <;> cases inner
    · rw [one] at absent
      cases absent

/-- When two verified clients share a subject exactly if they are one client. -/
theorem clear_iff (left : Verified x a) (right : Verified y b) :
    ((∃ subject, client_subject x = .ok subject ∧ client_subject y = .ok subject) ↔ SameClient a b) ↔ Clear a b := by
  by_cases families : a.version = b.version
  · cases a with
    | v4 ip =>
      cases b with
      | v4 ip' => exact iff_of_true (clear_v4 left right).1 (clear_v4 left right).2
      | v6 ip' scope_id' => cases families
    | v6 ip scope_id =>
      cases b with
      | v4 ip' => cases families
      | v6 ip' scope_id' => exact clear_v6 left right
  · rw [clear_mixed families, iff_false_left (subjects_apart left right families)]

end Subjects

/-! ### The digested text -/

theorem decode_encode {t : Text} (ascii : isAscii t = true) : decode_ascii (encode_ascii t) = some t := by
  have small : ∀ c ∈ t, c.toNat < 128 := fun c member => of_decide_eq_true (List.all_eq_true.mp ascii c member)
  have byte : ∀ c ∈ t, (UInt8.ofNat c.toNat).toNat = c.toNat := by
    intro c member
    rw [UInt8.toNat_ofNat', Nat.mod_eq_of_lt (by have := small c member; omega)]
  unfold decode_ascii encode_ascii
  rw [if_pos]
  · rw [List.map_map]
    refine congrArg some ((List.map_congr_left fun c member => ?_).trans (List.map_id t))
    rw [Function.comp, byte c member, Char.ofNat_toNat, id]
  · rw [List.all_map, List.all_eq_true]
    intro c member
    rw [Function.comp, decide_eq_true_eq, UInt8.lt_iff_toNat_lt, byte c member]
    exact small c member

theorem encode_ascii_inj {s t : Text} (left : isAscii s = true) (right : isAscii t = true) (same : encode_ascii s = encode_ascii t) :
    s = t :=
  Option.some.inj ((decode_encode left).symm.trans ((congrArg decode_ascii same).trans (decode_encode right)))

theorem encode_ascii_append (s t : Text) : encode_ascii (s ++ t) = encode_ascii s ++ encode_ascii t := List.map_append

theorem isAscii_append (s t : Text) : isAscii (s ++ t) = (isAscii s && isAscii t) := List.all_append

/-- What `_key_hash` digests, before it is encoded. -/
def written (action : RateLimitedAction) (subject : RateLimitSubject) : Text :=
  "reddock-rate-limit-v1\x00".toList ++ (action.value ++ (['\x00'] ++ (subject.scope.value ++ (['\x00'] ++ subject.value))))

theorem material_eq (action : RateLimitedAction) (subject : RateLimitSubject) :
    material action subject = encode_ascii (written action subject) := by
  have zero : encode_ascii ['\x00'] = [0] := rfl
  unfold material written
  simp only [encode_ascii_append, zero, List.append_assoc]

theorem isAscii_subject (subject : RateLimitSubject) : isAscii subject.value = true := by
  have valid := subject.valid
  unfold Subject at valid
  split at valid
  · rw [valid]
    decide
  · exact valid.2.2.1

theorem action_value (action : RateLimitedAction) : isAscii action.value = true ∧ '\x00' ∉ action.value := by
  cases action <;> decide

theorem scope_value (scope : RateLimitScope) : isAscii scope.value = true ∧ '\x00' ∉ scope.value := by
  cases scope <;> decide

theorem isAscii_written (action : RateLimitedAction) (subject : RateLimitSubject) : isAscii (written action subject) = true := by
  have front : isAscii "reddock-rate-limit-v1\x00".toList = true := by decide
  have zero : isAscii ['\x00'] = true := by decide
  unfold written
  simp only [isAscii_append, front, zero, (action_value action).1, (scope_value subject.scope).1, isAscii_subject, Bool.and_self]

/-- Different actions, scopes or values are digested from different texts. -/
theorem material_inj {action action' : RateLimitedAction} {subject subject' : RateLimitSubject}
    (same : material action subject = material action' subject') :
    action = action' ∧ subject.scope = subject'.scope ∧ subject.value = subject'.value := by
  rw [material_eq, material_eq] at same
  have texts := encode_ascii_inj (isAscii_written action subject) (isAscii_written action' subject') same
  obtain ⟨actions, rest⟩ := append_sep_inj (action_value action).2 (action_value action').2 (List.append_cancel_left texts)
  obtain ⟨scopes, values⟩ := append_sep_inj (scope_value subject.scope).2 (scope_value subject'.scope).2 rest
  refine ⟨?_, ?_, values⟩
  · revert actions
    cases action <;> cases action' <;> decide
  · revert scopes
    cases subject.scope <;> cases subject'.scope <;> decide

/-- Accepted clients share a subject exactly if they are one client, where
    `Clear` and only there; and every bucket is digested from its own text. -/
theorem client_buckets (ingress : TrustedIngress) :
    (∀ (one other : Scope) (x y : Text), ingress.verified_client one = some x → ingress.verified_client other = some y →
      ∃ a b, ip_address x = some a ∧ ip_address y = some b ∧
        (((∃ subject, client_subject x = .ok subject ∧ client_subject y = .ok subject) ↔ SameClient a b) ↔ Clear a b)) ∧
    (∀ (action action' : RateLimitedAction) (subject subject' : RateLimitSubject),
      material action subject = material action' subject' →
        action = action' ∧ subject.scope = subject'.scope ∧ subject.value = subject'.value) := by
  refine ⟨fun one other x y accepted accepted' => ?_, fun action action' subject subject' same => material_inj same⟩
  obtain ⟨a, left⟩ := verified_of_accepted accepted
  obtain ⟨b, right⟩ := verified_of_accepted accepted'
  exact ⟨a, b, left.read, right.read, clear_iff left right⟩

/-- The ingress of a server behind one proxy, and a request that comes through it. -/
def exampleIngress : TrustedIngress := ⟨encode_ascii "reddock.example".toList, [IPNetwork.single (.v4 ⟨0x0A140002, by decide⟩)]⟩

def exampleRequest (forwarded : Text) : Scope where
  client := some "10.20.0.2".toList
  headers := [(encode_ascii "Host".toList, encode_ascii "reddock.example".toList),
    (encode_ascii "X-Forwarded-For".toList, encode_ascii forwarded),
    (encode_ascii "X-Forwarded-Host".toList, encode_ascii "reddock.example".toList),
    (encode_ascii "X-Forwarded-Proto".toList, encode_ascii "https".toList)]

theorem client_buckets_example :
    exampleIngress.verified_client (exampleRequest "2001:db8::1".toList) = some "2001:db8::1".toList ∧
      (∃ a b, ip_address "2001:db8::1".toList = some a ∧ ip_address "2001:db8::ffff".toList = some b ∧
        (((∃ subject, client_subject "2001:db8::1".toList = .ok subject ∧ client_subject "2001:db8::ffff".toList = .ok subject) ↔
          SameClient a b) ↔ Clear a b)) ∧
      RateLimitedAction.oidc_login = .oidc_login :=
  have first : exampleIngress.verified_client (exampleRequest "2001:db8::1".toList) = some "2001:db8::1".toList := by decide +kernel
  have second : exampleIngress.verified_client (exampleRequest "2001:db8::ffff".toList) = some "2001:db8::ffff".toList := by
    decide +kernel
  ⟨first, (client_buckets exampleIngress).1 _ _ _ _ first second,
    ((client_buckets exampleIngress).2 .oidc_login .oidc_login GLOBAL_SUBJECT GLOBAL_SUBJECT rfl).1⟩

/-- Every mapped address is counted with `::/64`: two of them are two IPv4
    clients with one subject. -/
theorem mapped_clients_share : ¬∀ (ingress : TrustedIngress) (one other : Scope) (x y : Text),
    ingress.verified_client one = some x → ingress.verified_client other = some y →
      ∃ a b, ip_address x = some a ∧ ip_address y = some b ∧
        ((∃ subject, client_subject x = .ok subject ∧ client_subject y = .ok subject) ↔ SameClient a b) := by
  intro claimed
  have first : exampleIngress.verified_client (exampleRequest "::ffff:192.0.2.1".toList) = some "::ffff:192.0.2.1".toList := by
    decide +kernel
  have second : exampleIngress.verified_client (exampleRequest "::ffff:198.51.100.7".toList) = some "::ffff:198.51.100.7".toList := by
    decide +kernel
  obtain ⟨a, b, read, read', same⟩ := claimed exampleIngress _ _ _ _ first second
  obtain ⟨a', left⟩ := verified_of_accepted first
  obtain ⟨b', right⟩ := verified_of_accepted second
  cases Option.some.inj (read.symm.trans left.read)
  cases Option.some.inj (read'.symm.trans right.read)
  have clear := (clear_iff left right).mp same
  have one : a = .v6 ⟨0xFFFFC0000201, by decide⟩ none := Option.some.inj (read.symm.trans (by decide +kernel))
  have other : b = .v6 ⟨0xFFFFC6336407, by decide⟩ none := Option.some.inj (read'.symm.trans (by decide +kernel))
  subst one other
  rcases clear.mapped rfl (Or.inl (by decide +kernel)) with inner | block | zones
  · exact absurd inner (by decide +kernel)
  · exact absurd block (by decide +kernel)
  · exact absurd zones (by decide +kernel)

end RedDock.ClientBuckets
