import TradeJournalWorker.EvidenceFields

namespace TradeJournalWorker.Lab

/-- A network as its address and the length of its prefix. -/
abbrev AddressNetwork := IpAddress × Nat

def inNetwork (address : IpAddress) (network : AddressNetwork) : Bool :=
  match address, network.1 with
  | .v4 bits, .v4 first => bits >>> (32 - network.2) = first >>> (32 - network.2)
  | .v6 bits, .v6 first => bits >>> (128 - network.2) = first >>> (128 - network.2)
  | _, _ => false

/-- `FORBIDDEN_ADDRESS_NETWORKS`. -/
def forbiddenAddressNetworks : List AddressNetwork :=
  [(.v4 0x00000000, 8), (.v4 0x0A000000, 8), (.v4 0x64400000, 10), (.v4 0x7F000000, 8),
    (.v4 0xA9FE0000, 16), (.v4 0xAC100000, 12), (.v4 0xC0000000, 24), (.v4 0xC0000200, 24),
    (.v4 0xC01FC400, 24), (.v4 0xC034C100, 24), (.v4 0xC0586300, 24), (.v4 0xC0A80000, 16),
    (.v4 0xC0AF3000, 24), (.v4 0xC6120000, 15), (.v4 0xC6336400, 24), (.v4 0xCB007100, 24),
    (.v4 0xE0000000, 4), (.v4 0xF0000000, 4), (.v6 0, 96),
    (.v6 0x0064FF9B000000000000000000000000, 96), (.v6 0x0064FF9B000100000000000000000000, 48),
    (.v6 0x01000000000000000000000000000000, 64), (.v6 0x20010000000000000000000000000000, 23),
    (.v6 0x20010DB8000000000000000000000000, 32), (.v6 0x20020000000000000000000000000000, 16),
    (.v6 0x3FFF0000000000000000000000000000, 20), (.v6 0x5F000000000000000000000000000000, 16),
    (.v6 0xFC000000000000000000000000000000, 7), (.v6 0xFE800000000000000000000000000000, 10),
    (.v6 0xFF000000000000000000000000000000, 8)]

/-- `DANGEROUS_REMOTE_PORTS`. -/
def dangerousRemotePorts : List Int :=
  [22, 23, 25, 53, 67, 68, 69, 110, 111, 135, 137, 138, 139, 161, 389, 445, 1433, 2375, 2376,
    3306, 3389, 5432, 5985, 5986, 6379, 9200, 11211]

def isIpv4Mapped : IpAddress → Bool
  | .v4 _ => false
  | .v6 bits => bits >>> 32 = 0xFFFF

def outsideGlobalUnicast : IpAddress → Bool
  | .v4 _ => false
  | .v6 bits => bits >>> 125 ≠ 1

/-- The checks of `validate_candidate` on the address. -/
def checkCandidateAddress (env : LabEnv) (rawIp : String) : Except String Unit := do
  demand (env.unicode.strip rawIp.toList = rawIp.toList ∧ '%' ∉ rawIp.toList)
    "candidate IP must be one canonical literal address"
  let parsed ← orRaise (env.addresses.parse rawIp)
    "candidate must be a literal IPv4 or IPv6 address"
  demand (isIpv4Mapped parsed = false) "IPv4-mapped IPv6 candidates are forbidden"
  demand (env.addresses.compressed parsed = rawIp)
    "candidate IP must use canonical compressed syntax"
  demand (env.addresses.isGlobal parsed = true) "candidate must be globally routable"
  demand (¬ (env.addresses.isPrivate parsed ∨ parsed.isLoopback ∨ parsed.isLinkLocal ∨
      parsed.isMulticast ∨ env.addresses.isReserved parsed ∨ parsed.isUnspecified))
    "candidate belongs to a forbidden address class"
  demand (¬ forbiddenAddressNetworks.any (inNetwork parsed) = true)
    "candidate belongs to a forbidden special-purpose network"
  demand (outsideGlobalUnicast parsed = false) "candidate IPv6 address is not global unicast"

/-- `validate_candidate`. -/
def validateCandidate (env : LabEnv) (candidate : JsonValue) : Except String Candidate := do
  let data ← requireMapping "candidate_endpoint" candidate
  requireExactKeys "candidate_endpoint" data
    ["ip", "port", "source_control", "observed_phase", "process_scoped"]
  let rawIp ← match JsonValue.get data "ip" with
    | .str text => Except.ok text
    | _ => Except.error "candidate IP must be one canonical literal address"
  checkCandidateAddress env rawIp
  let port ← requireInt (JsonValue.get data "port") 1 (some 65535)
    "candidate port must be an integer in 1..65535"
  demand (port ∉ dangerousRemotePorts) "candidate port is forbidden by the lab safety policy"
  demand ((JsonValue.get data "source_control").isText "C2" = true ∧
      (JsonValue.get data "observed_phase").isText "LOGIN" = true)
    "candidate must originate from the C2 LOGIN phase"
  demand ((JsonValue.get data "process_scoped").isBool true = true)
    "candidate must have process-scoped observation evidence"
  return ⟨rawIp, port⟩

end TradeJournalWorker.Lab
