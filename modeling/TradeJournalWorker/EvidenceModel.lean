import TradeJournalWorker.ContractDigests

namespace TradeJournalWorker.Lab

inductive Control where
  | c0
  | c1
  | c2
  | c3
  | c4
  | c5
  deriving DecidableEq, Repr

namespace Control

def text : Control → String
  | c0 => "C0"
  | c1 => "C1"
  | c2 => "C2"
  | c3 => "C3"
  | c4 => "C4"
  | c5 => "C5"

def all : List Control := [c0, c1, c2, c3, c4, c5]

/-- C0, C1 and C2 share one session. -/
def early : Control → Bool
  | c0 | c1 | c2 => true
  | _ => false

def ofText (text : String) : Option Control := all.find? fun control => control.text = text

end Control

inductive ObservedPhase where
  | none
  | login
  | directOnly
  | endpointBlocked
  | directRepeat
  deriving DecidableEq, Repr

def ObservedPhase.text : ObservedPhase → String
  | none => "NONE"
  | login => "LOGIN"
  | directOnly => "DIRECT_ONLY"
  | endpointBlocked => "ENDPOINT_BLOCKED"
  | directRepeat => "DIRECT_REPEAT"

/-- `OBSERVED_PHASES`. -/
def observedPhases : List ObservedPhase :=
  [.none, .login, .directOnly, .endpointBlocked, .directRepeat]

inductive DeltaSource where
  | none
  | processScopedTcpFlowSet
  deriving DecidableEq, Repr

inductive Origin where
  | syntheticFixture
  | capturedExport
  deriving DecidableEq, Repr

def Origin.text : Origin → String
  | syntheticFixture => "SYNTHETIC_FIXTURE"
  | capturedExport => "CAPTURED_EXPORT"

/-- `PROVENANCE_PRODUCERS`. -/
def Origin.producer : Origin → String
  | syntheticFixture => "OFFLINE_TEST_FIXTURE"
  | capturedExport => "LAB_CAPTURE_EXPORT"

/-- A candidate that has passed `validate_candidate`, its other fields being fixed. -/
structure Candidate where
  ip : String
  port : Int
  deriving DecidableEq, Repr

structure RunContext where
  experimentId : String
  cohort : String
  expectedServer : Option String
  expectedCompany : Option String
  /-- `expected_trade_mode` is `DEMO` or absent. -/
  expectsDemo : Bool
  requestedServerLabelSha256 : Option String
  credentialSetId : Option String
  cloneIdSha256 : String
  windowsUserSidSha256 : String
  portableRootPathSha256 : String
  terminalSha256 : String
  terminalBuild : Int
  candidateEndpoint : Option Candidate
  startedAtUnix : Int
  completedAtUnix : Int
  deriving DecidableEq, Repr

/-- The fields that the control fixes (mode, role, the flags of the terminal) are left out. -/
structure LifecycleBinding where
  c012SessionId : Option String
  jobId : String
  jobManifestSha256 : String
  jobIdentitySha256 : String
  rootProcessGenerationSha256 : String
  transientProcessSetSha256 : Option String
  deriving DecidableEq, Repr

structure InitialPreStateBinding where
  scope : String
  portableRootPathSha256 : String
  initialC012PreStateSha256 : Option String
  deriving DecidableEq, Repr

structure StateTransition where
  stage : String
  brokerCacheState : String
  accountCacheState : String
  transitionEvidenceSha256 : Option String
  transitionVerified : Bool
  deriving DecidableEq, Repr

structure CaptureIntegrity where
  etwStarted : Bool
  etwStopped : Bool
  requiredMarkersPresent : Bool
  buffersLost : Int
  eventsLost : Int
  deriving DecidableEq, Repr

/-- A mapping of names to booleans, as `_require_bool_mapping` returns it. -/
abbrev BoolMapping := List (String × Bool)

structure Network where
  attributionUnambiguous : Bool
  candidateAttemptObserved : Bool
  candidateBlockObserved : Bool
  candidateConnected : Bool
  candidateEndpointSafe : Bool
  candidateTupleMatch : Bool
  flowRecordSetVerified : Bool
  candidateTcpFlows : Int
  dnsEvents : Int
  nonTcpNetworkEvents : Int
  otherTcpFlows : Int
  processScopedTcpFlows : Int
  candidateObservedPhase : ObservedPhase
  flowRecordSetSha256 : Option String
  deriving DecidableEq, Repr

structure Discovery where
  credentialsSupplied : Bool
  negativeExactQueryCompleted : Bool
  exactSelectionCompleted : Bool
  helperSecretAccessed : Bool
  unsafeEndpointPromoted : Bool
  cacheInfluenceExcluded : Bool
  endpointDeltaAcquired : Bool
  endpointDeltaSourceVerified : Bool
  exactLabelMatchVerified : Bool
  negativeQueryUiBindingVerified : Bool
  expectedExactResultCount : Int
  negativeQueryResultCount : Option Int
  negativeQueryLabelSha256 : Option String
  selectedServerLabelSha256 : Option String
  endpointDeltaSource : DeltaSource
  endpointDeltaSourceSha256 : Option String
  deriving DecidableEq, Repr

structure Identity where
  flags : BoolMapping
  probeRunId : String
  probeGeneratedAtUnix : Int
  server : String
  company : String
  tradeMode : String
  terminalBuild : Int
  terminalPathSha256 : Option String
  terminalDataPathSha256 : Option String
  identityProbeOutputSha256 : Option String
  deriving DecidableEq, Repr

structure Provenance where
  origin : Origin
  syntheticFixture : Bool
  artifactSetId : String
  deriving DecidableEq, Repr

structure ProofBinding where
  runId : String
  provenance : Provenance
  candidateEndpointSha256 : Option String
  candidateHandoffManifestSha256 : Option String
  controlPlanSha256 : Option String
  credentialSetBindingSha256 : Option String
  etwEvidenceSha256 : Option String
  experimentManifestSha256 : Option String
  firewallPlanSha256 : Option String
  firewallPortableRootBindingSha256 : Option String
  jobIdentitySha256 : String
  jobManifestSha256 : Option String
  jobPortableRootBindingSha256 : Option String
  lifecycleBindingSha256 : Option String
  negativeQueryBindingSha256 : Option String
  phaseTimelineSha256 : Option String
  preStateBindingSha256 : Option String
  probePathBindingSha256 : Option String
  requestedLabelBindingSha256 : Option String
  rootProcessGenerationSha256 : String
  stateTransitionSha256 : Option String
  wfpEvidenceSha256 : Option String
  candidateTupleBound : Bool
  credentialSetBindingVerified : Bool
  etwProofCapable : Bool
  firewallPlanBound : Bool
  jobProcessBindingVerified : Bool
  phaseBindingVerified : Bool
  requestedLabelBindingVerified : Bool
  wfpProofCapable : Bool
  deriving DecidableEq, Repr

structure TimelineEvent where
  code : String
  sequence : Nat
  timestampUnixMs : Int
  qpc : Int
  deriving DecidableEq, Repr

structure Timeline where
  qpcFrequencyHz : Int
  events : List TimelineEvent
  deriving DecidableEq, Repr

/-- The durations of the phases in seconds. -/
structure Timing where
  baselineSeconds : Int := 0
  blockedObservationSeconds : Int := 0
  connectedSteadySeconds : Int := 0
  exactDiscoverySeconds : Int := 0
  loginObservationSeconds : Int := 0
  negativeDiscoverySeconds : Int := 0
  networkInterruptionSeconds : Int := 0
  reconnectObservationSeconds : Int := 0
  separationFromC3Seconds : Int := 0
  deriving DecidableEq, Repr

/-- What `validate_evidence` returns. -/
structure Evidence where
  runId : String
  control : Control
  runContext : RunContext
  lifecycleBinding : LifecycleBinding
  initialPreStateBinding : InitialPreStateBinding
  stateTransition : StateTransition
  captureIntegrity : CaptureIntegrity
  preState : Option BoolMapping
  identity : Option Identity
  credentialBundleInvestorConfirmed : Bool
  network : Network
  discovery : Discovery
  environmentHealth : BoolMapping
  proofBinding : ProofBinding
  timeline : Timeline
  timing : Timing
  phaseMarkers : List String
  deriving DecidableEq, Repr

end TradeJournalWorker.Lab
