import Mathlib.Data.List.OfFn
import Knhv.Abi
import Knhv.Lib.Census

namespace Knhv.CpuPolicy

def kCpuPolicyContractVersion : U32 := 1
def kCpuPolicyMaxStructSize : U32 := 4096
def kCpuPolicyMaxCpuidRules : U32 := 16
def kCpuPolicyMaxMsrRules : U32 := 32

def kCpuidExposeVmx : U32 := 1 <<< 0
def kCpuidExposeHypervisor : U32 := 1 <<< 1
def kCpuidPreserveTopology : U32 := 1 <<< 2
def kCpuidExposeInvariantTsc : U32 := 1 <<< 3
def kCpuidKnownPolicyMask : U32 :=
  kCpuidExposeVmx ||| kCpuidExposeHypervisor ||| kCpuidPreserveTopology |||
    kCpuidExposeInvariantTsc

def kCpuidLeaf1EcxVmx : U32 := 1 <<< 5
def kCpuidLeaf1EcxHypervisor : U32 := 1 <<< 31
def kCpuidLeaf80000007EdxInvariantTsc : U32 := 1 <<< 8

def kMsrPolicyAllowPassThrough : U32 := 1 <<< 0
def kMsrPolicyAllowTsc : U32 := 1 <<< 1
def kMsrPolicyAllowPat : U32 := 1 <<< 2
def kMsrPolicyAllowDebug : U32 := 1 <<< 3
def kMsrPolicyAllowCet : U32 := 1 <<< 4
def kMsrPolicyKnownMask : U32 :=
  kMsrPolicyAllowPassThrough ||| kMsrPolicyAllowTsc ||| kMsrPolicyAllowPat |||
    kMsrPolicyAllowDebug ||| kMsrPolicyAllowCet

def kMsrAccessRead : U32 := 0
def kMsrAccessWrite : U32 := 1

def kMsrIa32Tsc : U32 := 0x00000010
def kMsrIa32Pat : U32 := 0x00000277
def kMsrIa32Debugctl : U32 := 0x000001D9
def kMsrIa32Efer : U32 := 0xC0000080
def kMsrIa32Xss : U32 := 0x00000DA0
def kMsrIa32UCet : U32 := 0x000006A0
def kMsrIa32SCet : U32 := 0x000006A2

inductive MsrAction
  | PassThrough | Virtualized | InjectGeneralProtection | InjectUndefinedInstruction
  deriving DecidableEq, Repr

inductive MsrDecisionStatus
  | Success | InvalidParameter | InjectGeneralProtection | InjectUndefinedInstruction
  deriving DecidableEq, Repr

def MsrAction.word : MsrAction → U32
  | .PassThrough => 0
  | .Virtualized => 1
  | .InjectGeneralProtection => 2
  | .InjectUndefinedInstruction => 3

def MsrDecisionStatus.word : MsrDecisionStatus → U32
  | .Success => 0
  | .InvalidParameter => 1
  | .InjectGeneralProtection => 2
  | .InjectUndefinedInstruction => 3

def sizeofCpuidPolicy : U32 := 576
def sizeofMsrPolicy : U32 := 1568
def sizeofMsrDecision : U32 := 48

structure CpuidResult where
  eax : U32
  ebx : U32
  ecx : U32
  edx : U32
  deriving DecidableEq

structure CpuidRule where
  leaf : U32
  subleaf : U32
  eaxAnd : U32
  ebxAnd : U32
  ecxAnd : U32
  edxAnd : U32
  reserved : U32
  reserved2 : U32
  deriving DecidableEq

structure CpuidPolicy where
  size : U32
  version : U32
  level : U32
  flags : U32
  ruleCount : U32
  reserved : U32
  generation : U64
  maxBasicLeaf : U32
  maxExtendedLeaf : U32
  reserved2 : U32
  reserved3 : U32
  rules : Fin 16 → CpuidRule
  hypervisorLeaf : CpuidResult

/-- The actions are the words of the caller: they need not name an action. -/
structure MsrRule where
  msr : U32
  readAction : U32
  writeAction : U32
  reserved : U32
  readMask : U64
  writeAllowedMask : U64
  writeRequiredOne : U64
  reserved2 : U64
  deriving DecidableEq

structure MsrPolicy where
  size : U32
  version : U32
  level : U32
  flags : U32
  ruleCount : U32
  reserved : U32
  generation : U64
  rules : Fin 32 → MsrRule

structure MsrDecision where
  size : U32
  version : U32
  status : U32
  action : U32
  msr : U32
  access : U32
  reserved : U32
  reserved2 : U32
  value : U64
  generation : U64
  deriving DecidableEq

def CpuidResult.zero : CpuidResult := ⟨0, 0, 0, 0⟩

def CpuidRule.zero : CpuidRule := ⟨0, 0, 0, 0, 0, 0, 0, 0⟩

def MsrRule.zero : MsrRule := ⟨0, 0, 0, 0, 0, 0, 0, 0⟩

/-- The rules in use, for a count that the array has room for. -/
def CpuidPolicy.activeRules (policy : CpuidPolicy) : List CpuidRule :=
  (List.ofFn policy.rules).take policy.ruleCount.toNat

def CpuidPolicy.unusedRules (policy : CpuidPolicy) : List CpuidRule :=
  (List.ofFn policy.rules).drop policy.ruleCount.toNat

def MsrPolicy.activeRules (policy : MsrPolicy) : List MsrRule :=
  (List.ofFn policy.rules).take policy.ruleCount.toNat

def MsrPolicy.unusedRules (policy : MsrPolicy) : List MsrRule :=
  (List.ofFn policy.rules).drop policy.ruleCount.toNat

def isVersionedSizeValid (version size required : U32) : Bool :=
  version == kCpuPolicyContractVersion && required ≤ size && size ≤ kCpuPolicyMaxStructSize

def isLevelValid (level : U32) : Bool := level == 1 || level == 2

def isMsrActionValid (action : U32) : Bool := action ≤ MsrAction.InjectUndefinedInstruction.word

def isCpuidRuleSound (rule : CpuidRule) : Bool :=
  !(rule.reserved != 0 || rule.reserved2 != 0 ||
    (0x40000000 ≤ rule.leaf && rule.leaf < 0x80000000))

def isSameCpuidRule (rule prior : CpuidRule) : Bool :=
  prior.leaf == rule.leaf && prior.subleaf == rule.subleaf

def isHypervisorLeafValid (policy : CpuidPolicy) : Bool :=
  if policy.flags &&& kCpuidExposeHypervisor != 0 then 0x40000000 ≤ policy.hypervisorLeaf.eax
  else policy.hypervisorLeaf == .zero

def isCpuidPolicyValid (policy : CpuidPolicy) : Bool :=
  if !isVersionedSizeValid policy.version policy.size sizeofCpuidPolicy ||
      !isLevelValid policy.level || policy.flags &&& ~~~kCpuidKnownPolicyMask != 0 ||
      kCpuPolicyMaxCpuidRules < policy.ruleCount || policy.reserved != 0 ||
      policy.generation == 0 || policy.maxBasicLeaf == 0 || 0x80000000 ≤ policy.maxBasicLeaf ||
      policy.maxExtendedLeaf < 0x80000000 || policy.reserved2 != 0 || policy.reserved3 != 0 then
    false
  else if !isHypervisorLeafValid policy then false
  else if !Census.accepts isCpuidRuleSound isSameCpuidRule [] policy.activeRules then false
  else policy.unusedRules.all (· == .zero)

/-- The largest leaf that the guest is told of. -/
def clampLeaf (policy : CpuidPolicy) (leaf : U32) (guest : CpuidResult) : CpuidResult :=
  if leaf == 0 then
    if policy.maxBasicLeaf < guest.eax then { guest with eax := policy.maxBasicLeaf } else guest
  else if leaf == 0x80000000 && policy.maxExtendedLeaf < guest.eax then
    { guest with eax := policy.maxExtendedLeaf }
  else guest

def CpuidRule.mask (rule : CpuidRule) (guest : CpuidResult) : CpuidResult :=
  ⟨guest.eax &&& rule.eaxAnd, guest.ebx &&& rule.ebxAnd, guest.ecx &&& rule.ecxAnd,
    guest.edx &&& rule.edxAnd⟩

def findCpuidRule (policy : CpuidPolicy) (leaf subleaf : U32) : Option CpuidRule :=
  policy.activeRules.find? fun rule => rule.leaf == leaf && rule.subleaf == subleaf

def maskLeaf (policy : CpuidPolicy) (leaf subleaf : U32) (guest : CpuidResult) : CpuidResult :=
  match findCpuidRule policy leaf subleaf with
  | some rule => rule.mask guest
  | none => guest

/-- A bit that is set or cleared whatever was there. -/
def putBit (present : Bool) (bit word : U32) : U32 :=
  if present then word ||| bit else word &&& ~~~bit

def exposeLeaf1 (policy : CpuidPolicy) (leaf : U32) (host guest : CpuidResult) : CpuidResult :=
  if leaf == 1 then
    { guest with
      ecx := putBit (policy.flags &&& kCpuidExposeHypervisor != 0) kCpuidLeaf1EcxHypervisor
        (putBit (policy.flags &&& kCpuidExposeVmx != 0 && host.ecx &&& kCpuidLeaf1EcxVmx != 0)
          kCpuidLeaf1EcxVmx guest.ecx) }
  else guest

def hideInvariantTsc (policy : CpuidPolicy) (leaf : U32) (guest : CpuidResult) : CpuidResult :=
  if leaf == 0x80000007 && policy.flags &&& kCpuidExposeInvariantTsc == 0 then
    { guest with edx := guest.edx &&& ~~~kCpuidLeaf80000007EdxInvariantTsc }
  else guest

/-- The leaf tells the topology, and the policy does not. -/
def isTopologyHidden (policy : CpuidPolicy) (leaf : U32) : Bool :=
  (leaf == 0xB || leaf == 0x1F) && policy.flags &&& kCpuidPreserveTopology == 0

/-- The leaf lies above the largest of its range. -/
def isBeyondMaximum (policy : CpuidPolicy) (leaf : U32) : Bool :=
  if leaf < 0x80000000 then policy.maxBasicLeaf < leaf else policy.maxExtendedLeaf < leaf

/-- What a valid policy leaves of one result of the host. -/
def filterLeaf (policy : CpuidPolicy) (leaf subleaf : U32) (host : CpuidResult) : CpuidResult :=
  if leaf == 0x40000000 then
    if policy.flags &&& kCpuidExposeHypervisor != 0 then policy.hypervisorLeaf else .zero
  else if isBeyondMaximum policy leaf then .zero
  else
    let guest := maskLeaf policy leaf subleaf (clampLeaf policy leaf host)
    let guest := hideInvariantTsc policy leaf (exposeLeaf1 policy leaf host guest)
    if isTopologyHidden policy leaf then .zero else guest

/-- Without a result the output is left as it is. -/
def filterCpuid (policy : Option CpuidPolicy) (leaf subleaf : U32) (host : Option CpuidResult)
    (wanted : Bool) : Bool × Option CpuidResult :=
  match policy, host with
  | some policy, some host =>
    if !wanted || !isCpuidPolicyValid policy then (false, none)
    else (true, some (filterLeaf policy leaf subleaf host))
  | _, _ => (false, none)

def isSpecialPassThroughAllowed (policy : MsrPolicy) (msr : U32) : Bool :=
  if policy.flags &&& kMsrPolicyAllowPassThrough == 0 then false
  else if msr == kMsrIa32Tsc then policy.flags &&& kMsrPolicyAllowTsc != 0
  else if msr == kMsrIa32Pat then policy.flags &&& kMsrPolicyAllowPat != 0
  else if msr == kMsrIa32Debugctl then policy.flags &&& kMsrPolicyAllowDebug != 0
  else if msr == kMsrIa32Xss || msr == kMsrIa32UCet || msr == kMsrIa32SCet then
    policy.flags &&& kMsrPolicyAllowCet != 0
  else msr != kMsrIa32Efer

def findMsrRule (policy : MsrPolicy) (msr : U32) : Option MsrRule :=
  policy.activeRules.find? (·.msr == msr)

/-- The action answers with an exception. -/
def isInjection (action : U32) : Bool :=
  action == MsrAction.InjectGeneralProtection.word ||
    action == MsrAction.InjectUndefinedInstruction.word

def isMsrRuleSound (policy : MsrPolicy) (rule : MsrRule) : Bool :=
  if !isMsrActionValid rule.readAction || !isMsrActionValid rule.writeAction ||
      rule.reserved != 0 || rule.reserved2 != 0 ||
      rule.writeRequiredOne &&& ~~~rule.writeAllowedMask != 0 then
    false
  else if isInjection rule.readAction && rule.readMask != 0 then false
  else if isInjection rule.writeAction &&
      (rule.writeAllowedMask != 0 || rule.writeRequiredOne != 0) then
    false
  else if rule.readAction == MsrAction.PassThrough.word &&
      !isSpecialPassThroughAllowed policy rule.msr then
    false
  else
    !(rule.writeAction == MsrAction.PassThrough.word &&
      !isSpecialPassThroughAllowed policy rule.msr)

def isSameMsrRule (rule prior : MsrRule) : Bool := prior.msr == rule.msr

def isMsrPolicyValid (policy : MsrPolicy) : Bool :=
  if !isVersionedSizeValid policy.version policy.size sizeofMsrPolicy ||
      !isLevelValid policy.level || policy.flags &&& ~~~kMsrPolicyKnownMask != 0 ||
      kCpuPolicyMaxMsrRules < policy.ruleCount || policy.reserved != 0 ||
      policy.generation == 0 then
    false
  else if !Census.accepts (isMsrRuleSound policy) isSameMsrRule [] policy.activeRules then false
  else policy.unusedRules.all (· == .zero)

def initializeMsrDecision (msr : U32) (write : Bool) (generation : U64) : MsrDecision where
  size := sizeofMsrDecision
  version := kCpuPolicyContractVersion
  status := 0
  action := 0
  msr := msr
  access := if write then kMsrAccessWrite else kMsrAccessRead
  reserved := 0
  reserved2 := 0
  value := 0
  generation := generation

def setMsrDecision (decision : MsrDecision) (status : MsrDecisionStatus) (action : U32)
    (value : U64) : MsrDecision :=
  { decision with
    status := status.word
    action := action
    value := value }

/-- The action of a rule in one direction. -/
def MsrRule.action (rule : MsrRule) (write : Bool) : U32 :=
  if write then rule.writeAction else rule.readAction

/-- The status, the action and the value that a valid policy answers with. -/
def answerMsr (policy : MsrPolicy) (msr : U32) (write : Bool) (value : U64) :
    MsrDecisionStatus × U32 × U64 :=
  match findMsrRule policy msr with
  | none => (.InjectGeneralProtection, MsrAction.InjectGeneralProtection.word, 0)
  | some rule =>
    let action := rule.action write
    if action == MsrAction.PassThrough.word && !isSpecialPassThroughAllowed policy msr then
      (.InjectGeneralProtection, MsrAction.InjectGeneralProtection.word, 0)
    else if action == MsrAction.Virtualized.word then
      if write then
        if value &&& ~~~rule.writeAllowedMask != 0 then
          (.InjectGeneralProtection, MsrAction.InjectGeneralProtection.word, 0)
        else (.Success, action, value &&& rule.writeAllowedMask ||| rule.writeRequiredOne)
      else (.Success, action, value &&& rule.readMask)
    else if action == MsrAction.PassThrough.word then (.Success, action, value)
    else if action == MsrAction.InjectUndefinedInstruction.word then
      (.InjectUndefinedInstruction, action, 0)
    else (.InjectGeneralProtection, action, 0)

/-- The decision is written only if the caller passes a buffer for it. -/
def evaluateMsrAccess (policy : Option MsrPolicy) (msr : U32) (write : Bool) (value : U64)
    (wanted : Bool) : Bool × Option MsrDecision :=
  if !wanted then (false, none)
  else
    let generation := (policy.map (·.generation)).getD 0
    let decision := initializeMsrDecision msr write generation
    let refusal := setMsrDecision decision .InvalidParameter MsrAction.InjectGeneralProtection.word 0
    match policy with
    | none => (false, some refusal)
    | some policy =>
      if !isMsrPolicyValid policy then (false, some refusal)
      else
        let (status, action, value) := answerMsr policy msr write value
        (true, some (setMsrDecision decision status action value))

end Knhv.CpuPolicy
