import Knhv.Nested.Vmcs

namespace Knhv.Nested

variable {σ : Type}

def kErrorVmxonInVmxOperation : U32 := 15
def kErrorVmclearInvalidAddress : U32 := 2
def kErrorVmclearVmxonPointer : U32 := 3
def kErrorVmptrldInvalidAddress : U32 := 9
def kErrorVmptrldVmxonPointer : U32 := 10
def kErrorVmreadNoCurrent : U32 := 12
def kErrorVmwriteNoCurrent : U32 := 13
def kErrorVmlaunchNonclear : U32 := 4
def kErrorVmresumeNonlaunched : U32 := 5
def kErrorVmEntryInvalidControl : U32 := 7
def kErrorInvalidOperand : U32 := 1

def instructionLength (instruction : VmxInstruction) : U32 :=
  if instruction.instructionLength = 0 then 3 else instruction.instructionLength

def instructionIsValid (instruction : VmxInstruction) : Bool :=
  instruction.version == kNestedModelVersion && sizeofVmxInstruction ≤ instruction.size &&
  instruction.size ≤ sizeofVmxInstruction + 64 && instruction.reserved == 0 &&
  instruction.reserved2 == 0 &&
  instruction.flags &&& ~~~(kInstructionOperandIsRegister ||| kDescriptorIsInline) == 0 &&
  instructionLength instruction ≤ 15

def invalidInstruction (instruction : VmxInstruction) : NestedResult :=
  makeResult .InvalidParameter .ResumeL1 0 (instructionLength instruction) 0 0

def undefinedInstruction (instruction : VmxInstruction) : NestedResult :=
  makeResult .VirtualUnsupported .InjectUndefinedInstruction 0 (instructionLength instruction) 0 0

/-- The two 64-bit words of an INVEPT or INVVPID descriptor, inline in the
instruction or behind its linear operand. Both descriptors have 16 bytes. -/
def readDescriptor (vcpu : NestedVcpu σ) (instruction : VmxInstruction) :
    Option (U64 × U64) × σ :=
  if instruction.flags &&& kDescriptorIsInline ≠ 0 then
    (some (instruction.descriptor, instruction.destination), vcpu.memory.context)
  else if !isLinearRangeCanonical vcpu instruction.linearOperand 16 then
    (none, vcpu.memory.context)
  else
    match readLinear vcpu.memory instruction.linearOperand 16 .Read with
    | (none, context) => (none, context)
    | (some bytes, context) =>
      (some (loadWord 64 (bytes.take 8), loadWord 64 (bytes.drop 8)), context)

def emulateVmxon (vcpu : NestedVcpu σ) (instruction : VmxInstruction) :
    NestedResult × NestedVcpu σ :=
  let length := instructionLength instruction
  if vcpu.vmxonActive then makeVmfail vcpu .VmfailValid kErrorVmxonInVmxOperation length
  else if vcpu.capabilities.featureBits &&& kCapNestedVmx = 0 ∨ vcpu.vmxeEnabled = false then
    (makeResult .NestedUnavailable .ResumeL1 0 length 0 0, vcpu)
  else
    match validateVmxRegion vcpu instruction.linearOperand with
    | (none, context) =>
      makeVmfail (vcpu.withContext context) .VmfailInvalid kErrorInvalidOperand length
    | (some regionGpa, context) =>
      (makeSuccess .ResumeL1 length,
        clearVmInstructionError
          { vcpu.withContext context with
            vmxonActive := true
            vmxonGpa := regionGpa
            currentVmcsGpa := kNoCurrentVmcs
            l2Running := false
            generation := vcpu.generation + 1 })

def emulateVmxoff (vcpu : NestedVcpu σ) (instruction : VmxInstruction) :
    NestedResult × NestedVcpu σ :=
  let length := instructionLength instruction
  if vcpu.vmxonActive = false then makeVmfail vcpu .VmfailInvalid kErrorInvalidOperand length
  else if vcpu.l2Running then (makeResult .Busy .ResumeL1 0 length 0 0, vcpu)
  else
    (makeSuccess .ResumeL1 length,
      { vcpu with
        vmxonActive := false
        l2Running := false
        currentVmcsGpa := kNoCurrentVmcs
        generation := vcpu.generation + 1 })

/-- The slot that already tracks the region, or the first free slot, newly set
up for it; `none` when the table is full. -/
def allocateVmcs (vcpu : NestedVcpu σ) (regionGpa : U64) :
    Option (Fin kNestedVmcsSlots) × NestedVcpu σ :=
  match findVmcs vcpu regionGpa with
  | some slot => (some slot, vcpu)
  | none =>
    match Fin.find? fun slot => !(vcpu.vmcs slot).allocated with
    | none => (none, vcpu)
    | some slot =>
      (some slot,
        { vcpu.setVmcs slot
            { NestedVmcs12.zero with
              allocated := true
              regionGpa := regionGpa
              revision := vcpu.capabilities.vmxRevision &&& kNestedVmxRevisionMask
              state := .Clear } with
          vmcsCount := vcpu.vmcsCount + 1 })

def emulateVmclear (vcpu : NestedVcpu σ) (instruction : VmxInstruction) :
    NestedResult × NestedVcpu σ :=
  let length := instructionLength instruction
  if vcpu.l2Running then (makeResult .Busy .ResumeL1 0 length 0 0, vcpu)
  else
    match validateVmxRegion vcpu instruction.linearOperand with
    | (none, context) =>
      makeVmfail (vcpu.withContext context) .VmfailInvalid kErrorVmclearInvalidAddress length
    | (some regionGpa, context) =>
      let vcpu := vcpu.withContext context
      if regionGpa = vcpu.vmxonGpa then
        makeVmfail vcpu .VmfailValid kErrorVmclearVmxonPointer length
      else
        match allocateVmcs vcpu regionGpa with
        | (none, vcpu) => makeVmfail vcpu .CapabilityMismatch kErrorInvalidOperand length
        | (some slot, vcpu) =>
          let vmcs := vcpu.vmcs slot
          let vcpu := vcpu.setVmcs slot
            { NestedVmcs12.zero with
              allocated := true
              regionGpa := vmcs.regionGpa
              revision := vmcs.revision
              state := .Clear }
          (makeSuccess .ResumeL1 length,
            clearVmInstructionError
              { vcpu with
                currentVmcsGpa :=
                  if vcpu.currentVmcsGpa = regionGpa then kNoCurrentVmcs
                  else vcpu.currentVmcsGpa })

def emulateVmptrld (vcpu : NestedVcpu σ) (instruction : VmxInstruction) :
    NestedResult × NestedVcpu σ :=
  let length := instructionLength instruction
  match validateVmxRegion vcpu instruction.linearOperand with
  | (none, context) =>
    makeVmfail (vcpu.withContext context) .VmfailInvalid kErrorVmptrldInvalidAddress length
  | (some regionGpa, context) =>
    let vcpu := vcpu.withContext context
    if regionGpa = vcpu.vmxonGpa then
      makeVmfail vcpu .VmfailValid kErrorVmptrldVmxonPointer length
    else
      match allocateVmcs vcpu regionGpa with
      | (none, vcpu) => makeVmfail vcpu .CapabilityMismatch kErrorInvalidOperand length
      | (some slot, vcpu) =>
        if (vcpu.vmcs slot).state = .Active ∧ vcpu.currentVmcsGpa ≠ regionGpa then
          makeVmfail vcpu .VmfailValid kErrorInvalidOperand length
        else
          (makeSuccess .ResumeL1 length,
            clearVmInstructionError
              { vcpu.setVmcs slot { vcpu.vmcs slot with state := .Active } with
                currentVmcsGpa := regionGpa })

def emulateVmptrst (vcpu : NestedVcpu σ) (instruction : VmxInstruction) :
    NestedResult × NestedVcpu σ :=
  let length := instructionLength instruction
  let current := vcpu.currentVmcsGpa
  if instruction.flags &&& kInstructionOperandIsRegister ≠ 0 then
    (makeSuccess .ResumeL1 length current, vcpu)
  else if !isLinearRangeCanonical vcpu instruction.destination 8 then
    makeVmfail vcpu .VmfailInvalid kErrorInvalidOperand length
  else
    match writeLinear vcpu.memory instruction.destination (storeWord current) 8 with
    | (false, context) =>
      makeVmfail (vcpu.withContext context) .VmfailInvalid kErrorInvalidOperand length
    | (true, context) =>
      (makeSuccess .ResumeL1 length, clearVmInstructionError (vcpu.withContext context))

def emulateVmread (vcpu : NestedVcpu σ) (instruction : VmxInstruction) :
    NestedResult × NestedVcpu σ :=
  let length := instructionLength instruction
  -- without a current VMCS the field read below answers `none` as well, and
  -- both failures of the source report the same error
  match readNestedVmcsField vcpu instruction.encoding with
  | none => makeVmfail vcpu .VmfailInvalid kErrorVmreadNoCurrent length
  | some value =>
    if instruction.flags &&& kInstructionOperandIsRegister ≠ 0 then
      (makeSuccess .ResumeL1 length value, clearVmInstructionError vcpu)
    else if !isLinearRangeCanonical vcpu instruction.destination 8 then
      makeVmfail vcpu .VmfailInvalid kErrorInvalidOperand length
    else
      match writeLinear vcpu.memory instruction.destination (storeWord value) 8 with
      | (false, context) =>
        makeVmfail (vcpu.withContext context) .VmfailInvalid kErrorInvalidOperand length
      | (true, context) =>
        (makeSuccess .ResumeL1 length, clearVmInstructionError (vcpu.withContext context))

def emulateVmwrite (vcpu : NestedVcpu σ) (instruction : VmxInstruction) :
    NestedResult × NestedVcpu σ :=
  let length := instructionLength instruction
  match currentVmcs vcpu, findFieldRule instruction.encoding with
  | some _, some rule =>
    if !(fieldRule rule).writable then
      makeVmfail vcpu .VmfailInvalid kErrorVmwriteNoCurrent length
    else
      match writeNestedVmcsField vcpu instruction.encoding instruction.source with
      | (false, vcpu) => makeVmfail vcpu .VmfailValid kErrorVmEntryInvalidControl length
      | (true, vcpu) => (makeSuccess .ResumeL1 length, clearVmInstructionError vcpu)
  | _, _ => makeVmfail vcpu .VmfailInvalid kErrorVmwriteNoCurrent length

def emulateVmEntry (vcpu : NestedVcpu σ) (instruction : VmxInstruction) (launch : Bool) :
    NestedResult × NestedVcpu σ :=
  let length := instructionLength instruction
  match currentVmcs vcpu with
  | none =>
    makeVmfail vcpu .VmfailInvalid
      (if launch then kErrorVmlaunchNonclear else kErrorVmresumeNonlaunched) length
  | some slot =>
    let vmcs := vcpu.vmcs slot
    if launch ∧ vmcs.state ≠ .Active then
      makeVmfail vcpu .VmfailValid kErrorVmlaunchNonclear length
    else if ¬launch ∧ vmcs.state ≠ .Launched then
      makeVmfail vcpu .VmfailValid kErrorVmresumeNonlaunched length
    else if vcpu.l2Running ∨ validateEntryState vcpu vmcs = false then
      makeVmfail vcpu .VmfailValid kErrorVmEntryInvalidControl length
    else
      (makeSuccess .EnterL2 length,
        clearVmInstructionError
          { vcpu.setVmcs slot { vmcs with state := .Launched } with l2Running := true })

def emulateInvept (vcpu : NestedVcpu σ) (instruction : VmxInstruction) :
    NestedResult × NestedVcpu σ :=
  let length := instructionLength instruction
  if vcpu.capabilities.featureBits &&& kCapEpt = 0 then
    (makeResult .VirtualUnsupported .VirtualUnsupported 0 length 0 0, vcpu)
  else
    match readDescriptor vcpu instruction with
    | (none, context) =>
      makeVmfail (vcpu.withContext context) .VmfailInvalid kErrorInvalidOperand length
    | (some (eptPointer, reserved), context) =>
      let vcpu := vcpu.withContext context
      if reserved ≠ 0 ∨ (instruction.descriptorType ≠ 1 ∧ instruction.descriptorType ≠ 2) ∨
          (instruction.descriptorType = 1 ∧
            (!isAlignedPage eptPointer ||
              !isPhysicalAddress eptPointer vcpu.capabilities.maxPhysicalAddressBits)) then
        makeVmfail vcpu .VmfailInvalid kErrorInvalidOperand length
      else (makeSuccess .ResumeL1 length, clearVmInstructionError vcpu)

def emulateInvvpid (vcpu : NestedVcpu σ) (instruction : VmxInstruction) :
    NestedResult × NestedVcpu σ :=
  let length := instructionLength instruction
  if vcpu.capabilities.featureBits &&& kCapVpid = 0 then
    (makeResult .VirtualUnsupported .VirtualUnsupported 0 length 0 0, vcpu)
  else
    match readDescriptor vcpu instruction with
    | (none, context) =>
      makeVmfail (vcpu.withContext context) .VmfailInvalid kErrorInvalidOperand length
    | (some (vpid, linearAddress), context) =>
      let vcpu := vcpu.withContext context
      if vpid = 0 ∨ vcpu.capabilities.vpidCount.setWidth 64 < vpid ∨
          3 < instruction.descriptorType ∨
          ((instruction.descriptorType = 0 ∨ instruction.descriptorType = 2) ∧
            !isCanonicalAddress linearAddress vcpu.capabilities.linearAddressBits) then
        makeVmfail vcpu .VmfailInvalid kErrorInvalidOperand length
      else (makeSuccess .ResumeL1 length, clearVmInstructionError vcpu)

def emulateVmfunc (vcpu : NestedVcpu σ) (instruction : VmxInstruction) :
    NestedResult × NestedVcpu σ :=
  let length := instructionLength instruction
  let unsupported := makeResult .VirtualUnsupported .VirtualUnsupported 0 length 0 0
  match readNestedVmcsField vcpu kVmcsFieldSecondaryControls with
  | none => (unsupported, vcpu)
  | some secondary =>
    if secondary &&& kNestedSecondaryEnableVmfunc.setWidth 64 = 0 then (unsupported, vcpu)
    else if instruction.source ≠ 0 ∨
        vcpu.capabilities.eptpListEntries ≤ instruction.descriptorType then
      makeVmfail vcpu .VmfailValid kErrorInvalidOperand length
    else
      (makeSuccess .ResumeL1 length,
        clearVmInstructionError { vcpu with eptpIndex := instruction.descriptorType })

def dispatchNestedInstruction (vcpu : NestedVcpu σ) (instruction : Option VmxInstruction) :
    NestedResult × NestedVcpu σ :=
  match instruction with
  | none => (makeResult .InvalidParameter .ResumeL1 0 0 0 0, vcpu)
  | some instruction =>
    let length := instructionLength instruction
    if !instructionIsValid instruction then (invalidInstruction instruction, vcpu)
    else if instruction.opcode = .Vmxon then emulateVmxon vcpu instruction
    else if instruction.opcode = .Vmxoff then
      if vcpu.vmxonActive = false then makeVmfail vcpu .VmfailInvalid kErrorInvalidOperand length
      else emulateVmxoff vcpu instruction
    else if vcpu.vmxonActive = false then
      makeVmfail vcpu .VmfailInvalid kErrorInvalidOperand length
    else
      match instruction.opcode with
      | .Vmclear => emulateVmclear vcpu instruction
      | .Vmptrld => emulateVmptrld vcpu instruction
      | .Vmptrst => emulateVmptrst vcpu instruction
      | .Vmread => emulateVmread vcpu instruction
      | .Vmwrite => emulateVmwrite vcpu instruction
      | .Vmlaunch => emulateVmEntry vcpu instruction true
      | .Vmresume => emulateVmEntry vcpu instruction false
      | .Invept => emulateInvept vcpu instruction
      | .Invvpid => emulateInvvpid vcpu instruction
      | .Vmfunc => emulateVmfunc vcpu instruction
      | .Vmcall =>
        (makeSuccess .ReflectVmexit length instruction.source, clearVmInstructionError vcpu)
      | _ => (undefinedInstruction instruction, vcpu)

/-- The three read-only fields that tell L1 why its guest stopped. -/
def recordNestedExit (vmcs : NestedVmcs12) (exitRecord : NestedExitRecord) : NestedVmcs12 :=
  let vmcs := setVmcsReadOnly vmcs kVmcsFieldExitReason (exitRecord.reason.setWidth 64)
  let vmcs := setVmcsReadOnly vmcs kVmcsFieldExitQualification exitRecord.qualification
  setVmcsReadOnly vmcs 0x440C (exitRecord.instructionLength.setWidth 64)

def reflectNestedExit (vcpu : NestedVcpu σ) (exitRecord : Option NestedExitRecord) :
    NestedResult × NestedVcpu σ :=
  let refused := makeResult .InvalidParameter .QuarantineSession 0 0 0 0
  match exitRecord with
  | none => (refused, vcpu)
  | some exitRecord =>
    if exitRecord.version ≠ kNestedModelVersion ∨ exitRecord.size < sizeofNestedExitRecord ∨
        sizeofNestedExitRecord + 64 < exitRecord.size ∨ 15 < exitRecord.instructionLength ∨
        vcpu.l2Running = false then (refused, vcpu)
    else
      match currentVmcs vcpu with
      | none =>
        (makeResult .RecoveryRequired .QuarantineSession 0 exitRecord.instructionLength 0 0, vcpu)
      | some slot =>
        (makeSuccess .ReflectVmexit exitRecord.instructionLength,
          { vcpu.setVmcs slot (recordNestedExit (vcpu.vmcs slot) exitRecord) with
            l2Running := false
            generation := vcpu.generation + 1 })

end Knhv.Nested
