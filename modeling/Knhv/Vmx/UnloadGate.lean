import Mathlib
import Knhv.Vmx.AccessFrame
import Knhv.Vmx.Handler

open Std.Do

namespace Knhv.Vmx

/-- The selector at a place of a packed word. -/
def packedSelector (word : U64) (place : Nat) : U64 := (word.extractLsb' (16 * place) 16).setWidth 64

/-- The guest runs in the descriptor environment of the host, SS apart: its
selectors, CS, GDT, IDT and TR are those sampled at launch, and CS and SS are
usable in the GDT. -/
structure DescriptorsShared (m : Machine) (host : HostState) (guest : VmcsField → U64) : Prop where
  cs : guest .guestCsSelector = packedSelector host.segmentSelectorsLow 0
  ds : guest .guestDsSelector = packedSelector host.segmentSelectorsLow 2
  es : guest .guestEsSelector = packedSelector host.segmentSelectorsLow 3
  fs : guest .guestFsSelector = packedSelector host.segmentSelectorsHigh 0
  gs : guest .guestGsSelector = packedSelector host.segmentSelectorsHigh 1
  ldtr : guest .guestLdtrSelector = packedSelector host.segmentSelectorsHigh 2
  tr : guest .guestTrSelector = packedSelector host.segmentSelectorsHigh 3
  csLimit : guest .guestCsLimit = host.csLimit
  csAr : guest .guestCsArBytes = host.csAr
  gdtBase : guest .guestGdtrBase = host.gdtBase
  gdtLimit : guest .guestGdtrLimit = host.gdtLimit
  idtBase : guest .guestIdtrBase = host.idtBase
  idtLimit : guest .guestIdtrLimit = host.idtLimit
  trBase : guest .guestTrBase = host.trBase
  trLimit : guest .guestTrLimit = host.trLimit
  trAr : guest .guestTrArBytes = host.trAr
  csUsable : isNativeTeardownSegmentValid m host.gdtBase (host.gdtLimit.setWidth 16)
    (guest .guestCsSelector) (guest .guestCsLimit) (guest .guestCsArBytes) true false = true
  ssUsable : isNativeTeardownSegmentValid m host.gdtBase (host.gdtLimit.setWidth 16)
    (guest .guestSsSelector) (guest .guestSsLimit) (guest .guestSsArBytes) false true = true

/-- The published event image is complete and shows nothing pending. -/
structure EventsQuiet (vcpu : VcpuContext) : Prop where
  complete : vcpu.lastEventSnapshotValid = true
  vmEntry : vcpu.lastEvent.vmEntryIntrInfo &&& kVmEntryIntrInfoValid = 0
  vmExit : vcpu.lastEvent.vmExitIntrInfo &&& kVmEntryIntrInfoValid = 0
  vectoring : vcpu.lastEvent.idtVectoringInfo &&& kVmEntryIntrInfoValid = 0
  activity : vcpu.lastEvent.guestActivity = 0
  interruptibility : vcpu.lastEvent.guestInterruptibility = 0
  pendingDebug : vcpu.lastEvent.guestPendingDbgExceptions = 0

/-- The call is the CPL-0 VMCALL with the unload magic and command. -/
structure UnloadCall (c : GuestContext) (exitReason : U32) : Prop where
  vmcall : exitReason = vmExitReasonVmcall
  cpl : c.guestCs &&& 3 = 0
  magic : c.rcx = hypervisorMagic
  command : c.rdx = vmcallUnload

/-- When a vCPU may go back to native operation. -/
structure TeardownGate (m : Machine) (s : ExitState) (exitReason : U32) : Prop where
  call : UnloadCall s.ctx exitReason
  present : m.hasVcpu = true
  readable : AllOk m guestDescriptorFields.length s
  descriptors : DescriptorsShared m s.vcpu.host s.vmcs
  events : EventsQuiet s.vcpu
  guestState : isValidGuestState m s.ctx = true

section Packing

theorem getLsbD_packSegmentSelectors (first second third fourth : U16) {bit : Nat}
    (inside : bit < 64) :
    (packSegmentSelectors first second third fourth).getLsbD bit =
      if bit < 16 then first.getLsbD bit
      else if bit < 32 then second.getLsbD (bit - 16)
      else if bit < 48 then third.getLsbD (bit - 32)
      else fourth.getLsbD (bit - 48) := by
  have beyond (selector : U16) {place : Nat} (above : 16 ≤ place) :
      selector.getLsbD place = false := BitVec.getLsbD_of_ge selector place above
  simp only [packSegmentSelectors, BitVec.getLsbD_or, BitVec.getLsbD_shiftLeft,
    BitVec.getLsbD_setWidth, inside, decide_true, Bool.true_and]
  split
  · next low => simp [show bit < 32 by omega, show bit < 48 by omega, low]
  · next atSecond =>
    rw [beyond first (by omega)]
    split
    · next low => simp [show bit < 48 by omega, low, atSecond, show bit - 16 < 64 by omega]
    · next atThird =>
      rw [beyond second (by omega)]
      split
      · next low => simp [low, atThird, atSecond, show bit - 32 < 64 by omega]
      · next atFourth =>
        rw [beyond third (by omega)]
        simp [atFourth, atThird, atSecond, show bit - 48 < 64 by omega]

/-- The selectors of a packing. -/
theorem extractLsb'_packSegmentSelectors (first second third fourth : U16) :
    (packSegmentSelectors first second third fourth).extractLsb' 0 16 = first ∧
      (packSegmentSelectors first second third fourth).extractLsb' 16 16 = second ∧
      (packSegmentSelectors first second third fourth).extractLsb' 32 16 = third ∧
      (packSegmentSelectors first second third fourth).extractLsb' 48 16 = fourth := by
  refine ⟨?_, ?_, ?_, ?_⟩
  all_goals
    refine BitVec.eq_of_getLsbD_eq fun bit inside => ?_
    rw [BitVec.getLsbD_extractLsb', getLsbD_packSegmentSelectors _ _ _ _ (by omega)]
    simp only [inside, decide_true, Bool.true_and]
  · simp [inside]
  · simp [show 16 + bit < 32 by omega]
  · simp [show ¬32 + bit < 16 by omega, show ¬32 + bit < 32 by omega, show 32 + bit < 48 by omega]
  · simp [show ¬48 + bit < 16 by omega, show ¬48 + bit < 32 by omega, show ¬48 + bit < 48 by omega]

/-- A word is the packing of its four selectors. -/
theorem packSegmentSelectors_extractLsb' (word : U64) :
    packSegmentSelectors (word.extractLsb' 0 16) (word.extractLsb' 16 16) (word.extractLsb' 32 16)
      (word.extractLsb' 48 16) = word := by
  refine BitVec.eq_of_getLsbD_eq fun bit inside => ?_
  rw [getLsbD_packSegmentSelectors _ _ _ _ inside]
  simp only [BitVec.getLsbD_extractLsb']
  split
  · next low => simp [low]
  · split
    · next low => simp [show bit - 16 < 16 by omega, show 16 + (bit - 16) = bit by omega]
    · split
      · next low => simp [show bit - 32 < 16 by omega, show 32 + (bit - 32) = bit by omega]
      · simp [show bit - 48 < 16 by omega, show 48 + (bit - 48) = bit by omega]

/-- Two packings agree iff their selectors do. -/
theorem packSegmentSelectors_eq_iff {first second third fourth : U16} {word : U64} :
    packSegmentSelectors first second third fourth = word ↔
      first = word.extractLsb' 0 16 ∧ second = word.extractLsb' 16 16 ∧
        third = word.extractLsb' 32 16 ∧ fourth = word.extractLsb' 48 16 := by
  constructor
  · rintro rfl
    obtain ⟨atFirst, atSecond, atThird, atFourth⟩ :=
      extractLsb'_packSegmentSelectors first second third fourth
    exact ⟨atFirst.symm, atSecond.symm, atThird.symm, atFourth.symm⟩
  · rintro ⟨rfl, rfl, rfl, rfl⟩
    exact packSegmentSelectors_extractLsb' word

theorem packSegmentSelectors_and_not_ss (first second third fourth : U16) :
    packSegmentSelectors first second third fourth &&& ~~~kSsSelectorMask =
      packSegmentSelectors first 0 third fourth := by
  refine BitVec.eq_of_getLsbD_eq fun bit inside => ?_
  have mask : ∀ bit < 64, (~~~kSsSelectorMask).getLsbD bit = decide (bit < 16 ∨ 32 ≤ bit) := by
    decide
  rw [BitVec.getLsbD_and, getLsbD_packSegmentSelectors _ _ _ _ inside,
    getLsbD_packSegmentSelectors _ _ _ _ inside, mask bit inside]
  split
  · next low => simp [low]
  · next above =>
    split
    · next low => simp [above, show ¬32 ≤ bit by omega]
    · next above => simp [show 32 ≤ bit by omega]

/-- So do they but for SS iff the other three selectors do. -/
theorem packSegmentSelectors_nonSs_eq_iff {first second third fourth : U16} {word : U64} :
    packSegmentSelectors first second third fourth &&& ~~~kSsSelectorMask =
        word &&& ~~~kSsSelectorMask ↔
      first = word.extractLsb' 0 16 ∧ third = word.extractLsb' 32 16 ∧
        fourth = word.extractLsb' 48 16 := by
  have split := packSegmentSelectors_extractLsb' word
  rw [← split, packSegmentSelectors_and_not_ss, packSegmentSelectors_and_not_ss,
    packSegmentSelectors_eq_iff, split]
  obtain ⟨atFirst, atSecond, atThird, atFourth⟩ := extractLsb'_packSegmentSelectors
    (word.extractLsb' 0 16) 0 (word.extractLsb' 32 16) (word.extractLsb' 48 16)
  rw [atFirst, atSecond, atThird, atFourth]
  simp

/-- A register image that holds a selector and nothing above it. -/
theorem eq_setWidth_iff {image : U64} {selector : U16} :
    image = selector.setWidth 64 ↔ image ≤ 0xFFFF ∧ image.setWidth 16 = selector := by
  constructor
  · rintro rfl
    refine ⟨?_, ?_⟩
    · rw [BitVec.le_def, BitVec.toNat_setWidth]
      have bound := selector.isLt
      have top : (0xFFFF : U64).toNat = 0xFFFF := rfl
      omega
    · exact BitVec.setWidth_setWidth_of_le selector (by omega)
  · rintro ⟨short, rfl⟩
    apply BitVec.eq_of_toNat_eq
    have bound : image.toNat ≤ 0xFFFF := short
    simp only [BitVec.toNat_setWidth]
    omega

end Packing

section

variable {m : Machine} {host : HostState} {guest : VmcsField → U64}

theorem selector_of_segmentValid {gdtBase selector limit ar : U64} {gdtLimit : U16}
    {requireCode requireWritableData : Bool}
    (valid : isNativeTeardownSegmentValid m gdtBase gdtLimit selector limit ar requireCode
      requireWritableData = true) : selector ≤ 0xFFFF := by
  simp only [isNativeTeardownSegmentValid, Bool.or_eq_true, decide_eq_true_eq] at valid
  split at valid
  · exact absurd valid Bool.false_ne_true
  · next short => exact BitVec.not_lt.mp fun wide => short (Or.inl (Or.inl wide))

theorem isNonSsSelectorsSame_iff :
    isNonSsSelectorsSame host guest = true ↔
      guest .guestSsSelector ≤ 0xFFFF ∧
        guest .guestCsSelector = packedSelector host.segmentSelectorsLow 0 ∧
        guest .guestDsSelector = packedSelector host.segmentSelectorsLow 2 ∧
        guest .guestEsSelector = packedSelector host.segmentSelectorsLow 3 ∧
        guest .guestFsSelector = packedSelector host.segmentSelectorsHigh 0 ∧
        guest .guestGsSelector = packedSelector host.segmentSelectorsHigh 1 ∧
        guest .guestLdtrSelector = packedSelector host.segmentSelectorsHigh 2 ∧
        guest .guestTrSelector = packedSelector host.segmentSelectorsHigh 3 := by
  rw [isNonSsSelectorsSame]
  simp only [Bool.and_eq_true, decide_eq_true_eq, packedSelector, eq_setWidth_iff,
    packSegmentSelectors_nonSs_eq_iff, packSegmentSelectors_eq_iff, Nat.mul_zero, Nat.mul_one,
    Nat.reduceMul]
  constructor
  · rintro ⟨⟨⟨⟨⟨⟨⟨⟨⟨cs, ss⟩, ds⟩, es⟩, fs⟩, gs⟩, ldtr⟩, tr⟩, sameCs, sameDs, sameEs⟩,
      sameFs, sameGs, sameLdtr, sameTr⟩
    exact ⟨ss, ⟨cs, sameCs⟩, ⟨ds, sameDs⟩, ⟨es, sameEs⟩, ⟨fs, sameFs⟩, ⟨gs, sameGs⟩,
      ⟨ldtr, sameLdtr⟩, tr, sameTr⟩
  · rintro ⟨ss, ⟨cs, sameCs⟩, ⟨ds, sameDs⟩, ⟨es, sameEs⟩, ⟨fs, sameFs⟩, ⟨gs, sameGs⟩,
      ⟨ldtr, sameLdtr⟩, tr, sameTr⟩
    exact ⟨⟨⟨⟨⟨⟨⟨⟨⟨cs, ss⟩, ds⟩, es⟩, fs⟩, gs⟩, ldtr⟩, tr⟩, sameCs, sameDs, sameEs⟩,
      sameFs, sameGs, sameLdtr, sameTr⟩

theorem isDescriptorContractSame_iff :
    isDescriptorContractSame m host guest = true ↔ DescriptorsShared m host guest := by
  simp only [isDescriptorContractSame, isSelectorsSame, isCsSsSame, isIdtSame, isTrSame,
    isGuestSegmentsSafe, Bool.and_eq_true, Bool.or_eq_true, Bool.not_eq_true',
    isNonSsSelectorsSame_iff, decide_eq_true_eq]
  constructor
  · rintro ⟨⟨⟨⟨⟨⟨ss, cs, ds, es, fs, gs, ldtr, tr⟩, safe⟩, ⟨csLimit, csAr⟩, -⟩, gdt⟩, idtBase,
      idtLimit⟩, ⟨trBase, trLimit⟩, trAr⟩
    obtain ⟨csUsable, ssUsable⟩ := safe.resolve_left (by simp [gdt])
    simp only [isGdtSame, Bool.and_eq_true, decide_eq_true_eq] at gdt
    exact ⟨cs, ds, es, fs, gs, ldtr, tr, csLimit, csAr, gdt.1, gdt.2, idtBase, idtLimit, trBase,
      trLimit, trAr, csUsable, ssUsable⟩
  · intro shared
    have gdt : isGdtSame host guest = true := by
      simp only [isGdtSame, shared.gdtBase, shared.gdtLimit, decide_true, Bool.and_self]
    have safe := And.intro shared.csUsable shared.ssUsable
    exact ⟨⟨⟨⟨⟨⟨selector_of_segmentValid shared.ssUsable, shared.cs, shared.ds, shared.es,
      shared.fs, shared.gs, shared.ldtr, shared.tr⟩, Or.inr safe⟩, ⟨shared.csLimit, shared.csAr⟩,
      Or.inr safe⟩,
      gdt⟩, shared.idtBase, shared.idtLimit⟩, ⟨shared.trBase, shared.trLimit⟩, shared.trAr⟩

theorem descriptorRejectMask_eq_zero_iff :
    descriptorRejectMask m host guest = 0#32 ↔ isDescriptorContractSame m host guest = true := by
  simp [descriptorRejectMask, Masks.gather_eq_zero_iff, isDescriptorContractSame, kRejectSelector,
    kRejectCsSsLimitAr, kRejectGdt, kRejectIdt, kRejectTr, and_assoc]

/-- The verdict looks at the fields that were read and at no other. -/
theorem isDescriptorContractSame_congr {contents : VmcsField → U64}
    (agree : ∀ field ∈ guestDescriptorFields, guest field = contents field) :
    descriptorRejectMask m host guest = descriptorRejectMask m host contents ∧
      isDescriptorContractSame m host guest = isDescriptorContractSame m host contents := by
  simp only [guestDescriptorFields, List.forall_mem_cons] at agree
  constructor
  · simp only [descriptorRejectMask, isSelectorsSame, isNonSsSelectorsSame, isGuestSegmentsSafe,
      isCsSsSame, isGdtSame, isIdtSame, isTrSame, agree]
  · simp only [isDescriptorContractSame, isSelectorsSame, isNonSsSelectorsSame,
      isGuestSegmentsSafe, isCsSsSame, isGdtSame, isIdtSame, isTrSame, agree]

end

section

variable (m : Machine) (s : ExitState) (exitReason : U32)

theorem isAuthenticatedUnload_iff :
    isAuthenticatedUnload s.ctx exitReason = true ↔ UnloadCall s.ctx exitReason := by
  simp only [isAuthenticatedUnload, Bool.and_eq_true, decide_eq_true_eq]
  constructor
  · rintro ⟨⟨⟨vmcall, cpl⟩, magic⟩, command⟩
    exact ⟨vmcall, cpl, magic, command⟩
  · intro call
    exact ⟨⟨⟨call.vmcall, call.cpl⟩, call.magic⟩, call.command⟩

theorem noPendingEvent_iff :
    (s.vcpu.lastEventSnapshotValid && noPendingEvent s.vcpu.lastEvent) = true ↔
      EventsQuiet s.vcpu := by
  simp only [noPendingEvent, Bool.and_eq_true, decide_eq_true_eq]
  constructor
  · rintro ⟨complete, ⟨⟨⟨⟨vmEntry, vmExit⟩, vectoring⟩, interruptibility⟩, activity⟩, debug⟩
    exact ⟨complete, vmEntry, vmExit, vectoring, activity, interruptibility, debug⟩
  · intro quiet
    exact ⟨quiet.complete, ⟨⟨⟨⟨quiet.vmEntry, quiet.vmExit⟩, quiet.vectoring⟩,
      quiet.interruptibility⟩, quiet.activity⟩, quiet.pendingDebug⟩

/-- The mask of the event image and the conjunction over it agree. -/
theorem eventRejectMask_eq_zero_iff {event : EventSnapshot} :
    eventRejectMask event = 0#32 ↔ noPendingEvent event = true := by
  simp [eventRejectMask, Masks.gather_eq_zero_iff, noPendingEvent, kRejectVmEntryEvent,
    kRejectExitEvent, kRejectIdtVectoring, kRejectActivity, kRejectInterruptibility,
    kRejectPendingDebug]
  tauto

theorem callRejectMask_eq_zero_iff :
    callRejectMask m s exitReason = 0#32 ↔
      m.hasVcpu = true ∧ s.vcpu.nativeTeardownRejectMask = 0#32 ∧ EventsQuiet s.vcpu ∧
        UnloadCall s.ctx exitReason := by
  have call : Masks.gather [
      (decide (exitReason ≠ vmExitReasonVmcall), kRejectParameters),
      (decide (s.ctx.guestCs &&& 3 ≠ 0), kRejectCpl),
      (decide (s.ctx.rcx ≠ hypervisorMagic) || decide (s.ctx.rdx ≠ vmcallUnload),
        kRejectParameters)] = 0#32 ↔ UnloadCall s.ctx exitReason := by
    rw [← isAuthenticatedUnload_iff]
    simp [Masks.gather_eq_zero_iff, isAuthenticatedUnload, kRejectParameters, kRejectCpl]
    tauto
  rw [callRejectMask, BitVec.or_eq_zero_iff, BitVec.or_eq_zero_iff, call, ← noPendingEvent_iff]
  by_cases present : m.hasVcpu = true
  · by_cases complete : s.vcpu.lastEventSnapshotValid = true
    · simp [present, complete, eventRejectMask_eq_zero_iff, and_assoc]
    · simp [present, complete, kRejectVmcsRead]
  · simp [present, kRejectVmcsRead]

theorem teardownRejectMask_eq_zero_iff :
    teardownRejectMask m s exitReason = 0#32 ↔
      callRejectMask m s exitReason = 0#32 ∧ s.vcpu.nativeTeardownSafe = true ∧
        isValidGuestState m s.ctx = true := by
  rw [teardownRejectMask, BitVec.or_eq_zero_iff]
  refine and_congr_right fun clear => ?_
  have present := ((callRejectMask_eq_zero_iff m s exitReason).mp clear).1
  simp [clear, present, Masks.gather_eq_zero_iff, kRejectDescriptorContract, kRejectGuestState]

/-- The recorded reject mask of the descriptors tells the verdict that stands
beside it. -/
def ContractRecorded (vcpu : VcpuContext) : Prop :=
  vcpu.nativeTeardownRejectMask = 0#32 ↔ vcpu.nativeTeardownSafe = true

/-- What the refresh of the teardown contract leaves: the same call, and a
verdict that is good iff every descriptor field was read and is the host's. -/
theorem updateNativeTeardownContract_verdict (present : m.hasVcpu = true) :
    let now := (updateNativeTeardownContract m s).2
    now.ctx = s.ctx ∧ ContractRecorded now.vcpu ∧
      (EventsQuiet now.vcpu ↔ EventsQuiet s.vcpu) ∧
      (now.vcpu.nativeTeardownSafe = true ↔
        AllOk m guestDescriptorFields.length s ∧ DescriptorsShared m s.vcpu.host s.vmcs) := by
  by_cases readable : AllOk m guestDescriptorFields.length s
  · obtain ⟨values, log, run, contents⟩ := readLocals_succeeded m readable
    have verdict := @isDescriptorContractSame_congr m s.vcpu.host _ _ contents
    have result : updateNativeTeardownContract m s =
        (isDescriptorContractSame m s.vcpu.host s.vmcs, { s with
          log := log
          vcpu := recordTeardownContract (descriptorRejectMask m s.vcpu.host s.vmcs)
            (isDescriptorContractSame m s.vcpu.host s.vmcs) s.vcpu }) := by
      rw [← verdict.1, ← verdict.2]
      simp only [updateNativeTeardownContract, present, Bool.not_true, Bool.false_eq_true, if_false,
        bind, StateT.bind, run]
      rfl
    rw [result]
    refine ⟨rfl, descriptorRejectMask_eq_zero_iff, ?_, ?_⟩
    · rw [← noPendingEvent_iff, ← noPendingEvent_iff s]
      rfl
    · exact isDescriptorContractSame_iff.trans (and_iff_right readable).symm
  · have touched := readLocals_touched m (fun _ => False) s guestDescriptorFields s (Touched.refl s)
    rcases run : readLocals m guestDescriptorFields s with ⟨values, now⟩
    obtain rfl : values = none := by
      have failed := readLocals_failed m readable
      rwa [run] at failed
    have same : Touched (fun _ => False) s now := by
      have result : Touched (fun _ => False) s (readLocals m guestDescriptorFields s).2 := touched
      rwa [run] at result
    have result : updateNativeTeardownContract m s =
        (false, { now with vcpu := recordTeardownContract kRejectVmcsRead false now.vcpu }) := by
      simp only [updateNativeTeardownContract, present, Bool.not_true, Bool.false_eq_true, if_false,
        bind, StateT.bind, run]
      rfl
    rw [result]
    refine ⟨same.ctx, ?_, ?_, ?_⟩
    · simp [ContractRecorded, recordTeardownContract, kRejectVmcsRead]
    · have events : now.vcpu.lastEventSnapshotValid = s.vcpu.lastEventSnapshotValid ∧
          now.vcpu.lastEvent = s.vcpu.lastEvent := by
        rw [same.vcpu]
        exact ⟨rfl, rfl⟩
      rw [← noPendingEvent_iff, ← noPendingEvent_iff s]
      simp only [recordTeardownContract, events]
    · refine iff_of_false (by simp [recordTeardownContract]) fun both => readable both.1

/-- An authenticated unload is answered by the gate, after the contract has been
refreshed. -/
theorem requestAuthenticatedUnload_authenticated (call : UnloadCall s.ctx exitReason) :
    (requestAuthenticatedUnload m exitReason s).2 =
      answerUnload m true exitReason (updateNativeTeardownContract m s).2 := by
  have authenticated := (isAuthenticatedUnload_iff s exitReason).mpr call
  simp only [requestAuthenticatedUnload, bind, StateT.bind, get, getThe, MonadStateOf.get,
    StateT.get, pure, authenticated, if_true]
  rfl

theorem requestAuthenticatedUnload_refused (call : ¬UnloadCall s.ctx exitReason) :
    (requestAuthenticatedUnload m exitReason s).2 = answerUnload m false exitReason s := by
  have refused : isAuthenticatedUnload s.ctx exitReason = false :=
    Bool.eq_false_iff.mpr fun authenticated =>
      call ((isAuthenticatedUnload_iff s exitReason).mp authenticated)
  simp only [requestAuthenticatedUnload, bind, StateT.bind, get, getThe, MonadStateOf.get,
    StateT.get, pure, refused]
  rfl

/-- The conjunction that decides the answer. -/
theorem answerUnload_aborts_iff :
    (answerUnload m true exitReason s).ctx.abortVm = true ↔
      m.hasVcpu = true ∧ s.vcpu.nativeTeardownSafe = true ∧ EventsQuiet s.vcpu ∧
        isValidGuestState m s.ctx = true := by
  rw [← noPendingEvent_iff]
  simp only [answerUnload, unloadFlags, Bool.true_and, Bool.and_assoc]
  split
  · next gate =>
    refine iff_of_true rfl ?_
    simp only [Bool.and_eq_true] at gate ⊢
    exact ⟨gate.1, gate.2.1, ⟨gate.2.2.2.1, gate.2.2.2.2.1⟩, gate.2.2.2.2.2⟩
  · next shut =>
    refine iff_of_false (by simp) ?_
    rintro ⟨present, safe, events, guestState⟩
    simp only [Bool.and_eq_true] at events shut
    exact shut ⟨present, safe, present, events.1, events.2, guestState⟩

/-- An answer that does not unload parks the vCPU iff the mask is fatal. -/
theorem answerUnload_resumes_iff
    (shut : (answerUnload m true exitReason s).ctx.abortVm ≠ true) :
    (answerUnload m true exitReason s).ctx.haltVm = false ↔
      teardownRejectMask m s exitReason &&& kFatalTeardownRejectBits = 0 := by
  simp only [answerUnload, unloadFlags, Bool.true_and] at shut ⊢
  split at shut
  · exact absurd rfl shut
  · next closed => simp [closed]

/-- Without a vCPU record there is no event image, which is fatal. -/
theorem teardownRejectMask_absent (absent : m.hasVcpu = false) :
    teardownRejectMask m s exitReason &&& kFatalTeardownRejectBits ≠ 0 := by
  refine Masks.and_ne_zero_iff.mpr ⟨14, ?_, by decide⟩
  have bit : kRejectVmcsRead.getLsbD 14 = true := by decide
  simp [teardownRejectMask, callRejectMask, absent, bit]

/-- The mask and the conjunction agree, given that the descriptor verdict and
its mask do. -/
theorem teardownRejectMask_eq_zero_iff_aborts (recorded : ContractRecorded s.vcpu)
    (call : UnloadCall s.ctx exitReason) :
    teardownRejectMask m s exitReason = 0#32 ↔
      (answerUnload m true exitReason s).ctx.abortVm = true := by
  rw [teardownRejectMask_eq_zero_iff, callRejectMask_eq_zero_iff, answerUnload_aborts_iff]
  constructor
  · rintro ⟨⟨present, -, events, -⟩, safe, guestState⟩
    exact ⟨present, safe, events, guestState⟩
  · rintro ⟨present, safe, events, guestState⟩
    exact ⟨⟨present, recorded.mpr safe, events, call⟩, safe, guestState⟩

/-- The gate of the request is the conjunction over the refreshed contract. -/
theorem teardownGate_iff_aborts (call : UnloadCall s.ctx exitReason) :
    TeardownGate m s exitReason ↔
      (answerUnload m true exitReason (updateNativeTeardownContract m s).2).ctx.abortVm = true := by
  rw [answerUnload_aborts_iff]
  by_cases present : m.hasVcpu = true
  · obtain ⟨ctx, -, events, safe⟩ := updateNativeTeardownContract_verdict m s present
    rw [ctx, events, safe]
    constructor
    · intro gate
      exact ⟨present, ⟨gate.readable, gate.descriptors⟩, gate.events, gate.guestState⟩
    · rintro ⟨-, ⟨readable, descriptors⟩, quiet, guestState⟩
      exact ⟨call, present, readable, descriptors, quiet, guestState⟩
  · exact iff_of_false (fun gate => present gate.present) fun open_ => present open_.1

/-- The unload request sets `AbortVm` exactly behind the gate; the recorded
reject mask is empty exactly then; and an authenticated request that is not let
through resumes the guest unless a fatal bit stands in the mask. -/
theorem requestAuthenticatedUnload_gate :
    ((requestAuthenticatedUnload m exitReason s).2.ctx.abortVm = true ↔
        TeardownGate m s exitReason) ∧
      (m.hasVcpu = true →
        ((requestAuthenticatedUnload m exitReason s).2.vcpu.nativeTeardownRejectMask = 0 ↔
          TeardownGate m s exitReason)) ∧
      (UnloadCall s.ctx exitReason → ¬TeardownGate m s exitReason →
        (requestAuthenticatedUnload m exitReason s).2.ctx.abortVm = false ∧
          ((requestAuthenticatedUnload m exitReason s).2.ctx.haltVm = false ↔
            m.hasVcpu = true ∧
              (requestAuthenticatedUnload m exitReason s).2.vcpu.nativeTeardownRejectMask &&&
                kFatalTeardownRejectBits = 0)) := by
  have stored (authenticated : Bool) (t : ExitState) (present : m.hasVcpu = true) :
      (answerUnload m authenticated exitReason t).vcpu.nativeTeardownRejectMask =
        teardownRejectMask m t exitReason := by
    simp only [answerUnload, present, if_true]
  by_cases call : UnloadCall s.ctx exitReason
  · rw [requestAuthenticatedUnload_authenticated m s exitReason call]
    have gate := teardownGate_iff_aborts m s exitReason call
    refine ⟨gate.symm, fun present => ?_, fun _ shut => ?_⟩
    · obtain ⟨ctx, recorded, -, -⟩ := updateNativeTeardownContract_verdict m s present
      rw [stored true _ present, gate]
      refine teardownRejectMask_eq_zero_iff_aborts m _ exitReason recorded ?_
      rwa [ctx]
    · have unaborted := mt gate.mpr shut
      refine ⟨Bool.eq_false_iff.mpr unaborted, ?_⟩
      rw [answerUnload_resumes_iff m _ exitReason unaborted]
      by_cases present : m.hasVcpu = true
      · rw [stored true _ present, and_iff_right present]
      · have absent : m.hasVcpu = false := Bool.eq_false_iff.mpr present
        exact iff_of_false (teardownRejectMask_absent m _ exitReason absent) fun both =>
          present both.1
  · rw [requestAuthenticatedUnload_refused m s exitReason call]
    have shut : ¬TeardownGate m s exitReason := fun gate => call gate.call
    refine ⟨iff_of_false (by simp [answerUnload, unloadFlags]) shut, fun present => ?_,
      fun impossible => absurd impossible call⟩
    rw [stored false _ present]
    refine iff_of_false (fun clear => ?_) shut
    have parts := (teardownRejectMask_eq_zero_iff m s exitReason).mp clear
    exact call ((callRejectMask_eq_zero_iff m s exitReason).mp parts.1).2.2.2

end

/-- A processor whose GDT has a kernel code segment behind selector 10h. -/
def codeSegmentMachine : Machine :=
  { quietMachine with
    readMsr := fun msr =>
      if msr = msrIa32VmxCr0Fixed1 || msr = msrIa32VmxCr4Fixed1 then some (~~~0) else some 0
    memory := fun address => if address = 0x2015 then 0x9B else 0
    getSegmentLimit := fun _ => 0xFFFFF
    getSegmentAr := fun _ => 0xA09B }

/-- The unload VMCALL of a guest that runs in its launch environment, with a
debug exception pending. -/
def pendingUnload : ExitState :=
  { cpuidExit with
    ctx := { zeroContext with
      rcx := hypervisorMagic
      rdx := vmcallUnload
      guestRip := 0x10000
      guestRsp := 0x200
      rflags := 2
      guestCs := 0x10
      guestCr3 := 0x1000
      guestCr4 := 0x2020
      guestCr0 := 0x80000001
      guestEfer := 0x500
      guestDr7 := 0x400 }
    vcpu := { zeroVcpu with
      host := { zeroVcpu.host with
        segmentSelectorsLow := 0x10
        gdtBase := 0x2000
        gdtLimit := 0x7F
        csLimit := 0xFFFFF
        csAr := 0xA09B }
      lastEvent := { zeroVcpu.lastEvent with guestPendingDbgExceptions := 0x4000 }
      lastEventSnapshotValid := true }
    vmcs := fun
      | .guestCsSelector => 0x10
      | .guestCsLimit => 0xFFFFF
      | .guestCsArBytes => 0xA09B
      | .guestSsArBytes => 0x10000
      | .guestGdtrBase => 0x2000
      | .guestGdtrLimit => 0x7F
      | _ => 0 }

/-- The caller has to try again, and the mask says why. -/
theorem requestAuthenticatedUnload_gate_pending :
    (requestAuthenticatedUnload codeSegmentMachine vmExitReasonVmcall
        pendingUnload).2.vcpu.nativeTeardownRejectMask = kRejectPendingDebug ∧
      (requestAuthenticatedUnload codeSegmentMachine vmExitReasonVmcall
        pendingUnload).2.ctx.abortVm = false ∧
      (requestAuthenticatedUnload codeSegmentMachine vmExitReasonVmcall
        pendingUnload).2.ctx.haltVm = false := by
  have gate := requestAuthenticatedUnload_gate codeSegmentMachine pendingUnload vmExitReasonVmcall
  have call : UnloadCall pendingUnload.ctx vmExitReasonVmcall := ⟨rfl, rfl, rfl, rfl⟩
  have shut : ¬TeardownGate codeSegmentMachine pendingUnload vmExitReasonVmcall :=
    fun gate => absurd gate.events.pendingDebug (by decide)
  have mask : (requestAuthenticatedUnload codeSegmentMachine vmExitReasonVmcall
      pendingUnload).2.vcpu.nativeTeardownRejectMask = kRejectPendingDebug := by decide +kernel
  obtain ⟨unaborted, resumes⟩ := gate.2.2 call shut
  exact ⟨mask, unaborted, resumes.mpr ⟨rfl, by rw [mask]; decide⟩⟩

end Knhv.Vmx
