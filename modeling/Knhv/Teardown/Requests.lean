import Knhv.Teardown.Claims

namespace Knhv.Teardown

/-- What the events so far say of the callers and of the pending request. -/
structure Requests (s : Vcpu) : Prop where
  stageWon : ∀ a, (s.points a).holdsStage = true → .stageWon a ∈ s.words.log
  stateWon : ∀ a, (s.points a).holdsState = true →
    .stageWon a ∈ s.words.log ∧ .stateWon a ∈ s.words.log
  early : ∀ a, (s.points a).isEarly = true → .published a ∉ s.words.log
  consumed : ∀ a, .authorised (some a) ∈ s.words.log → .published a ∈ s.words.log
  owner : s.words.teardownRequest = true → ∃ a, s.words.requestOwner = some a ∧
    .stageWon a ∈ s.words.log ∧ .stateWon a ∈ s.words.log ∧ .published a ∈ s.words.log ∧
    .authorised (some a) ∉ s.words.log
  answer : ∀ a, (s.points a).awaitsAnswer = true →
    s.words.teardownRequest = true ∧ s.words.requestOwner = some a ∨
      .authorised (some a) ∈ s.words.log
  native : ∀ a, (s.points a).isNative = true → .sawNative a ∈ s.words.log
  answered : ∀ a, (s.points a).isAnswered = true → .authorised (some a) ∈ s.words.log
  quiesced : s.words.teardownQuiesced = true →
    ∃ a, .authorised (some a) ∈ s.words.log ∧ .sawNative a ∈ s.words.log
  vmxoff : ∀ a caller, s.points a = .vmxoff caller → ∃ b, .authorised (some b) ∈ s.words.log
  vmxe : s.words.vmxe = false → ∃ b, .authorised (some b) ∈ s.words.log
  stopped : s.words.state = .stopped →
    (∃ a, .stopped a ∈ s.words.log) ∨ .markedStopped ∈ s.words.log

theorem launched_requests : Requests launched where
  stageWon := nofun
  stateWon := nofun
  early := nofun
  consumed := nofun
  owner := nofun
  answer := nofun
  native := nofun
  answered := nofun
  quiesced := nofun
  vmxoff := nofun
  vmxe := nofun
  stopped := nofun

variable {s : Vcpu} {k : Nat} {w : Words} {p : Point} {next : Words × Point}

theorem Move.remembers (move : Move k w p next) {event : Event} (before : event ∈ w.log) :
    event ∈ next.1.log := by
  rcases move.log with same | ⟨_, _, grown⟩
  · rwa [same]
  · rw [grown]
    exact List.mem_cons_of_mem _ before

theorem Move.fresh (move : Move k w p next) {event : Event} (now : event ∈ next.1.log) :
    event ∈ w.log ∨ Emits k w p event := by
  rcases move.log with same | ⟨new, emits, grown⟩
  · rw [same] at now
    exact .inl now
  · rw [grown] at now
    rcases List.mem_cons.mp now with rfl | before
    · exact .inr emits
    · exact .inl before

theorem Emits.of_published {a : Nat} (emits : Emits k w p (.published a)) :
    a = k ∧ p = .publishRequest := by
  cases emits
  exact ⟨rfl, rfl⟩

theorem Emits.of_authorised {owner : Option Nat} (emits : Emits k w p (.authorised owner)) :
    w.teardownRequest = true ∧ owner = w.requestOwner := by
  cases emits with
  | authorised _ pending => exact ⟨pending, rfl⟩

/-- A request stays pending with its caller until it is consumed, unless a
caller publishes another one or drops it. -/
theorem Move.answer (move : Move k w p next) {a : Nat}
    (before : w.teardownRequest = true ∧ w.requestOwner = some a ∨ .authorised (some a) ∈ w.log)
    (quiet : p ≠ .publishRequest ∧ p ≠ .dropRequest) :
    next.1.teardownRequest = true ∧ next.1.requestOwner = some a ∨
      .authorised (some a) ∈ next.1.log := by
  rcases before with ⟨pending, owned⟩ | consumed
  · rcases move.request with ⟨same, kept, _⟩ | ⟨here, _⟩ | ⟨here, _⟩ | ⟨_, _, _, grown⟩
    · exact .inl ⟨same ▸ pending, kept ▸ owned⟩
    · exact absurd here quiet.1
    · exact absurd here quiet.2
    · rw [grown, owned]
      exact .inr List.mem_cons_self
  · exact .inr (move.remembers consumed)

namespace Requests

variable (requests : Requests s) (move : Move k s.words (s.points k) next)

include requests move

theorem stageWon_put (a : Nat) :
    ((s.put k next).points a).holdsStage = true → .stageWon a ∈ next.1.log := by
  refine Vcpu.put_all (P := fun a p => p.holdsStage = true → .stageWon a ∈ next.1.log)
    (fun mine => ?_) (fun b _ theirs => move.remembers (requests.stageWon b theirs)) a
  rcases move.holdsStage mine with already | ⟨_, _, _, won⟩
  · exact move.remembers (requests.stageWon k already)
  · exact won

theorem stateWon_put (a : Nat) : ((s.put k next).points a).holdsState = true →
    .stageWon a ∈ next.1.log ∧ .stateWon a ∈ next.1.log := by
  refine Vcpu.put_all (P := fun a p => p.holdsState = true →
    .stageWon a ∈ next.1.log ∧ .stateWon a ∈ next.1.log) (fun mine => ?_)
    (fun b _ theirs => (requests.stateWon b theirs).imp move.remembers move.remembers) a
  rcases move.holdsState mine with already | ⟨here, _, _, won⟩
  · exact (requests.stateWon k already).imp move.remembers move.remembers
  · exact ⟨move.remembers (requests.stageWon k (by rw [here]; rfl)), won⟩

theorem early_put (a : Nat) :
    ((s.put k next).points a).isEarly = true → .published a ∉ next.1.log := by
  refine Vcpu.put_all (P := fun a p => p.isEarly = true → .published a ∉ next.1.log)
    (fun mine now => ?_) (fun b other theirs now => ?_) a
  · obtain ⟨already, different⟩ := move.isEarly mine
    rcases move.fresh now with before | emits
    · exact requests.early k already before
    · exact different emits.of_published.2
  · rcases move.fresh now with before | emits
    · exact requests.early b theirs before
    · exact other emits.of_published.1

theorem consumed_put (a : Nat) (now : .authorised (some a) ∈ next.1.log) :
    .published a ∈ next.1.log := by
  apply move.remembers
  rcases move.fresh now with before | emits
  · exact requests.consumed a before
  · obtain ⟨pending, same⟩ := emits.of_authorised
    obtain ⟨b, owned, _, _, published, _⟩ := requests.owner pending
    rw [owned] at same
    cases same
    exact published

theorem owner_put (pending : next.1.teardownRequest = true) :
    ∃ a, next.1.requestOwner = some a ∧ .stageWon a ∈ next.1.log ∧ .stateWon a ∈ next.1.log ∧
      .published a ∈ next.1.log ∧ .authorised (some a) ∉ next.1.log := by
  rcases move.request with ⟨same, kept, quiet⟩ | ⟨here, _, mine, grown⟩ | ⟨_, dropped⟩ |
    ⟨_, _, dropped, _⟩
  · obtain ⟨a, owned, stage, state, published, open'⟩ := requests.owner (same ▸ pending)
    refine ⟨a, kept ▸ owned, move.remembers stage, move.remembers state,
      move.remembers published, fun now => open' (quiet _ now)⟩
  · have won := requests.stateWon k (by rw [here]; rfl)
    refine ⟨k, mine, move.remembers won.1, move.remembers won.2, ?_, ?_⟩
    · rw [grown]
      exact List.mem_cons_self
    · rw [grown]
      intro now
      rcases List.mem_cons.mp now with same | before
      · cases same
      -- an earlier authorisation would need an earlier publication
      · exact requests.early k (by rw [here]; rfl) (requests.consumed k before)
  · rw [dropped] at pending
    cases pending
  · rw [dropped] at pending
    cases pending

theorem answer_put (claims : Claims s) (a : Nat) :
    ((s.put k next).points a).awaitsAnswer = true →
      next.1.teardownRequest = true ∧ next.1.requestOwner = some a ∨
        .authorised (some a) ∈ next.1.log := by
  refine Vcpu.put_all (P := fun a p => p.awaitsAnswer = true →
    next.1.teardownRequest = true ∧ next.1.requestOwner = some a ∨
      .authorised (some a) ∈ next.1.log) (fun mine => ?_) (fun b other theirs => ?_) a
  · rcases move.awaitsAnswer mine with already | ⟨_, pending, owned⟩
    · refine move.answer (requests.answer k already) ⟨fun here => ?_, fun here => ?_⟩ <;>
      · rw [here] at already
        cases already
    · exact .inl ⟨pending, owned⟩
  · have holds := Point.holdsState_of_awaitsAnswer theirs
    refine move.answer (requests.answer b theirs) ⟨fun here => ?_, fun here => ?_⟩ <;>
      exact other (claims.stateOwner b k holds (by rw [here]; rfl))

theorem native_put (a : Nat) :
    ((s.put k next).points a).isNative = true → .sawNative a ∈ next.1.log := by
  refine Vcpu.put_all (P := fun a p => p.isNative = true → .sawNative a ∈ next.1.log)
    (fun mine => ?_) (fun b _ theirs => move.remembers (requests.native b theirs)) a
  rcases move.isNative mine with already | now
  · exact move.remembers (requests.native k already)
  · exact now

theorem answered_put (a : Nat) :
    ((s.put k next).points a).isAnswered = true → .authorised (some a) ∈ next.1.log := by
  refine Vcpu.put_all (P := fun a p => p.isAnswered = true → .authorised (some a) ∈ next.1.log)
    (fun mine => ?_) (fun b _ theirs => move.remembers (requests.answered b theirs)) a
  apply move.remembers
  rcases move.isAnswered mine with already | ⟨here, gone⟩
  · exact requests.answered k already
  · have awaits : (s.points k).awaitsAnswer = true := by rw [here]; rfl
    refine (requests.answer k awaits).resolve_left fun pending => ?_
    rw [gone] at pending
    cases pending.1

theorem quiesced_put (quiesced : next.1.teardownQuiesced = true) :
    ∃ a, .authorised (some a) ∈ next.1.log ∧ .sawNative a ∈ next.1.log := by
  have seen : ∃ a, .authorised (some a) ∈ s.words.log ∧ .sawNative a ∈ s.words.log := by
    rcases move.quiesced with same | ⟨here, _⟩
    · exact requests.quiesced (same ▸ quiesced)
    · exact ⟨k, requests.answered k (by rw [here]; rfl), requests.native k (by rw [here]; rfl)⟩
  obtain ⟨a, consumed, native⟩ := seen
  exact ⟨a, move.remembers consumed, move.remembers native⟩

theorem vmxoff_put (a : Nat) (caller : Bool) :
    (s.put k next).points a = .vmxoff caller → ∃ b, .authorised (some b) ∈ next.1.log := by
  refine Vcpu.put_all (P := fun _ p => p = .vmxoff caller →
    ∃ b, .authorised (some b) ∈ next.1.log) (fun mine => ?_) (fun b _ theirs => ?_) a
  · obtain ⟨pending, consumed⟩ := move.vmxoff mine
    obtain ⟨b, owned, _⟩ := requests.owner pending
    exact ⟨b, owned ▸ consumed⟩
  · exact (requests.vmxoff b caller theirs).imp fun _ => move.remembers

theorem vmxe_put (off : next.1.vmxe = false) : ∃ b, .authorised (some b) ∈ next.1.log := by
  have authorised : ∃ b, .authorised (some b) ∈ s.words.log := by
    rcases move.vmxe with same | ⟨caller, here⟩
    · exact requests.vmxe (same ▸ off)
    · exact requests.vmxoff k caller here
  exact authorised.imp fun _ => move.remembers

theorem stopped_put (stopped : next.1.state = .stopped) :
    (∃ a, .stopped a ∈ next.1.log) ∨ .markedStopped ∈ next.1.log := by
  rcases move.state with same | ⟨_, other, _⟩ | ⟨_, _, other⟩ | ⟨_, _, other⟩ | ⟨_, _, _, now⟩
  · exact (requests.stopped (same ▸ stopped)).imp (Exists.imp fun _ => move.remembers)
      move.remembers
  · rw [other] at stopped
    cases stopped
  · rw [other] at stopped
    cases stopped
  · rw [other] at stopped
    cases stopped
  · exact now.imp_left fun mine => ⟨k, mine⟩

theorem put (claims : Claims s) : Requests (s.put k next) where
  stageWon := requests.stageWon_put move
  stateWon := requests.stateWon_put move
  early := requests.early_put move
  consumed := requests.consumed_put move
  owner := requests.owner_put move
  answer := requests.answer_put move claims
  native := requests.native_put move
  answered := requests.answered_put move
  quiesced := requests.quiesced_put move
  vmxoff := requests.vmxoff_put move
  vmxe := requests.vmxe_put move
  stopped := requests.stopped_put move

end Requests

end Knhv.Teardown
