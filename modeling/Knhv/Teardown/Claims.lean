import Knhv.Lib.Exclusive
import Knhv.Teardown.Moves

namespace Knhv.Teardown

namespace Words

/-- No later access changes the state word, but for a park. -/
def IsFinal (w : Words) : Prop := w.state = .stopped ∨ w.state = .parked

/-- The stage word is not open to a claim. -/
def IsTaken (w : Words) : Prop :=
  w.launchStage = .teardown ∨ w.launchStage = .parked ∨ w.launchStage = .stopped ∧ w.IsFinal

end Words

/-- Who holds the vCPU, and what the words say while he does. -/
structure Claims (s : Vcpu) : Prop where
  stageOwner : Exclusive Point.holdsStage s.points
  stageTaken : ∀ a, (s.points a).holdsStage = true → s.words.IsTaken
  stateOwner : Exclusive Point.holdsState s.points
  stateTaken : ∀ a, (s.points a).holdsState = true → s.words.state = .tearingDown ∨
    s.words.state = .stopped ∧ s.points a = .publishStopped ∨ s.words.state = .parked
  quiesced : s.words.teardownQuiesced = true → s.words.state ≠ .launched ∧
    ∀ a, (s.points a).holdsState = true → s.points a = .publishStopped
  marked : ∀ a, (s.points a).isMarked = true → s.words.teardownQuiesced = true
  settled : ∀ a, (s.points a).isSettled = true → s.words.IsFinal
  restoring : ∀ a, (s.points a).isRestoring = true → s.words.teardownRequest = false

variable {s : Vcpu} {k : Nat} {w : Words} {p : Point} {next : Words × Point}

@[simp] theorem Vcpu.put_words : (s.put k next).words = next.1 := rfl

theorem Vcpu.put_points : (s.put k next).points = Function.update s.points k next.2 := rfl

/-- A move is over for all callers if it is over for the one that moves and for
the others. -/
theorem Vcpu.put_all {P : Nat → Point → Prop} (own : P k next.2)
    (others : ∀ a, a ≠ k → P a (s.points a)) (a : Nat) : P a ((s.put k next).points a) := by
  rw [Vcpu.put_points]
  by_cases mine : a = k
  · subst mine
    rw [Function.update_self]
    exact own
  · rw [Function.update_of_ne mine]
    exact others a mine

theorem Words.canRun_iff : w.canRun k = true ↔
    w.halted = false ∧ (w.root = none ∨ w.root = some k) := by
  simp [Words.canRun]

theorem Move.isFinal (move : Move k w p next) (final : w.IsFinal) : next.1.IsFinal := by
  unfold Words.IsFinal at final ⊢
  rcases move.state with same | parked | claimed | restored | stopped <;> simp_all

theorem Move.isTaken (move : Move k w p next) (taken : w.IsTaken)
    (kept : p.holdsStage = true → next.2.holdsStage = true)
    (settled : p.isSettled = true → w.IsFinal) : next.1.IsTaken := by
  have final := move.isFinal
  unfold Words.IsTaken at taken ⊢
  rcases move.stage with same | ⟨_, parked, _⟩ | running | claimed | released | ⟨last, stopped⟩
  · rw [same]
    exact taken.imp_right (Or.imp_right (And.imp_right final))
  · exact .inr (.inl parked)
  · rw [running.2.1] at taken
    simp at taken
  · exact .inl claimed.2.2
  · rw [kept released.1] at released
    simp at released
  · refine .inr (.inr ⟨stopped.2, final (settled ?_)⟩)
    rcases last with rfl | rfl <;> rfl

namespace Claims

variable (claims : Claims s) (move : Move k s.words (s.points k) next)

include claims move

theorem stageOwner_put : Exclusive Point.holdsStage (s.put k next).points := by
  refine claims.stageOwner.update fun mine => ?_
  rcases move.holdsStage mine with already | ⟨_, opened, _⟩
  · exact .inl already
  · refine .inr fun a _ => ?_
    by_contra theirs
    have taken := claims.stageTaken a (by simpa using theirs)
    simp [Words.IsTaken, opened] at taken

theorem stateOwner_put : Exclusive Point.holdsState (s.put k next).points := by
  refine claims.stateOwner.update fun mine => ?_
  rcases move.holdsState mine with already | ⟨_, opened, _⟩
  · exact .inl already
  · refine .inr fun a _ => ?_
    by_contra theirs
    have taken := claims.stateTaken a (by simpa using theirs)
    simp [opened] at taken

theorem stageTaken_put (a : Nat) :
    ((s.put k next).points a).holdsStage = true → next.1.IsTaken := by
  refine Vcpu.put_all (P := fun _ p => p.holdsStage = true → next.1.IsTaken) (fun mine => ?_)
    (fun b other theirs => ?_) a
  · rcases move.holdsStage mine with already | ⟨_, _, taken, _⟩
    · exact move.isTaken (claims.stageTaken k already) (fun _ => mine) (claims.settled k)
    · exact .inl taken
  · refine move.isTaken (claims.stageTaken b theirs) (fun mine => ?_) (claims.settled k)
    exact absurd (claims.stageOwner b k theirs mine) other

theorem stateTaken_put (a : Nat) : ((s.put k next).points a).holdsState = true →
    next.1.state = .tearingDown ∨
      next.1.state = .stopped ∧ (s.put k next).points a = .publishStopped ∨
      next.1.state = .parked := by
  refine Vcpu.put_all (P := fun _ p => p.holdsState = true → next.1.state = .tearingDown ∨
    next.1.state = .stopped ∧ p = .publishStopped ∨ next.1.state = .parked) (fun mine => ?_)
    (fun b other theirs => ?_) a
  · rcases move.holdsState mine with already | ⟨_, _, taken, _⟩
    · have kept : ¬(s.points k = .publishStopped ∨ s.points k = .restoreState) := fun last => by
        rw [move.released last] at mine
        cases mine
      have taken := (claims.stateTaken k already).imp_right
        (Or.resolve_left · fun stopped => kept (.inl stopped.2))
      rcases move.state with same | parked | claimed | restored | ⟨last, before, stopped⟩
      · rw [same]
        exact taken.imp_right .inr
      · exact .inr (.inr parked.2.1)
      · exact .inl claimed.2.2
      · exact absurd (.inr restored.1) kept
      · rcases last with last | last
        · exact absurd (.inl last) kept
        · simp [last, Point.holdsState] at already
    · exact .inl taken
  · have taken := claims.stateTaken b theirs
    have free : (s.points k).holdsState = false := by
      by_contra mine
      exact other (claims.stateOwner b k theirs (by simpa using mine))
    rcases move.state with same | parked | claimed | restored | ⟨last, before, stopped, _⟩
    · rwa [same]
    · exact .inr (.inr parked.2.1)
    · exact .inl claimed.2.2
    · simp [restored.1, Point.holdsState] at free
    · refine .inr (.inl ⟨stopped, (claims.quiesced (claims.marked k ?_)).2 b theirs⟩)
      rcases last with last | last
      · simp [last, Point.holdsState] at free
      · rw [last]
        rfl

theorem quiesced_put (quiesced : next.1.teardownQuiesced = true) :
    next.1.state ≠ .launched ∧ ∀ a, ((s.put k next).points a).holdsState = true →
      (s.put k next).points a = .publishStopped := by
  rcases move.quiesced with same | ⟨here, there, _, kept⟩
  · obtain ⟨closed, waits⟩ := claims.quiesced (same ▸ quiesced)
    constructor
    · rcases move.state with same | parked | claimed | ⟨here, _⟩ | stopped
      · rwa [same]
      · simp [parked.2.1]
      · simp [claimed.2.2]
      · have last := waits k (by rw [here]; rfl)
        rw [here] at last
        cases last
      · simp [stopped.2.2.1]
    · refine Vcpu.put_all (P := fun _ p => p.holdsState = true → p = .publishStopped)
        (fun mine => ?_) (fun b _ theirs => waits b theirs)
      rcases move.holdsState mine with already | ⟨_, opened, _⟩
      · rw [move.released (.inl (waits k already))] at mine
        cases mine
      · exact absurd opened closed
  · have mine : (s.points k).holdsState = true := by rw [here]; rfl
    constructor
    · rw [kept]
      rcases claims.stateTaken k mine with taken | taken | taken <;> simp [taken]
    · refine Vcpu.put_all (P := fun _ p => p.holdsState = true → p = .publishStopped)
        (fun _ => there) (fun b other theirs => ?_)
      exact absurd (claims.stateOwner b k theirs mine) other

theorem marked_put (a : Nat) :
    ((s.put k next).points a).isMarked = true → next.1.teardownQuiesced = true := by
  have stays (before : s.words.teardownQuiesced = true) : next.1.teardownQuiesced = true := by
    rcases move.quiesced with same | ⟨_, _, now, _⟩
    · rwa [same]
    · exact now
  refine Vcpu.put_all (P := fun _ p => p.isMarked = true → next.1.teardownQuiesced = true)
    (fun mine => ?_) (fun b _ theirs => stays (claims.marked b theirs)) a
  rcases move.isMarked mine with now | already
  · exact now
  · exact stays (claims.marked k already)

theorem settled_put (a : Nat) :
    ((s.put k next).points a).isSettled = true → next.1.IsFinal := by
  refine Vcpu.put_all (P := fun _ p => p.isSettled = true → next.1.IsFinal)
    (fun mine => .inl (move.isSettled mine)) (fun b _ theirs => ?_) a
  exact move.isFinal (claims.settled b theirs)

theorem restoring_put (a : Nat) :
    ((s.put k next).points a).isRestoring = true → next.1.teardownRequest = false := by
  refine Vcpu.put_all (P := fun _ p => p.isRestoring = true → next.1.teardownRequest = false)
    (fun mine => ?_) (fun b other theirs => ?_) a
  · rcases move.isRestoring mine with dropped | ⟨here, same⟩
    · exact dropped
    · rw [same]
      exact claims.restoring k (by rw [here]; rfl)
  · have before := claims.restoring b theirs
    rcases move.request with ⟨same, _⟩ | ⟨here, _⟩ | ⟨_, dropped⟩ | ⟨_, pending, _⟩
    · rwa [same]
    -- a caller that publishes has the state claim, which the restoring one still has
    · have holds := Point.holdsState_of_isRestoring theirs
      exact absurd (claims.stateOwner b k holds (by rw [here]; rfl)) other
    · exact dropped
    · rw [before] at pending
      cases pending

theorem put : Claims (s.put k next) where
  stageOwner := claims.stageOwner_put move
  stageTaken := claims.stageTaken_put move
  stateOwner := claims.stateOwner_put move
  stateTaken := claims.stateTaken_put move
  quiesced := claims.quiesced_put move
  marked := claims.marked_put move
  settled := claims.settled_put move
  restoring := claims.restoring_put move

end Claims

theorem launched_claims : Claims launched where
  stageOwner := nofun
  stageTaken := nofun
  stateOwner := nofun
  stateTaken := nofun
  quiesced := nofun
  marked := nofun
  settled := nofun
  restoring := nofun

end Knhv.Teardown
