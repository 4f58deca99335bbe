import Mathlib
import Knhv.Interrupt.Posted
import Knhv.Interrupt.Selection

namespace Knhv.Interrupt

def postInterrupt (descriptor : Option PostedInterruptDescriptor) (vector : U32)
    (generation : U64) : Bool × Option PostedInterruptDescriptor :=
  match descriptor with
  | none => (false, none)
  | some descriptor =>
    if !isPostedInterruptValid descriptor || vector < kInterruptVectorFirstExternal ||
        kInterruptVectorCount ≤ vector || descriptor.generation != generation then
      (false, some descriptor)
    else
      let word : Fin 8 := ⟨(vector >>> 5).toNat % 8, Nat.mod_lt _ (Nat.succ_pos 7)⟩
      let bit := (vector &&& 31).toNat
      (true, some { descriptor with
        pir := Function.update descriptor.pir word (descriptor.pir word ||| 1#32 <<< bit) })

/-! From the device to the injection. -/

/-- A descriptor, and the queue that it is drained into. -/
structure Poster where
  descriptor : PostedInterruptDescriptor
  state : InterruptState

/-- The calls that touch one of the two. The queue has other sources too. -/
inductive PostingCall
  | post (vector : U32) (generation : U64)
  | drain (generation sourceId : U64)
  | queue (input : QueueInput)

def postingStep (s : Poster) : PostingCall → Poster
  | .post vector generation =>
    { s with
      descriptor := (postInterrupt (some s.descriptor) vector generation).2.getD s.descriptor }
  | .drain generation sourceId =>
    ⟨drainedDescriptor s.descriptor s.state generation sourceId,
      (drainPostedInterrupt (some s.descriptor) s.state generation sourceId).2.2⟩
  | .queue input => { s with state := queueStep s.state input }

/-- How often a vector is on its way: as a bit of the descriptor, and as events
of the queue. -/
def onItsWay (s : Poster) (vector : Nat) : Nat :=
  (isPosted s.descriptor vector).toNat + deliveries (queue s.state) vector

/-- How often a call brings a vector in: a post that is accepted while the
vector is clear, or an event of another source. -/
def arrivals (vector : Nat) (s : Poster) : PostingCall → Nat
  | .post given generation =>
    if (postInterrupt (some s.descriptor) given generation).1 && given.toNat == vector &&
        !isPosted s.descriptor vector then 1
    else 0
  | .drain _ _ => 0
  | .queue input =>
    match queueEvent s.state input with
    | .accepted events => deliveries events vector
    | .removed _ => 0

/-- How often a call injects a vector. -/
def injections (vector : Nat) (s : Poster) : PostingCall → Nat
  | .post _ _ | .drain _ _ => 0
  | .queue input =>
    match queueEvent s.state input with
    | .accepted _ => 0
    | .removed place => deliveries (queue s.state)[place]?.toList vector

/-- What every call keeps. -/
structure PosterSound (s : Poster) : Prop where
  valid : isPostedInterruptValid s.descriptor = true
  external : ∀ vector, isPosted s.descriptor vector = true → 32 ≤ vector
  sound : StateSound s.state

theorem deliveries_append (first second : List InterruptEvent) (vector : Nat) :
    deliveries (first ++ second) vector = deliveries first vector + deliveries second vector :=
  List.countP_append

/-- Setting the bit of a vector puts that vector in. -/
theorem isPosted_set (descriptor : PostedInterruptDescriptor) (word : Fin 8) {bit : Nat}
    (inside : bit < 32) (vector : Nat) :
    isPosted { descriptor with
        pir := Function.update descriptor.pir word (descriptor.pir word ||| 1#32 <<< bit) }
      vector = (isPosted descriptor vector || vector == 32 * word.val + bit) := by
  by_cases below : vector < 256
  swap
  · have apart : vector ≠ 32 * word.val + bit := by omega
    rw [isPosted_of_le _ (by omega), isPosted_of_le _ (by omega), beq_eq_false_iff_ne.mpr apart]
    rfl
  obtain ⟨other, place, within, rfl⟩ := exists_place below
  rw [isPosted_place _ other within, isPosted_place _ other within]
  by_cases sameWord : other = word
  · subst sameWord
    dsimp only
    rw [Function.update_self, Bits.getLsbD_or_one_shiftLeft _ inside]
    by_cases same : place = bit
    · subst same
      simp only [decide_true, beq_self_eq_true]
    · have apart : 32 * other.val + place ≠ 32 * other.val + bit := by omega
      rw [decide_eq_false same, beq_eq_false_iff_ne.mpr apart]
  · have apart : 32 * other.val + place ≠ 32 * word.val + bit := by
      have values : other.val ≠ word.val := fun same => sameWord (Fin.ext same)
      omega
    dsimp only
    rw [Function.update_of_ne sameWord, beq_eq_false_iff_ne.mpr apart, Bool.or_false]

/-- A post is refused and changes nothing, or it sets its vector, which is an
external one. -/
theorem postInterrupt_cases (descriptor : PostedInterruptDescriptor) (vector : U32)
    (generation : U64) :
    postInterrupt (some descriptor) vector generation = (false, some descriptor) ∨
      ∃ posted : PostedInterruptDescriptor,
        postInterrupt (some descriptor) vector generation = (true, some posted) ∧
          posted = { descriptor with pir := posted.pir } ∧ 32 ≤ vector.toNat ∧
          ∀ other, isPosted posted other = (isPosted descriptor other || other == vector.toNat) := by
  simp only [postInterrupt]
  split
  · exact .inl rfl
  rename_i accepted
  simp only [Bool.or_eq_true, decide_eq_true_eq, not_or, BitVec.not_lt, BitVec.not_le]
    at accepted
  obtain ⟨⟨⟨-, low⟩, high⟩, -⟩ := accepted
  rw [BitVec.le_def] at low
  rw [BitVec.lt_def] at high
  change 32 ≤ vector.toNat at low
  change vector.toNat < 256 at high
  have word : (vector >>> 5).toNat = vector.toNat / 32 := by
    rw [BitVec.toNat_ushiftRight, Nat.shiftRight_eq_div_pow]
  have bit : (vector &&& 31).toNat = vector.toNat % 32 := by
    rw [BitVec.toNat_and]
    exact Nat.and_two_pow_sub_one_eq_mod vector.toNat 5
  refine .inr ⟨_, rfl, rfl, low, fun other => ?_⟩
  have place : 32 * ((vector >>> 5).toNat % 8) + (vector &&& 31).toNat = vector.toNat := by
    rw [word, bit]
    omega
  rw [isPosted_set descriptor _ (by omega), place]

theorem PosterSound.step {s : Poster} (inv : PosterSound s) (call : PostingCall) :
    PosterSound (postingStep s call) := by
  cases call with
  | post vector generation =>
    rcases postInterrupt_cases s.descriptor vector generation with
      refused | ⟨posted, accepted, frame, low, bits⟩
    · simp only [postingStep, refused, Option.getD_some]
      exact inv
    · simp only [postingStep, accepted, Option.getD_some]
      refine ⟨?_, fun other set => ?_, inv.sound⟩
      · rw [frame]
        exact inv.valid
      · rw [bits, Bool.or_eq_true, beq_iff_eq] at set
        rcases set with before | rfl
        · exact inv.external other before
        · exact low
  | drain generation sourceId =>
    obtain ⟨once, frame⟩ := drainedDescriptor_again inv.valid inv.external inv.sound generation
      sourceId
    refine ⟨?_, fun vector posted => inv.external vector ?_,
      queueStep_sound inv.sound (.drain (some s.descriptor) generation sourceId)⟩
    · rw [postingStep, frame]
      exact inv.valid
    · by_contra clear
      have gone := (once.others vector (by simpa using clear)).1
      rw [postingStep, gone] at posted
      cases posted
  | queue input => exact ⟨inv.valid, inv.external, queueStep_sound inv.sound input⟩

/-- One call: what it brings in is on its way afterwards, unless it was
injected. -/
theorem PosterSound.balance {s : Poster} (inv : PosterSound s) (call : PostingCall)
    (vector : Nat) :
    onItsWay s vector + arrivals vector s call =
      onItsWay (postingStep s call) vector + injections vector s call := by
  cases call with
  | post given generation =>
    rcases postInterrupt_cases s.descriptor given generation with
      refused | ⟨posted, accepted, _, _, bits⟩
    · simp only [onItsWay, arrivals, injections, postingStep, refused, Option.getD_some,
        Bool.false_and, Bool.false_eq_true, if_false]
    · have set := bits vector
      simp only [onItsWay, arrivals, injections, postingStep, accepted, Option.getD_some,
        Bool.true_and, set]
      by_cases same : given.toNat = vector
      · subst same
        cases isPosted s.descriptor given.toNat with
        | false =>
          simp only [beq_self_eq_true, Bool.not_false, Bool.and_self, if_true, Bool.or_true,
            Bool.toNat_true, Bool.toNat_false]
          omega
        | true =>
          simp only [beq_self_eq_true, Bool.not_true, Bool.and_false, Bool.false_eq_true, if_false,
            Bool.or_true, Bool.toNat_true]
      · rw [beq_eq_false_iff_ne.mpr same, beq_eq_false_iff_ne.mpr (Ne.symm same), Bool.or_false,
          Bool.false_and, if_neg Bool.false_ne_true]
  | drain generation sourceId =>
    obtain ⟨once, _⟩ := drainedDescriptor_again inv.valid inv.external inv.sound generation sourceId
    have sum : deliveries (queue (postingStep s (.drain generation sourceId)).state) vector =
        deliveries (queue s.state) vector +
          deliveries (drainedEvents (some s.descriptor) s.state generation sourceId) vector := by
      rw [postingStep, once.queue, deliveries_append]
    rw [onItsWay, onItsWay, sum]
    simp only [arrivals, injections, postingStep]
    cases before : isPosted s.descriptor vector with
    | false =>
      obtain ⟨clear, none⟩ := once.others vector before
      rw [clear, none]
      rfl
    | true =>
      rcases once.posted vector before with ⟨kept, none⟩ | ⟨moved, one⟩
      · rw [kept, none]
        rfl
      · rw [moved, one]
        simp only [Bool.toNat_true, Bool.toNat_false]
        omega
  | queue input =>
    simp only [onItsWay, arrivals, injections, postingStep]
    cases queueStep_effect s.state input with
    | enqueues event chain _ =>
      rw [event, chain.queue_eq, deliveries_append]
      dsimp only
      omega
    | @commits decision index event commits after _ =>
      obtain ⟨inside, _⟩ := List.getElem?_eq_some_iff.mp commits.getElem_queue
      have parts : deliveries (queue s.state) vector =
          deliveries [(queue s.state)[index.val]] vector +
            deliveries ((queue s.state).eraseIdx index.val) vector := by
        rw [← deliveries_append]
        exact (List.getElem_cons_eraseIdx_perm inside).symm.countP_eq _
      rw [event, after, queue_committed, commits.queue_remove, parts]
      simp only [List.getElem?_eq_getElem inside, Option.toList_some]
      omega

theorem PosterSound.run {start : Poster} (inv : PosterSound start) (calls : List PostingCall) :
    PosterSound (Run.after postingStep start calls) :=
  Run.invariant_always (fun _ call sound => sound.step call) inv calls

/-- The balance over every run, with any sources of the queue in between: a
vector is on its way as often as it came in and was not injected, and a vector
that is posted on top of it is on its way. -/
theorem posting_conserves {start : Poster}
    (valid : isPostedInterruptValid start.descriptor = true)
    (external : ∀ vector, isPosted start.descriptor vector = true → 32 ≤ vector)
    (stateValid : isInterruptStateValid start.state = true) (calls : List PostingCall) :
    (∀ vector, onItsWay start vector +
          (Run.trace postingStep (arrivals vector) start calls).sum =
        onItsWay (Run.after postingStep start calls) vector +
          (Run.trace postingStep (injections vector) start calls).sum) ∧
      ∀ given generation,
        (postInterrupt (some (Run.after postingStep start calls).descriptor) given
            generation).1 = true →
          0 < onItsWay (postingStep (Run.after postingStep start calls) (.post given generation))
            given.toNat := by
  have inv : PosterSound start := ⟨valid, external, isInterruptStateValid_iff.mp stateValid⟩
  refine ⟨fun vector => ?_, fun given generation done => ?_⟩
  · induction calls using List.reverseRecOn with
    | nil => rfl
    | append_singleton calls call ih =>
      have last := (inv.run calls).balance call vector
      rw [Run.trace_snoc, Run.trace_snoc, List.sum_append, List.sum_append, Run.after_append,
        List.sum_singleton, List.sum_singleton]
      simp only [Run.after_cons, Run.after_nil]
      omega
  · rcases postInterrupt_cases (Run.after postingStep start calls).descriptor given generation with
      refused | ⟨posted, accepted, _, _, bits⟩
    · rw [refused] at done
      cases done
    · have set : isPosted posted given.toNat = true := by
        rw [bits, beq_self_eq_true, Bool.or_true]
      simp only [onItsWay, postingStep, accepted, Option.getD_some, set, Bool.toNat_true]
      omega

/-- A vector that is drained and posted twice again. -/
theorem posting_conserves_twice :
    onItsWay ⟨twoPosted, emptyState⟩ 0x45 + (Run.trace postingStep (arrivals 0x45)
          ⟨twoPosted, emptyState⟩ [.drain 1 77, .post 0x45 1, .post 0x45 1]).sum =
        onItsWay (Run.after postingStep ⟨twoPosted, emptyState⟩
            [.drain 1 77, .post 0x45 1, .post 0x45 1]) 0x45 +
          (Run.trace postingStep (injections 0x45) ⟨twoPosted, emptyState⟩
            [.drain 1 77, .post 0x45 1, .post 0x45 1]).sum :=
  (@posting_conserves ⟨twoPosted, emptyState⟩ (by decide) (external_of_word (by decide))
    (by decide +kernel) _).1 0x45

end Knhv.Interrupt
