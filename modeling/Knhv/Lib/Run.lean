import Mathlib.Data.List.Induction

universe u v w

namespace Run

variable {S : Type u} {I : Type v} (step : S → I → S)

/-- The state a machine is in after it has taken every input of a list. -/
def after (s : S) (inputs : List I) : S := inputs.foldl step s

@[simp] theorem after_nil (s : S) : after step s [] = s := rfl

@[simp] theorem after_cons (s : S) (i : I) (inputs : List I) :
    after step s (i :: inputs) = after step (step s i) inputs := rfl

@[simp] theorem after_append (s : S) (first second : List I) :
    after step s (first ++ second) = after step (after step s first) second :=
  List.foldl_append

/-- Every step of the run satisfies `P`, which sees the state before the step
and the input of the step. -/
def Every (P : S → I → Prop) (s : S) (inputs : List I) : Prop :=
  ∀ pre i post, inputs = pre ++ i :: post → P (after step s pre) i

/-- Every state that the run goes through satisfies `P`. -/
def Always (P : S → Prop) (s : S) (inputs : List I) : Prop :=
  ∀ pre post, inputs = pre ++ post → P (after step s pre)

/-- Some step of the run satisfies `P`. -/
def Occurs (P : S → I → Prop) (s : S) (inputs : List I) : Prop :=
  ∃ pre i post, inputs = pre ++ i :: post ∧ P (after step s pre) i

/-- Some step of the run satisfies `L`, and no later step satisfies `C`. -/
def Since (L C : S → I → Prop) (s : S) (inputs : List I) : Prop :=
  ∃ pre i post, inputs = pre ++ i :: post ∧ L (after step s pre) i ∧
    ¬Occurs step C (after step s (pre ++ [i])) post

/-- Some step of the run satisfies `L`, and the part of the run before it
satisfies `Q`. -/
def Follows (L : S → I → Prop) (Q : List I → Prop) (s : S) (inputs : List I) : Prop :=
  ∃ pre i post, inputs = pre ++ i :: post ∧ L (after step s pre) i ∧ Q pre

/-- Between every two steps of the run that satisfy `L` there is one that
satisfies `C`. -/
def Separated (L C : S → I → Prop) (s : S) (inputs : List I) : Prop :=
  ∀ pre i mid j post, inputs = pre ++ i :: (mid ++ j :: post) → L (after step s pre) i →
    L (after step s (pre ++ i :: mid)) j → Occurs step C (after step s (pre ++ [i])) mid

/-- The outputs of a run, in order. -/
def trace {E : Type w} (output : S → I → E) : S → List I → List E
  | _, [] => []
  | s, i :: inputs => output s i :: trace output (step s i) inputs

variable {step}

theorem trace_snoc {E : Type w} {output : S → I → E} {s : S} {inputs : List I} {i : I} :
    trace step output s (inputs ++ [i]) =
      trace step output s inputs ++ [output (after step s inputs) i] := by
  induction inputs generalizing s with
  | nil => rfl
  | cons j inputs ih => simp only [List.cons_append, trace, ih, after_cons]

theorem every_nil {P : S → I → Prop} (s : S) : Every step P s [] := by
  intro pre i post split
  simp at split

theorem every_cons {P : S → I → Prop} {s : S} {i : I} {inputs : List I} :
    Every step P s (i :: inputs) ↔ P s i ∧ Every step P (step s i) inputs := by
  constructor
  · intro all
    refine ⟨all [] i inputs rfl, fun pre j post split => ?_⟩
    exact all (i :: pre) j post (by rw [split, List.cons_append])
  · rintro ⟨first, later⟩ pre j post split
    cases pre with
    | nil =>
      cases split
      exact first
    | cons k pre =>
      obtain ⟨rfl, rest⟩ := List.cons.inj split
      exact later pre j post rest

theorem every_snoc {P : S → I → Prop} {s : S} {inputs : List I} {i : I} :
    Every step P s (inputs ++ [i]) ↔ Every step P s inputs ∧ P (after step s inputs) i := by
  constructor
  · intro all
    refine ⟨fun pre j post split => ?_, all inputs i [] rfl⟩
    exact all pre j (post ++ [i]) (by rw [split, List.append_assoc, List.cons_append])
  · rintro ⟨earlier, last⟩ pre j post split
    rcases List.eq_nil_or_concat post with rfl | ⟨rest, k, rfl⟩
    · obtain ⟨rfl, same⟩ := List.append_inj' split rfl
      cases same
      exact last
    · have shape : inputs ++ [i] = (pre ++ j :: rest) ++ [k] := by
        rw [split, List.concat_eq_append, List.append_assoc, List.cons_append]
      exact earlier pre j rest (List.append_inj' shape rfl).1

theorem every_append {P : S → I → Prop} {s : S} {first second : List I} :
    Every step P s (first ++ second) ↔
      Every step P s first ∧ Every step P (after step s first) second := by
  induction first generalizing s with
  | nil => exact ⟨fun all => ⟨every_nil s, all⟩, fun both => both.2⟩
  | cons i first ih => rw [List.cons_append, every_cons, every_cons, ih, after_cons, and_assoc]

theorem every_of_append {P : S → I → Prop} {s : S} {first second : List I}
    (all : Every step P s (first ++ second)) : Every step P s first :=
  (every_append.mp all).1

theorem not_occurs_iff {P : S → I → Prop} {s : S} {inputs : List I} :
    ¬Occurs step P s inputs ↔ Every step (fun s i => ¬P s i) s inputs := by
  constructor
  · intro none pre i post split holds
    exact none ⟨pre, i, post, split, holds⟩
  · rintro all ⟨pre, i, post, split, holds⟩
    exact all pre i post split holds

instance decidableEvery {P : S → I → Prop} [∀ s i, Decidable (P s i)] :
    (s : S) → (inputs : List I) → Decidable (Every step P s inputs)
  | s, [] => .isTrue (every_nil s)
  | s, i :: inputs =>
    haveI := decidableEvery (P := P) (step s i) inputs
    decidable_of_iff (P s i ∧ Every step P (step s i) inputs) every_cons.symm

instance decidableOccurs {P : S → I → Prop} [∀ s i, Decidable (P s i)] (s : S) (inputs : List I) :
    Decidable (Occurs step P s inputs) :=
  decidable_of_iff (¬Every step (fun s i => ¬P s i) s inputs)
    (by rw [← not_occurs_iff, Classical.not_not])

theorem since_nil {L C : S → I → Prop} (s : S) : ¬Since step L C s [] := by
  rintro ⟨pre, i, post, split, _⟩
  simp at split

theorem since_cons {L C : S → I → Prop} {s : S} {i : I} {inputs : List I} :
    Since step L C s (i :: inputs) ↔
      L s i ∧ ¬Occurs step C (step s i) inputs ∨ Since step L C (step s i) inputs := by
  constructor
  · rintro ⟨pre, j, post, split, holds, none⟩
    cases pre with
    | nil =>
      cases split
      exact Or.inl ⟨holds, none⟩
    | cons k pre =>
      obtain ⟨rfl, rest⟩ := List.cons.inj split
      exact Or.inr ⟨pre, j, post, rest, holds, none⟩
  · rintro (⟨holds, none⟩ | ⟨pre, j, post, split, holds, none⟩)
    · exact ⟨[], i, inputs, rfl, holds, none⟩
    · exact ⟨i :: pre, j, post, by rw [split, List.cons_append], holds, none⟩

instance decidableSince {L C : S → I → Prop} [∀ s i, Decidable (L s i)]
    [∀ s i, Decidable (C s i)] : (s : S) → (inputs : List I) → Decidable (Since step L C s inputs)
  | s, [] => .isFalse (since_nil s)
  | s, i :: inputs =>
    haveI := decidableSince (L := L) (C := C) (step s i) inputs
    decidable_of_iff (L s i ∧ ¬Occurs step C (step s i) inputs ∨ Since step L C (step s i) inputs)
      since_cons.symm

/-- The last step of its kind is in the first part of the run or in the
second. -/
theorem since_append {L C : S → I → Prop} {s : S} {first second : List I}
    (since : Since step L C s (first ++ second)) :
    Occurs step L s first ∨ Since step L C (after step s first) second := by
  induction first generalizing s with
  | nil => exact Or.inr since
  | cons i first ih =>
    rcases since_cons.mp since with ⟨holds, _⟩ | later
    · exact Or.inl ⟨[], i, first, rfl, holds⟩
    · rcases ih later with ⟨pre, j, post, split, holds⟩ | last
      · exact Or.inl ⟨i :: pre, j, post, by rw [split, List.cons_append], holds⟩
      · exact Or.inr last

theorem Since.after_first {L C : S → I → Prop} {s : S} {first second : List I}
    (since : Since step L C (after step s first) second) : Since step L C s (first ++ second) := by
  obtain ⟨pre, i, post, split, holds, none⟩ := since
  rw [← after_append] at holds
  rw [← after_append] at none
  refine ⟨first ++ pre, i, post, by rw [split, List.append_assoc], holds, ?_⟩
  rw [List.append_assoc]
  exact none

/-- What holds at every step holds at the last one of its kind and since. -/
theorem Since.and_every {L C G : S → I → Prop} {s : S} {inputs : List I}
    (since : Since step L C s inputs) (all : Every step G s inputs) :
    Since step (fun s i => L s i ∧ G s i) (fun s i => C s i ∨ ¬G s i) s inputs := by
  obtain ⟨pre, i, post, split, holds, none⟩ := since
  refine ⟨pre, i, post, split, ⟨holds, all pre i post split⟩, ?_⟩
  rw [not_occurs_iff] at none ⊢
  intro mid j rest shape
  have here := all (pre ++ i :: mid) j rest (by rw [split, shape]; simp)
  have same : after step (after step s (pre ++ [i])) mid = after step s (pre ++ i :: mid) := by
    rw [← after_append, List.append_assoc, List.singleton_append]
  rw [same]
  rintro (occurs | fails)
  · exact none mid j rest shape (by rw [same]; exact occurs)
  · exact fails here

theorem Since.mono {L C L' C' : S → I → Prop} {s : S} {inputs : List I}
    (since : Since step L C s inputs) (wider : ∀ s i, L s i → L' s i)
    (narrower : ∀ s i, C' s i → C s i) : Since step L' C' s inputs := by
  obtain ⟨pre, i, post, split, holds, none⟩ := since
  refine ⟨pre, i, post, split, wider _ i holds, ?_⟩
  rw [not_occurs_iff] at none ⊢
  exact fun mid j rest shape occurs => none mid j rest shape (narrower _ j occurs)

/-- The invariant rule: what holds at the start and is kept by every step
that the run takes holds at its end. -/
theorem invariant {P : S → Prop} {G : S → I → Prop}
    (keep : ∀ s i, P s → G s i → P (step s i)) {s : S} {inputs : List I}
    (start : P s) (along : Every step G s inputs) : P (after step s inputs) := by
  induction inputs using List.reverseRecOn with
  | nil => exact start
  | append_singleton inputs i ih =>
    obtain ⟨earlier, last⟩ := every_snoc.mp along
    rw [after_append]
    exact keep _ i (ih earlier) last

theorem invariant_always {P : S → Prop} (keep : ∀ s i, P s → P (step s i)) {s : S}
    (start : P s) (inputs : List I) : P (after step s inputs) :=
  invariant (G := fun _ _ => True) (fun s i holds _ => keep s i holds) start
    (fun _ _ _ _ => trivial)

/-- A property that an invariant gives holds along every run whose steps keep
the invariant. -/
theorem always_of_every {P J : S → Prop} {G : S → I → Prop}
    (keep : ∀ s i, J s → G s i → J (step s i)) (enough : ∀ s, J s → P s) {s : S}
    {inputs : List I} (start : J s) (along : Every step G s inputs) :
    Always step P s inputs := by
  intro pre post split
  rw [split] at along
  exact enough _ (invariant keep start (every_of_append along))

/-- What the state after a step says of the step holds of every step of a run
that goes through good states only. -/
theorem every_of_always {P J : S → Prop} {G : S → I → Prop}
    (keep : ∀ s i, J s → J (step s i)) (needs : ∀ s i, J s → P (step s i) → G s i) {s : S}
    {inputs : List I} (start : J s) (always : Always step P s inputs) :
    Every step G s inputs := by
  intro pre i post split
  have reached : P (after step s (pre ++ [i])) :=
    always (pre ++ [i]) post (by rw [split, List.append_assoc, List.singleton_append])
  rw [after_append] at reached
  exact needs _ i (invariant_always keep start pre) reached

/-- A state that is entered only by `L` has been entered by it, after what must
come before an `L`. -/
theorem follows_of_entered {F : S → Prop} {L : S → I → Prop} {Q : List I → Prop} {s : S}
    (entered : ∀ s i, F (step s i) → F s ∨ L s i)
    (before : ∀ pre i, L (after step s pre) i → Q pre) (outside : ¬F s) {inputs : List I}
    (inside : F (after step s inputs)) : Follows step L Q s inputs := by
  induction inputs using List.reverseRecOn with
  | nil => exact absurd inside outside
  | append_singleton inputs i ih =>
    rw [after_append] at inside
    rcases entered _ i inside with already | now
    · obtain ⟨pre, j, post, split, holds, earlier⟩ := ih already
      refine ⟨pre, j, post ++ [i], ?_, holds, earlier⟩
      rw [split, List.append_assoc, List.cons_append]
    · exact ⟨inputs, i, [], rfl, now, before inputs i now⟩

/-- A flag that only `L` raises and that falls at every `C` is up only if an
`L` step has happened and no `C` step since. -/
theorem since_of_flag {F : S → Prop} {L C : S → I → Prop}
    (raised : ∀ s i, F (step s i) → L s i ∨ F s ∧ ¬C s i)
    {s : S} (down : ¬F s) {inputs : List I}
    (up : F (after step s inputs)) : Since step L C s inputs := by
  induction inputs using List.reverseRecOn with
  | nil => exact absurd up down
  | append_singleton inputs i ih =>
    rw [after_append] at up
    rcases raised _ i up with last | ⟨before, quiet⟩
    · refine ⟨inputs, i, [], rfl, last, ?_⟩
      exact not_occurs_iff.mpr (every_nil _)
    · obtain ⟨pre, j, post, split, holds, none⟩ := ih before
      refine ⟨pre, j, post ++ [i], by rw [split, List.append_assoc, List.cons_append], holds, ?_⟩
      have here : after step (after step s (pre ++ [j])) post = after step s inputs := by
        rw [split, ← after_append, List.append_assoc, List.singleton_append]
      rw [not_occurs_iff] at none ⊢
      exact every_snoc.mpr ⟨none, by simpa only [here] using quiet⟩

/-- A flag that every `L` step raises, that only `C` steps lower and that
blocks `L` separates the `L` steps by `C` steps. -/
theorem separated_of_flag {F : S → Prop} {G L C : S → I → Prop}
    (raise : ∀ s i, L s i → F (step s i))
    (stay : ∀ s i, G s i → F s → ¬C s i → F (step s i))
    (block : ∀ s i, G s i → F s → ¬L s i)
    {s : S} {inputs : List I} (along : Every step G s inputs) :
    Separated step L C s inputs := by
  intro pre i mid j post split first second
  by_contra none
  rw [not_occurs_iff] at none
  have raised : F (after step s (pre ++ [i])) := by
    rw [after_append]
    exact raise _ i first
  have middle : Every step (fun s i => G s i ∧ ¬C s i) (after step s (pre ++ [i])) mid := by
    intro a k b shape
    refine ⟨?_, none a k b shape⟩
    rw [← after_append]
    refine along (pre ++ [i] ++ a) k (b ++ j :: post) ?_
    simp only [split, shape, List.append_assoc, List.cons_append, List.nil_append]
  have held : F (after step (after step s (pre ++ [i])) mid) :=
    invariant (fun s i up guard => stay s i guard.1 up guard.2) raised middle
  have here : after step (after step s (pre ++ [i])) mid = after step s (pre ++ i :: mid) := by
    rw [← after_append, List.append_assoc, List.singleton_append]
  rw [here] at held
  have guard := along (pre ++ i :: mid) j post (by rw [split, List.append_assoc, List.cons_append])
  exact block _ j guard held second

/-- A fallible fold that gets through is followed by every fold that it
simulates step by step. -/
theorem foldlM_simulated {A : Type w} {T : Type u} {f : S → A → Option S} {g : T → A → Option T}
    {R : S → T → Prop}
    (follow : ∀ a s t t', R s t → g t a = some t' → ∃ s', f s a = some s' ∧ R s' t')
    {items : List A} {s : S} {t t' : T} (related : R s t) (through : items.foldlM g t = some t') :
    ∃ s', items.foldlM f s = some s' ∧ R s' t' := by
  induction items generalizing s t with
  | nil =>
    cases through
    exact ⟨s, rfl, related⟩
  | cons a items ih =>
    rw [List.foldlM_cons] at through
    obtain ⟨next, first, rest⟩ := Option.bind_eq_some_iff.mp through
    obtain ⟨next', first', related'⟩ := follow a s t next related first
    obtain ⟨last, rest', reached⟩ := ih related' rest
    refine ⟨last, ?_, reached⟩
    rw [List.foldlM_cons, first']
    exact rest'

/-- What each round of a counted loop carries on, the loop carries to its end. -/
theorem foldl_finRange {n : Nat} {step : S → Fin n → S} {P : Nat → S → Prop} {s : S}
    (start : P 0 s) (keep : ∀ i t, P i.val t → P (i.val + 1) (step t i)) :
    P n ((List.finRange n).foldl step s) := by
  induction n with
  | zero => exact start
  | succ n ih =>
    rw [List.finRange_succ_last, List.foldl_append, List.foldl_map]
    exact keep (Fin.last n) _ (ih fun i => keep i.castSucc)

end Run
