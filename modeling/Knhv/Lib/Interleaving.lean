import Mathlib.Logic.Relation
import Mathlib.Logic.Function.Basic
import Knhv.Lib.Run

universe u v w x

namespace Interleaving

/-- A script over a shared state `S`: each access reads and changes the state at
once, with an answer `O` that is not the state's, and what follows depends on both. -/
inductive Script (S : Type u) (O : Type v) (α : Type w) : Type (max u v w)
  | ret (value : α)
  | access (move : O → S → S) (next : O → S → Script S O α)

namespace Script

variable {S : Type u} {O : Type v} {α β : Type w}

def bind : Script S O α → (α → Script S O β) → Script S O β
  | ret value, f => f value
  | access move next, f => access move fun o s => (next o s).bind f

instance : Monad (Script S O) where
  pure := ret
  bind := bind

/-- An access that changes nothing. -/
def read (f : O → S → α) : Script S O α := access (fun _ s => s) fun o s => ret (f o s)

/-- An access whose result is what it has found. -/
def exchange (move : O → S → S) (f : O → S → α) : Script S O α :=
  access move fun o s => ret (f o s)

def write (move : S → S) : Script S O PUnit.{w + 1} := access (fun _ => move) fun _ _ => ret ⟨⟩

/-- A loop over a list with an accumulator, which stops where a round says so. -/
def fold {ι : Type x} (f : ι → α → Script S O (α × Bool)) : List ι → α → Script S O α
  | [], a => ret a
  | i :: rest, a => (f i a).bind fun next => if next.2 then ret next.1 else fold f rest next.1

/-- Ask of every element in turn, up to the first that answers yes. -/
def any {ι : Type x} (f : ι → Script S O Bool) (list : List ι) : Script S O Bool :=
  fold (fun i _ => (f i).bind fun found => ret (found, found)) list false

def forEach {ι : Type x} (f : ι → Script S O PUnit.{w + 1}) (list : List ι) :
    Script S O PUnit.{w + 1} :=
  fold (fun i _ => (f i).bind fun _ => ret (⟨⟩, false)) list ⟨⟩

/-- One access of a script. -/
def advance (o : O) (s : S) : Script S O α → S × Script S O α
  | ret value => (s, ret value)
  | access move next => (move o s, next o s)

def isDone : Script S O α → Bool
  | ret _ => true
  | access _ _ => false

/-- At whatever moment the others let the script go on, each of its accesses keeps
its promise `G` and it comes to its end with `Q`. `R` is what the others may do. -/
def Keeps (R G : S → S → Prop) (Q : α → S → Prop) : Script S O α → S → Prop
  | ret value, s => ∀ s', Relation.ReflTransGen R s s' → Q value s'
  | access move next, s => ∀ s', Relation.ReflTransGen R s s' → ∀ o,
      G s' (move o s') ∧ (next o s').Keeps R G Q (move o s')

end Script

/-- What the others do keeps `P`. -/
def Stable {S : Type u} (R : S → S → Prop) (P : S → Prop) : Prop := ∀ s s', P s → R s s' → P s'

theorem Stable.and {S : Type u} {R : S → S → Prop} {P Q : S → Prop} (first : Stable R P)
    (second : Stable R Q) : Stable R fun s => P s ∧ Q s :=
  fun s s' both move => ⟨first s s' both.1 move, second s s' both.2 move⟩

theorem Stable.all {S : Type u} {ι : Sort x} {R : S → S → Prop} {P : ι → S → Prop}
    (each : ∀ i, Stable R (P i)) : Stable R fun s => ∀ i, P i s :=
  fun s s' all move i => each i s s' (all i) move

theorem Stable.imp {S : Type u} {p : Prop} {R : S → S → Prop} {P : S → Prop}
    (stable : p → Stable R P) : Stable R fun s => p → P s :=
  fun s s' holds move given => stable given s s' (holds given) move

theorem Stable.star {S : Type u} {R : S → S → Prop} {P : S → Prop} (stable : Stable R P) {s s' : S}
    (holds : P s) (moves : Relation.ReflTransGen R s s') : P s' := by
  induction moves with
  | refl => exact holds
  | tail _ move ih => exact stable _ _ ih move

/-- From every state with `P` the script keeps its promise and ends with `Q`. -/
def Triple {S : Type u} {O : Type v} {α : Type w} (R G : S → S → Prop) (P : S → Prop)
    (script : Script S O α) (Q : α → S → Prop) : Prop :=
  ∀ s, P s → script.Keeps R G Q s

namespace Script

variable {S : Type u} {O : Type v} {α β : Type w} {R G : S → S → Prop} {P P' : S → Prop}
  {Q Q' : α → S → Prop} {p : Script S O α}

theorem Keeps.rely {s s' : S} (keeps : p.Keeps R G Q s) (move : R s s') : p.Keeps R G Q s' := by
  cases p with
  | ret value => exact fun s'' moves => keeps s'' (.head move moves)
  | access move' next => exact fun s'' moves => keeps s'' (.head move moves)

/-- A script that has come to its end has kept its promise. -/
theorem Keeps.result {s : S} (keeps : p.Keeps R G Q s) (done : p.isDone = true) :
    ∃ value, Q value s := by
  cases p with
  | ret value => exact ⟨value, keeps s .refl⟩
  | access move next => cases done

theorem Keeps.bind {f : α → Script S O β} {T : β → S → Prop} {s : S}
    (first : p.Keeps R G (fun value => (f value).Keeps R G T) s) : (p.bind f).Keeps R G T s := by
  induction p generalizing s with
  | ret value => exact first s .refl
  | access move next ih =>
    intro s' moves o
    obtain ⟨promise, rest⟩ := first s' moves o
    exact ⟨promise, ih o s' rest⟩

theorem Keeps.mono {s : S} (keeps : p.Keeps R G Q s) (weaker : ∀ value s, Q value s → Q' value s) :
    p.Keeps R G Q' s := by
  induction p generalizing s with
  | ret value => exact fun s' moves => weaker value s' (keeps s' moves)
  | access move next ih =>
    intro s' moves o
    obtain ⟨promise, rest⟩ := keeps s' moves o
    exact ⟨promise, ih o s' rest⟩

end Script

namespace Triple

open Script

variable {S : Type u} {O : Type v} {α β : Type w} {R G : S → S → Prop} {P P' : S → Prop}
  {Q Q' : α → S → Prop} {p : Script S O α}

theorem pre (triple : Triple R G P p Q) (stronger : ∀ s, P' s → P s) : Triple R G P' p Q :=
  fun s given => triple s (stronger s given)

theorem post (triple : Triple R G P p Q) (weaker : ∀ value s, Q value s → Q' value s) :
    Triple R G P p Q' :=
  fun s given => (triple s given).mono weaker

theorem bind {f : α → Script S O β} {M : α → S → Prop} {T : β → S → Prop}
    (first : Triple R G P p M) (rest : ∀ value, Triple R G (M value) (f value) T) :
    Triple R G P (p >>= f) T :=
  fun s given => ((first s given).mono fun value s => rest value s).bind

theorem ret {value : α} (stable : Stable R P) (result : ∀ s, P s → Q value s) :
    Triple R G P (pure value : Script S O α) Q :=
  fun _ given _ moves => result _ (stable.star given moves)

/-- What is known of no state is known throughout. -/
theorem fact {c : Prop} (given : c → Triple R G P p Q) : Triple R G (fun s => P s ∧ c) p Q :=
  fun s both => given both.2 s both.1

theorem exchange {move : O → S → S} {f : O → S → α} (stable : Stable R P)
    (after : ∀ value, Stable R (Q value))
    (step : ∀ o s, P s → G s (move o s) ∧ Q (f o s) (move o s)) :
    Triple R G P (Script.exchange move f) Q := by
  intro s given s' moves o
  obtain ⟨promise, found⟩ := step o s' (stable.star given moves)
  exact ⟨promise, fun s'' later => (after _).star found later⟩

theorem read {f : O → S → α} (stable : Stable R P) (after : ∀ value, Stable R (Q value))
    (idle : ∀ s, P s → G s s) (found : ∀ o s, P s → Q (f o s) s) :
    Triple R G P (Script.read f) Q :=
  exchange stable after fun o s given => ⟨idle s given, found o s given⟩

theorem write {move : S → S} {Q : PUnit.{w + 1} → S → Prop} (stable : Stable R P)
    (after : Stable R (Q ⟨⟩)) (step : ∀ s, P s → G s (move s) ∧ Q ⟨⟩ (move s)) :
    Triple R G P (Script.write move : Script S O PUnit.{w + 1}) Q :=
  exchange stable (fun _ => after) fun _ s given => step s given

theorem ite {c : Prop} [Decidable c] {q : Script S O α} (yes : c → Triple R G P p Q)
    (no : ¬c → Triple R G P q Q) : Triple R G P (if c then p else q) Q := by
  split
  · next holds => exact yes holds
  · next fails => exact no fails

/-- A loop keeps what holds of the elements behind it and of its accumulator. -/
theorem fold {ι : Type x} {f : ι → α → Script S O (α × Bool)} {I : List ι → α → S → Prop}
    {list : List ι} (a : α) (kept : ∀ behind a, Stable R (I behind a)) (after : ∀ a, Stable R (Q a))
    (each : ∀ i ∈ list, ∀ behind a, Triple R G (I behind a) (f i a)
      fun next s => if next.2 then Q next.1 s else I (i :: behind) next.1 s)
    (last : ∀ behind a s, (∀ i ∈ list, i ∈ behind) → I behind a s → Q a s) :
    Triple R G (I [] a) (Script.fold f list a) Q := by
  suffices general : ∀ rest behind a, (∀ i ∈ rest, i ∈ list) → (∀ i ∈ list, i ∈ behind ∨ i ∈ rest) →
      Triple R G (I behind a) (Script.fold f rest a) Q from
    general list [] a (fun _ => id) fun _ => .inr
  intro rest
  induction rest with
  | nil =>
    intro behind a _ all
    refine ret (kept behind a) fun s => last behind a s fun i member => ?_
    exact (all i member).resolve_right List.not_mem_nil
  | cons i rest ih =>
    intro behind a inside all
    refine bind (each i (inside i List.mem_cons_self) behind a) ?_
    rintro ⟨next, _ | _⟩
    · refine ih (i :: behind) next (fun j member => inside j (List.mem_cons_of_mem i member)) ?_
      intro j member
      rcases all j member with earlier | later
      · exact .inl (List.mem_cons_of_mem i earlier)
      · rcases List.mem_cons.mp later with rfl | later
        · exact .inl List.mem_cons_self
        · exact .inr later
    · exact ret (after next) fun _ => id

/-- A loop that asks nothing of its elements. -/
theorem loop {ι : Type x} {f : ι → α → Script S O (α × Bool)} {list : List ι} (a : α)
    (stable : Stable R P) (each : ∀ i ∈ list, ∀ a, Triple R G P (f i a) fun _ => P) :
    Triple R G P (Script.fold f list a) fun _ => P :=
  fold (I := fun _ _ => P) a (fun _ _ => stable) (fun _ => stable)
    (fun i member _ a => (each i member a).post fun next s given => by split <;> exact given)
    fun _ _ _ _ => id

/-- Where no element answers yes, each has been asked. -/
theorem any {ι : Type x} {f : ι → Script S O Bool} {D : ι → S → Prop} {T : S → Prop}
    {list : List ι} (stable : Stable R P) (kept : ∀ i, Stable R (D i)) (yes : Stable R T)
    (each : ∀ i ∈ list, ∀ behind : List ι, Triple R G (fun s => P s ∧ ∀ j ∈ behind, D j s) (f i)
      fun answer s => if answer then T s else P s ∧ (∀ j ∈ behind, D j s) ∧ D i s) :
    Triple R G P (Script.any f list)
      fun answer s => if answer then T s else P s ∧ ∀ i ∈ list, D i s := by
  have done : ∀ behind : List ι, Stable R fun s => P s ∧ ∀ j ∈ behind, D j s :=
    fun behind => stable.and (.all fun j => .imp fun _ => kept j)
  refine (fold (I := fun behind answer s => answer = false ∧ P s ∧ ∀ j ∈ behind, D j s) false
    ?_ ?_ ?_ ?_).pre fun s given => ⟨rfl, given, nofun⟩
  · rintro behind answer s s' ⟨no, given⟩ move
    exact ⟨no, done behind s s' given move⟩
  · rintro (_ | _)
    · exact done list
    · exact yes
  · rintro i member behind answer
    refine bind ((each i member behind).pre fun s => And.right) ?_
    rintro (_ | _)
    · refine ret (done behind |>.and (kept i)) ?_ |>.pre ?_
      · rintro s ⟨⟨given, earlier⟩, here⟩
        exact ⟨rfl, given, List.forall_mem_cons.mpr ⟨here, earlier⟩⟩
      · rintro s ⟨given, earlier, here⟩
        exact ⟨⟨given, earlier⟩, here⟩
    · exact ret yes fun _ => id
  · rintro behind answer s all ⟨rfl, given, earlier⟩
    exact ⟨given, fun i member => earlier i (all i member)⟩

/-- A loop that goes through all its elements. -/
theorem forEach {ι : Type x} {f : ι → Script S O PUnit.{w + 1}} {D : ι → S → Prop} {list : List ι}
    (stable : Stable R P) (kept : ∀ i, Stable R (D i))
    (each : ∀ i ∈ list, ∀ behind : List ι, Triple R G (fun s => P s ∧ ∀ j ∈ behind, D j s) (f i)
      fun _ s => P s ∧ (∀ j ∈ behind, D j s) ∧ D i s) :
    Triple R G P (Script.forEach f list) fun _ s => P s ∧ ∀ i ∈ list, D i s := by
  have done : ∀ behind : List ι, Stable R fun s => P s ∧ ∀ j ∈ behind, D j s :=
    fun behind => stable.and (.all fun j => .imp fun _ => kept j)
  refine (fold (I := fun behind _ s => P s ∧ ∀ j ∈ behind, D j s) PUnit.unit (fun behind _ => done behind)
    (fun _ => done list) ?_ ?_).pre fun s given => ⟨given, nofun⟩
  · intro i member behind _
    refine bind (each i member behind) fun _ => ?_
    refine (ret (done behind |>.and (kept i)) ?_).pre ?_
    · rintro s ⟨⟨given, earlier⟩, here⟩
      exact ⟨given, List.forall_mem_cons.mpr ⟨here, earlier⟩⟩
    · rintro s ⟨given, earlier, here⟩
      exact ⟨⟨given, earlier⟩, here⟩
  · rintro behind _ s all ⟨given, earlier⟩
    exact ⟨given, fun i member => earlier i (all i member)⟩

end Triple

/-- A shared state with the scripts that run on it. -/
structure Pool (S : Type u) (O : Type v) (α : Type w) (ι : Type x) where
  state : S
  scripts : ι → Script S O α

/-- Whose turn it is: the machine's own, or a script's. -/
inductive Choice (A O ι : Type*)
  | machine (a : A)
  | script (i : ι) (answer : O)

section Pool

variable {S : Type u} {O : Type v} {α : Type w} {ι : Type x} {A : Type*} [DecidableEq ι]

def Pool.step (machine : S → A → S) (c : Pool S O α ι) : Choice A O ι → Pool S O α ι
  | .machine a => { c with state := machine c.state a }
  | .script i o =>
    { state := ((c.scripts i).advance o c.state).1
      scripts := Function.update c.scripts i ((c.scripts i).advance o c.state).2 }

variable {machine : S → A → S} {R G : ι → S → S → Prop} {Q : ι → α → S → Prop} {c : Pool S O α ι}

theorem Script.Keeps.advance {R G : S → S → Prop} {Q : α → S → Prop} {p : Script S O α} {s : S}
    (keeps : p.Keeps R G Q s) (o : O) :
    ((p.advance o s).1 = s ∨ G s (p.advance o s).1) ∧
      (p.advance o s).2.Keeps R G Q (p.advance o s).1 := by
  cases p with
  | ret value => exact ⟨.inl rfl, keeps⟩
  | access move next =>
    obtain ⟨promise, rest⟩ := keeps s .refl o
    exact ⟨.inr promise, rest⟩

/-- What one step of a pool changes is the machine's, or promised by a script. -/
theorem Pool.step_state (machine : S → A → S)
    (keeps : ∀ i, (c.scripts i).Keeps (R i) (G i) (Q i) c.state)
    (choice : Choice A O ι) :
    (c.step machine choice).state = c.state ∨
      (∃ a, (c.step machine choice).state = machine c.state a) ∨
      ∃ i, G i c.state (c.step machine choice).state := by
  cases choice with
  | machine a => exact .inr (.inl ⟨a, rfl⟩)
  | script i o => exact ((keeps i).advance o).1.imp id fun promise => .inr ⟨i, promise⟩

/-- Where every promise is one that the others rely on, each script goes on keeping
its own. -/
theorem Pool.step_keeps (moves : ∀ i a s, R i s (machine s a))
    (respects : ∀ i j, i ≠ j → ∀ s s', G j s s' → R i s s')
    (keeps : ∀ i, (c.scripts i).Keeps (R i) (G i) (Q i) c.state) (choice : Choice A O ι) (i : ι) :
    ((c.step machine choice).scripts i).Keeps (R i) (G i) (Q i) (c.step machine choice).state := by
  cases choice with
  | machine a => exact (keeps i).rely (moves i a c.state)
  | script j o =>
    obtain ⟨changed, rest⟩ := (keeps j).advance o
    simp only [Pool.step]
    by_cases mine : i = j
    · subst mine
      rwa [Function.update_self]
    · rw [Function.update_of_ne mine]
      rcases changed with same | promise
      · rw [same]
        exact keeps i
      · exact (keeps i).rely (respects i j mine _ _ promise)

theorem Pool.run_keeps (moves : ∀ i a s, R i s (machine s a))
    (respects : ∀ i j, i ≠ j → ∀ s s', G j s s' → R i s s')
    (keeps : ∀ i, (c.scripts i).Keeps (R i) (G i) (Q i) c.state) (run : List (Choice A O ι)) (i : ι) :
    ((Run.after (Pool.step machine) c run).scripts i).Keeps (R i) (G i) (Q i)
      (Run.after (Pool.step machine) c run).state :=
  Run.invariant_always
    (P := fun c : Pool S O α ι => ∀ i, (c.scripts i).Keeps (R i) (G i) (Q i) c.state)
    (fun _ choice holds => Pool.step_keeps moves respects holds choice) keeps run i

/-- The pool behind the first `n` turns of an endless schedule. -/
def Pool.reached (machine : S → A → S) (c : Pool S O α ι) (schedule : Nat → Choice A O ι) (n : Nat) :
    Pool S O α ι :=
  Run.after (Pool.step machine) c ((List.range n).map schedule)

variable {schedule : Nat → Choice A O ι} {i : ι}

theorem Pool.reached_succ (n : Nat) :
    c.reached machine schedule (n + 1) = (c.reached machine schedule n).step machine (schedule n) := by
  rw [reached, List.range_succ, List.map_append, Run.after_append]
  rfl

/-- Up to its next turn a script stays where it is. -/
theorem Pool.reached_turn (machine : S → A → S) (c : Pool S O α ι)
    (fair : ∀ n, ∃ m o, n ≤ m ∧ schedule m = .script i o) (n : Nat) :
    ∃ m o, n ≤ m ∧ schedule m = .script i o ∧
      (c.reached machine schedule m).scripts i = (c.reached machine schedule n).scripts i := by
  obtain ⟨m, o, later, turn⟩ := fair n
  have stays : ∀ m, n ≤ m →
      (c.reached machine schedule m).scripts i = (c.reached machine schedule n).scripts i ∨
      ∃ k o, n ≤ k ∧ schedule k = .script i o ∧
        (c.reached machine schedule k).scripts i = (c.reached machine schedule n).scripts i := by
    intro m later
    induction later with
    | refl => exact .inl rfl
    | @step m later ih =>
      rcases ih with same | earlier
      · rw [reached_succ]
        cases next : schedule m with
        | machine a => exact .inl same
        | script j o =>
          by_cases mine : j = i
          · exact .inr ⟨m, o, later, mine ▸ next, same⟩
          · simp only [Pool.step]
            rw [Function.update_of_ne (Ne.symm mine)]
            exact .inl same
      · exact .inr earlier
  rcases stays m later with same | earlier
  · exact ⟨m, o, later, turn, same⟩
  · exact earlier

/-- A script that gets its turn again and again comes to its end. -/
theorem Pool.ends (fair : ∀ n, ∃ m o, n ≤ m ∧ schedule m = .script i o) :
    ∃ n, ((c.reached machine schedule n).scripts i).isDone = true := by
  suffices general : ∀ p n, (c.reached machine schedule n).scripts i = p →
      ∃ n, ((c.reached machine schedule n).scripts i).isDone = true from general _ 0 rfl
  intro p
  induction p with
  | ret value => exact fun n here => ⟨n, by rw [here]; rfl⟩
  | access move next ih =>
    intro n here
    obtain ⟨m, o, _, turn, same⟩ := reached_turn machine c fair n
    refine ih o (c.reached machine schedule m).state (m + 1) ?_
    rw [reached_succ, turn]
    simp only [Pool.step, Function.update_self, same, here]
    rfl

end Pool

end Interleaving
