import Mathlib.Data.List.Perm.Basic
import Knhv.Lib.Masks

universe u v

namespace Consensus

variable {α : Type u} {β : Type v}

/-- A list folded from its first element on, and what stands for an empty one. -/
def reduce (op : β → β → β) (nothing : β) : List β → β
  | [] => nothing
  | first :: rest => rest.foldl op first

/-- The value that two sides share, and what stands for none. -/
def share [DecidableEq β] (nothing a b : β) : β := if a ≠ b then nothing else a

/-- The bits that every word of a list has, of which an empty one has none. -/
def meet {w : Nat} (list : List (BitVec w)) : BitVec w := reduce (· &&& ·) 0#w list

/-- The bits that some word of a list has. -/
def join {w : Nat} (list : List (BitVec w)) : BitVec w := reduce (· ||| ·) 0#w list

/-- The first element of a list is the same as all the others. -/
def uniform (same : α → α → Bool) : List α → Bool
  | [] => true
  | first :: rest => rest.all (same first)

section Reduce

variable {op : β → β → β} {nothing a b first : β} {list other rest : List β}

theorem reduce_concat : reduce op nothing (first :: (rest ++ [a])) =
    op (reduce op nothing (first :: rest)) a := by
  rw [reduce, reduce, List.foldl_append]
  rfl

/-- A fold whose operation takes the elements in any order does not depend on the
first one either. -/
theorem reduce_perm [Std.Associative op] [Std.Commutative op] (shuffled : list.Perm other) :
    reduce op nothing list = reduce op nothing other := by
  induction shuffled with
  | nil => rfl
  | cons a shuffled => exact shuffled.foldl_eq a
  | swap a b list =>
    have turned : op b a = op a b := Std.Commutative.comm b a
    rw [reduce, reduce, List.foldl_cons, List.foldl_cons, turned]
  | trans _ _ first second => exact first.trans second

end Reduce

section Bits

variable {w : Nat} {list : List (BitVec w)} {mask : BitVec w} {bit : Nat}

theorem getLsbD_foldl_and (first : BitVec w) : (list.foldl (· &&& ·) first).getLsbD bit = true ↔
    first.getLsbD bit = true ∧ ∀ word ∈ list, word.getLsbD bit = true := by
  induction list generalizing first with
  | nil => simp
  | cons word rest ih =>
    rw [List.foldl_cons, ih, BitVec.getLsbD_and, Bool.and_eq_true, List.forall_mem_cons, and_assoc]

theorem getLsbD_foldl_or (first : BitVec w) : (list.foldl (· ||| ·) first).getLsbD bit = true ↔
    first.getLsbD bit = true ∨ ∃ word ∈ list, word.getLsbD bit = true := by
  induction list generalizing first with
  | nil => simp
  | cons word rest ih =>
    rw [List.foldl_cons, ih, BitVec.getLsbD_or, Bool.or_eq_true, List.exists_mem_cons_iff, or_assoc]

/-- The intersection of a list has the bits that are in every word of it. -/
theorem getLsbD_meet : (meet list).getLsbD bit = true ↔
    list ≠ [] ∧ ∀ word ∈ list, word.getLsbD bit = true := by
  cases list with
  | nil => simp [meet, reduce]
  | cons first rest =>
    rw [meet, reduce, getLsbD_foldl_and, List.forall_mem_cons]
    exact (and_iff_right (List.cons_ne_nil first rest)).symm

theorem getLsbD_join : (join list).getLsbD bit = true ↔
    ∃ word ∈ list, word.getLsbD bit = true := by
  cases list with
  | nil => simp [join, reduce]
  | cons first rest => rw [join, reduce, getLsbD_foldl_or, List.exists_mem_cons_iff]

theorem meet_inside {word : BitVec w} (member : word ∈ list) :
    meet list &&& ~~~word = 0#w := by
  rw [Masks.and_not_eq_zero_iff]
  exact fun bit every => (getLsbD_meet.mp every).2 word member

theorem join_inside (inside : ∀ word ∈ list, word &&& ~~~mask = 0#w) :
    join list &&& ~~~mask = 0#w := by
  rw [Masks.and_not_eq_zero_iff]
  intro bit some_
  obtain ⟨word, member, here⟩ := getLsbD_join.mp some_
  exact Masks.and_not_eq_zero_iff.mp (inside word member) bit here

theorem meet_concat {first word : BitVec w} {rest : List (BitVec w)} :
    meet (first :: (rest ++ [word])) = meet (first :: rest) &&& word :=
  reduce_concat

theorem join_concat {first word : BitVec w} {rest : List (BitVec w)} :
    join (first :: (rest ++ [word])) = join (first :: rest) ||| word :=
  reduce_concat

theorem meet_perm {other : List (BitVec w)} (shuffled : list.Perm other) : meet list = meet other :=
  reduce_perm shuffled

theorem join_perm {other : List (BitVec w)} (shuffled : list.Perm other) : join list = join other :=
  reduce_perm shuffled

/-- What every word has, some word has. -/
theorem meet_inside_join :
    meet list &&& ~~~join list = 0#w := by
  rw [Masks.and_not_eq_zero_iff]
  intro bit every
  obtain ⟨present, all⟩ := getLsbD_meet.mp every
  obtain ⟨word, member⟩ := List.exists_mem_of_ne_nil _ present
  exact getLsbD_join.mpr ⟨word, member, all word member⟩

/-- Where all the words are the same, so are their intersection and their union. -/
theorem meet_eq_join (same : ∀ a ∈ list, ∀ b ∈ list, a = b) :
    meet list = join list := by
  apply BitVec.eq_of_getLsbD_eq
  intro bit _
  rw [Bool.eq_iff_iff, getLsbD_meet, getLsbD_join]
  constructor
  · rintro ⟨present, all⟩
    obtain ⟨word, member⟩ := List.exists_mem_of_ne_nil _ present
    exact ⟨word, member, all word member⟩
  · rintro ⟨word, member, here⟩
    exact ⟨List.ne_nil_of_mem member, fun other inside => same word member other inside ▸ here⟩

/-- Where all the items tell the same word, so are the intersection and the union of the words. -/
theorem meet_map_eq_join {Item : Type*} {items : List Item} {word : Item → BitVec w}
    (same : ∀ a ∈ items, ∀ b ∈ items, word a = word b) :
    meet (items.map word) = join (items.map word) := by
  refine meet_eq_join ?_
  rw [List.forall_mem_map]
  intro a left
  rw [List.forall_mem_map]
  exact fun b right => same a left b right

end Bits

section Share

variable [DecidableEq β] {nothing a b first : β} {list : List β}

theorem share_nothing : share nothing nothing b = nothing := by
  unfold share
  split <;> rfl

theorem share_self : share nothing a a = a := if_neg fun differ => differ rfl

theorem share_ne (differ : a ≠ b) : share nothing a b = nothing := if_pos differ

theorem share_comm (a b : β) : share nothing a b = share nothing b a := by
  by_cases same : a = b
  · rw [same]
  · rw [share_ne same, share_ne (Ne.symm same)]

instance : Std.Commutative (share nothing) where
  comm := share_comm

instance : Std.Associative (share nothing) where
  assoc a b c := by
    by_cases first : a = b
    · rw [first, share_self]
      by_cases second : b = c
      · rw [second, share_self, share_self]
      · rw [share_ne second, share_comm, share_nothing]
    · rw [share_ne first, share_nothing]
      by_cases second : b = c
      · rw [second, share_self, share_ne (second ▸ first)]
      · rw [share_ne second, share_comm, share_nothing]

theorem foldl_share_nothing : list.foldl (share nothing) nothing = nothing := by
  induction list with
  | nil => rfl
  | cons a rest ih => rw [List.foldl_cons, share_nothing, ih]

theorem foldl_share (agree : ∀ b ∈ list, b = a) : list.foldl (share nothing) a = a := by
  induction list with
  | nil => rfl
  | cons b rest ih =>
    rw [List.foldl_cons, agree b List.mem_cons_self, share_self]
    exact ih fun c inside => agree c (List.mem_cons_of_mem _ inside)

theorem foldl_share_ne (member : b ∈ list) (differ : b ≠ a) :
    list.foldl (share nothing) a = nothing := by
  induction list with
  | nil => cases member
  | cons c rest ih =>
    rw [List.foldl_cons]
    by_cases same : a = c
    · rw [← same, share_self]
      refine ih ((List.mem_cons.mp member).resolve_left fun here => differ (here.trans same.symm))
    · rw [share_ne same, foldl_share_nothing]

/-- A list that agrees shares its value. -/
theorem reduce_share (member : a ∈ list) (agree : ∀ b ∈ list, b = a) :
    reduce (share nothing) nothing list = a := by
  cases list with
  | nil => cases member
  | cons first rest =>
    rw [reduce, agree first List.mem_cons_self]
    exact foldl_share fun b inside => agree b (List.mem_cons_of_mem _ inside)

/-- A list that does not agree shares nothing. -/
theorem reduce_share_ne (left : a ∈ list) (right : b ∈ list) (differ : a ≠ b) :
    reduce (share nothing) nothing list = nothing := by
  cases list with
  | nil => cases left
  | cons first rest =>
    rw [reduce]
    by_cases here : a = first
    · refine foldl_share_ne ((List.mem_cons.mp right).resolve_left fun there => ?_)
        (here ▸ Ne.symm differ)
      exact differ (here.trans there.symm)
    · exact foldl_share_ne ((List.mem_cons.mp left).resolve_left here) here

/-- What a list shares is a value of it, or nothing. -/
theorem reduce_share_cases (list : List β) :
    reduce (share nothing) nothing list = nothing ∨
      reduce (share nothing) nothing list ∈ list := by
  cases list with
  | nil => exact Or.inl rfl
  | cons first rest =>
    by_cases agree : ∀ b ∈ first :: rest, b = first
    · rw [reduce_share List.mem_cons_self agree]
      exact Or.inr List.mem_cons_self
    · push Not at agree
      obtain ⟨b, inside, differ⟩ := agree
      exact Or.inl (reduce_share_ne inside List.mem_cons_self differ)

end Share

section Uniform

variable {same : α → α → Bool} {list : List α}

theorem uniform_concat {first a : α} {rest : List α} :
    uniform same (first :: (rest ++ [a])) = (uniform same (first :: rest) && same first a) := by
  simp [uniform]

/-- Elements that are the same by a key of theirs are so in every direction. -/
theorem equivalence_of_key {κ : Type v} {key : α → κ}
    (keyed : ∀ a b, same a b = true ↔ key a = key b) : Equivalence fun a b => same a b = true where
  refl a := (keyed a a).mpr rfl
  symm {a b} alike := (keyed b a).mpr ((keyed a b).mp alike).symm
  trans {a b c} first second := (keyed a c).mpr (((keyed a b).mp first).trans ((keyed b c).mp second))

/-- For an equivalence, the first element speaks for every pair of the list. -/
theorem uniform_iff (equivalence : Equivalence fun a b => same a b = true) :
    uniform same list = true ↔ ∀ a ∈ list, ∀ b ∈ list, same a b = true := by
  cases list with
  | nil => simp [uniform]
  | cons first rest =>
    rw [uniform, List.all_eq_true]
    constructor
    · intro alike
      have one : ∀ a ∈ first :: rest, same first a = true :=
        List.forall_mem_cons.mpr ⟨equivalence.refl first, alike⟩
      exact fun a left b right => equivalence.trans (equivalence.symm (one a left)) (one b right)
    · exact fun alike a inside => alike first List.mem_cons_self a (List.mem_cons_of_mem _ inside)

theorem uniform_perm (equivalence : Equivalence fun a b => same a b = true) {other : List α}
    (shuffled : list.Perm other) : uniform same list = uniform same other := by
  rw [Bool.eq_iff_iff, uniform_iff equivalence, uniform_iff equivalence]
  simp only [shuffled.mem_iff]

end Uniform

end Consensus
