import Mathlib.Algebra.Group.Nat.Defs
import Mathlib.Data.List.Induction
import Mathlib.Data.List.Pairwise
import Mathlib.Data.List.Perm.Basic

universe u v

namespace Census

variable {α : Type u} {S : Type v}

/-- Every element of a list is sound and none is the same as one before it or as a
prior one. -/
def accepts (sound : α → Bool) (same : α → α → Bool) (prior : List α) : List α → Bool
  | [] => true
  | a :: rest =>
    if !sound a || prior.any (same a) then false else accepts sound same (prior ++ [a]) rest

/-- The same checks in front of a fold, which stops at the first that fails. -/
def scan (sound : α → Bool) (same : α → α → Bool) (observe : S → α → S) (prior : List α) :
    List α → S → Bool × S
  | [], s => (true, s)
  | a :: rest, s =>
    if !sound a || prior.any (same a) then (false, s)
    else scan sound same observe (prior ++ [a]) rest (observe s a)

variable {sound : α → Bool} {same : α → α → Bool} {observe : S → α → S} {prior list : List α}

theorem accepts_iff : accepts sound same prior list = true ↔
    (∀ a ∈ list, sound a = true) ∧ (∀ a ∈ list, ∀ b ∈ prior, same a b = false) ∧
      list.Pairwise fun b a => same a b = false := by
  induction list generalizing prior with
  | nil => simp [accepts]
  | cons a rest ih =>
    simp only [accepts]
    cases here : sound a with
    | false => simp [here]
    | true =>
      cases seen : prior.any (same a) with
      | true =>
        obtain ⟨b, before, clash⟩ := List.any_eq_true.mp seen
        simp only [Bool.not_true, Bool.or_true, if_true, Bool.false_eq_true, false_iff]
        rintro ⟨_, apart, _⟩
        rw [apart a List.mem_cons_self b before] at clash
        cases clash
      | false =>
        have apart : ∀ b ∈ prior, same a b = false := by simpa using seen
        simp only [Bool.not_true, Bool.or_self, Bool.false_eq_true, if_false, ih,
          List.forall_mem_cons, List.pairwise_cons, here, true_and]
        constructor
        · rintro ⟨sounds, others, pairs⟩
          exact ⟨sounds, ⟨apart, fun c inside b before =>
            others c inside b (List.mem_append_left _ before)⟩, fun c inside =>
            others c inside a (List.mem_append_right _ List.mem_cons_self), pairs⟩
        · rintro ⟨sounds, ⟨_, others⟩, own, pairs⟩
          refine ⟨sounds, fun c inside b before => ?_, pairs⟩
          rcases List.mem_append.mp before with earlier | last
          · exact others c inside b earlier
          · exact List.mem_singleton.mp last ▸ own c inside

/-- Whether a list is accepted does not depend on its order. -/
theorem accepts_perm {other : List α} (shuffled : list.Perm other)
    (symmetric : ∀ a b, same a b = same b a) :
    accepts sound same [] list = accepts sound same [] other := by
  have swap : ∀ {a b : α}, same b a = false → same a b = false :=
    fun {a b} apart => (symmetric a b).trans apart
  rw [Bool.eq_iff_iff, accepts_iff, accepts_iff]
  refine and_congr (forall_congr' fun a => by rw [shuffled.mem_iff]) ?_
  exact and_congr (by simp) (shuffled.pairwise_iff swap)

theorem scan_fst (s : S) :
    (scan sound same observe prior list s).1 = accepts sound same prior list := by
  induction list generalizing prior s with
  | nil => rfl
  | cons a rest ih =>
    simp only [scan, accepts]
    split
    · rfl
    · exact ih (observe s a)

theorem scan_accepted (accepted : accepts sound same prior list = true) (s : S) :
    scan sound same observe prior list s = (true, list.foldl observe s) := by
  induction list generalizing prior s with
  | nil => rfl
  | cons a rest ih =>
    simp only [scan, accepts] at accepted ⊢
    split at accepted
    · cases accepted
    · rename_i checked
      rw [if_neg checked]
      exact ih accepted (observe s a)

theorem scan_refused (refused : accepts sound same prior list = false) (observe : S → α → S)
    (s : S) : ∃ left, scan sound same observe prior list s = (false, left) :=
  ⟨_, Prod.ext ((scan_fst s).trans refused) rfl⟩

/-- What every step of the fold keeps holds of where it stops. -/
theorem scan_keeps {P : S → Prop} (keeps : ∀ s a, P s → P (observe s a)) {s : S} (start : P s) :
    P (scan sound same observe prior list s).2 := by
  induction list generalizing prior s with
  | nil => exact start
  | cons a rest ih =>
    rw [scan]
    split
    · exact start
    · exact ih (keeps s a start)

/-- A fold, by what it is to keep of the list as a whole. -/
theorem foldl_eq {whole : List α → S} (concat : ∀ list a, observe (whole list) a = whole (list ++ [a]))
    (list : List α) : list.foldl observe (whole []) = whole list := by
  induction list using List.reverseRecOn with
  | nil => rfl
  | append_singleton list a ih => rw [List.foldl_concat, ih, concat]

/-- Where the elements that fit are all the same, the first of them is the only one. -/
theorem find_unique {fits : α → Bool} (accepted : accepts sound same [] list = true)
    (symmetric : ∀ a b, same a b = same b a) {a : α} (member : a ∈ list) (here : fits a = true)
    (only : ∀ b ∈ list, fits b = true → same a b = true) : list.find? fits = some a := by
  have present : (list.find? fits).isSome = true := List.find?_isSome.mpr ⟨a, member, here⟩
  obtain ⟨b, found⟩ := Option.isSome_iff_exists.mp present
  have inside := List.mem_of_find?_eq_some found
  have alike := only b inside (List.find?_some found)
  have apart : Std.Symm fun c d => same d c = false :=
    ⟨fun c d distinct => (symmetric c d).trans distinct⟩
  by_cases equal : a = b
  · rw [found, equal]
  · have distinct := (accepts_iff.mp accepted).2.2.forall inside member (Ne.symm equal)
    exact absurd (distinct.symm.trans alike) nofun

/-- The number of elements that do not fit. -/
def rejected (fits : α → Bool) (list : List α) : Nat := list.countP fun a => !fits a

section Rejected

variable {fits : α → Bool} {a : α}

theorem filter_concat : (list ++ [a]).filter fits =
    if fits a then list.filter fits ++ [a] else list.filter fits := by
  rw [List.filter_append]
  cases here : fits a <;> simp [here]

theorem rejected_concat : rejected fits (list ++ [a]) =
    if fits a then rejected fits list else rejected fits list + 1 := by
  rw [rejected, List.countP_append, rejected]
  cases here : fits a <;> simp [here]

theorem rejected_perm {other : List α} (shuffled : list.Perm other) :
    rejected fits list = rejected fits other :=
  shuffled.countP_eq _

theorem filter_length_add_rejected :
    (list.filter fits).length + rejected fits list = list.length := by
  rw [← List.countP_eq_length_filter, rejected, List.length_eq_countP_add_countP fits (l := list)]
  simp only [Bool.not_eq_true, Bool.decide_eq_false]

/-- Nothing is rejected iff everything fits. -/
theorem rejected_eq_zero_iff : rejected fits list = 0 ↔ ∀ a ∈ list, fits a = true := by
  rw [rejected, List.countP_eq_zero]
  simp

/-- The number of elements that fit, as the difference of two counters. -/
theorem sub_rejected {w : Nat} {count : BitVec w} (length : count.toNat = list.length) :
    count - BitVec.ofNat w (rejected fits list) = BitVec.ofNat w (list.filter fits).length := by
  have whole : (list.filter fits).length + rejected fits list = list.length :=
    filter_length_add_rejected
  have few : rejected fits list < 2 ^ w := by
    have bound := count.isLt
    omega
  apply BitVec.eq_of_toNat_eq
  rw [BitVec.toNat_sub_of_le, BitVec.toNat_ofNat, BitVec.toNat_ofNat, Nat.mod_eq_of_lt few,
    Nat.mod_eq_of_lt (by omega)]
  · omega
  · rw [BitVec.le_def, BitVec.toNat_ofNat, Nat.mod_eq_of_lt few]
    omega

theorem ofNat_eq_zero_iff {w n : Nat} (small : n < 2 ^ w) : BitVec.ofNat w n = 0#w ↔ n = 0 := by
  rw [← BitVec.toNat_inj, BitVec.toNat_ofNat, Nat.mod_eq_of_lt small, BitVec.toNat_zero]

theorem ofNat_le {w n : Nat} {count : BitVec w} (few : n ≤ count.toNat) :
    BitVec.ofNat w n ≤ count := by
  rw [BitVec.le_def, BitVec.toNat_ofNat]
  exact Nat.le_trans (Nat.mod_le _ _) few

end Rejected

end Census
