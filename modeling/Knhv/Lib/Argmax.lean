import Mathlib.Data.List.Induction

universe u

namespace Argmax

variable {α : Type u}

/-- The body of a loop that keeps the best of the candidates it admits. -/
def consider (admits : α → Bool) (better : α → α → Bool) (best : Option α) (x : α) : Option α :=
  if admits x then
    match best with
    | none => some x
    | some champion => if better x champion then some x else some champion
  else best

def scan (admits : α → Bool) (better : α → α → Bool) (xs : List α) : Option α :=
  xs.foldl (consider admits better) none

/-- An admitted entry that no admitted entry beats. -/
structure Best (admits : α → Bool) (better : α → α → Bool) (xs : List α) (x : α) : Prop where
  member : x ∈ xs
  admitted : admits x = true
  unbeaten : ∀ y ∈ xs, admits y = true → better y x = false

variable {admits : α → Bool} {better : α → α → Bool}

theorem scan_snoc (xs : List α) (x : α) :
    scan admits better (xs ++ [x]) = consider admits better (scan admits better xs) x := by
  simp only [scan, List.foldl_append, List.foldl_cons, List.foldl_nil]

theorem scan_eq_none_iff {xs : List α} :
    scan admits better xs = none ↔ ∀ x ∈ xs, admits x = false := by
  induction xs using List.reverseRecOn with
  | nil => simp [scan]
  | append_singleton xs x ih =>
    rw [scan_snoc]
    unfold consider
    cases admitted : admits x with
    | false => simpa [admitted, or_imp, forall_and] using ih
    | true =>
      have loses : ¬∀ y ∈ xs ++ [x], admits y = false := by
        intro none
        rw [none x (by simp)] at admitted
        cases admitted
      simp only [if_true]
      refine iff_of_false ?_ loses
      split
      · nofun
      · split
        · nofun
        · nofun

/-- Nothing that is admitted beats what the loop keeps. -/
theorem scan_best (irreflexive : ∀ x, better x x = false)
    (transitive : ∀ x y z, better x y = true → better y z = true → better x z = true)
    {xs : List α} {champion : α} (kept : scan admits better xs = some champion) :
    Best admits better xs champion := by
  induction xs using List.reverseRecOn generalizing champion with
  | nil => cases kept
  | append_singleton xs x ih =>
    rw [scan_snoc] at kept
    unfold consider at kept
    split at kept
    swap
    · rename_i rejected
      have old := ih kept
      refine ⟨List.mem_append_left _ old.member, old.admitted, fun y member admitted => ?_⟩
      rcases List.mem_append.mp member with before | last
      · exact old.unbeaten y before admitted
      · rw [List.mem_singleton.mp last] at admitted
        exact absurd admitted rejected
    rename_i admitted
    split at kept
    · rename_i nothing
      cases kept
      refine ⟨by simp, admitted, fun y member other => ?_⟩
      rcases List.mem_append.mp member with before | last
      · rw [scan_eq_none_iff.mp nothing y before] at other
        cases other
      · rw [List.mem_singleton.mp last]
        exact irreflexive x
    · rename_i old held
      have best := ih held
      split at kept
      · rename_i wins
        cases kept
        refine ⟨by simp, admitted, fun y member other => ?_⟩
        rcases List.mem_append.mp member with before | last
        · -- Whoever beats the new champion would have beaten the old one.
          by_contra beats
          rw [Bool.not_eq_false] at beats
          have passed := transitive y x old beats wins
          rw [best.unbeaten y before other] at passed
          cases passed
        · rw [List.mem_singleton.mp last]
          exact irreflexive x
      · rename_i loses
        cases kept
        refine ⟨List.mem_append_left _ best.member, best.admitted, fun y member other => ?_⟩
        rcases List.mem_append.mp member with before | last
        · exact best.unbeaten y before other
        · rw [List.mem_singleton.mp last]
          simpa using loses

/-- Where two entries of which neither beats the other are the same, there is
one best entry. -/
theorem Best.unique {xs : List α} {x y : α}
    (total : ∀ x ∈ xs, ∀ y ∈ xs, better x y = false → better y x = false → x = y)
    (first : Best admits better xs x) (second : Best admits better xs y) : x = y :=
  total x first.member y second.member (second.unbeaten x first.member first.admitted)
    (first.unbeaten y second.member second.admitted)

theorem Best.perm {xs ys : List α} {x : α} (best : Best admits better xs x) (same : xs.Perm ys) :
    Best admits better ys x :=
  ⟨same.subset best.member, best.admitted, fun y member =>
    best.unbeaten y (same.symm.subset member)⟩

/-- What the loop keeps does not depend on the order of the candidates. -/
theorem scan_perm (irreflexive : ∀ x, better x x = false)
    (transitive : ∀ x y z, better x y = true → better y z = true → better x z = true)
    {xs ys : List α}
    (total : ∀ x ∈ xs, ∀ y ∈ xs, better x y = false → better y x = false → x = y)
    (same : xs.Perm ys) : scan admits better ys = scan admits better xs := by
  cases kept : scan admits better xs with
  | none =>
    refine scan_eq_none_iff.mpr fun x member => ?_
    exact scan_eq_none_iff.mp kept x (same.symm.subset member)
  | some champion =>
    have best := scan_best irreflexive transitive kept
    cases other : scan admits better ys with
    | none =>
      have rejected := scan_eq_none_iff.mp other champion (same.subset best.member)
      rw [best.admitted] at rejected
      cases rejected
    | some rival =>
      have second := (scan_best irreflexive transitive other).perm same.symm
      rw [second.unique total best]

end Argmax
