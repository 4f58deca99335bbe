import Mathlib.Data.List.Basic

namespace Masks

variable {w : Nat}

/-- The union of the masks whose condition holds. -/
def gather : List (Bool × BitVec w) → BitVec w
  | [] => 0#w
  | part :: parts => (if part.1 then part.2 else 0#w) ||| gather parts

theorem getLsbD_gather {parts : List (Bool × BitVec w)} {bit : Nat} :
    (gather parts).getLsbD bit = true ↔
      ∃ part ∈ parts, part.1 = true ∧ part.2.getLsbD bit = true := by
  induction parts with
  | nil => simp [gather]
  | cons part parts ih =>
    simp only [gather, BitVec.getLsbD_or, Bool.or_eq_true, ih, List.exists_mem_cons_iff]
    refine or_congr ?_ Iff.rfl
    cases present : part.1 with
    | true => simp
    | false => simp

/-- The union is empty iff every mask that is there is. -/
theorem gather_eq_zero_iff {parts : List (Bool × BitVec w)} :
    gather parts = 0#w ↔ ∀ part ∈ parts, part.1 = true → part.2 = 0#w := by
  induction parts with
  | nil => simp [gather]
  | cons part parts ih =>
    rw [gather, BitVec.or_eq_zero_iff, ih, List.forall_mem_cons]
    refine and_congr ?_ Iff.rfl
    cases present : part.1 with
    | true => simp
    | false => simp

theorem and_ne_zero_iff {first second : BitVec w} :
    first &&& second ≠ 0#w ↔ ∃ bit, first.getLsbD bit = true ∧ second.getLsbD bit = true := by
  constructor
  · intro overlap
    by_contra apart
    refine overlap (BitVec.eq_of_getLsbD_eq fun bit _ => ?_)
    rw [BitVec.getLsbD_and, BitVec.getLsbD_zero, Bool.and_eq_false_iff]
    by_cases inFirst : first.getLsbD bit = true
    · exact Or.inr (Bool.eq_false_iff.mpr fun inSecond => apart ⟨bit, inFirst, inSecond⟩)
    · exact Or.inl (Bool.eq_false_iff.mpr inFirst)
  · rintro ⟨bit, inFirst, inSecond⟩ zero
    have here := congrArg (·.getLsbD bit) zero
    simp [inFirst, inSecond] at here

theorem and_not_eq_zero_iff {inner outer : BitVec w} :
    inner &&& ~~~outer = 0#w ↔
      ∀ bit, inner.getLsbD bit = true → outer.getLsbD bit = true := by
  constructor
  · intro inside bit inInner
    by_contra missing
    have bound := BitVec.lt_of_getLsbD inInner
    refine and_ne_zero_iff.mpr ⟨bit, inInner, ?_⟩ inside
    rw [BitVec.getLsbD_not, Bool.eq_false_iff.mpr missing]
    simp [bound]
  · intro contained
    by_contra outside
    obtain ⟨bit, inInner, notOuter⟩ := and_ne_zero_iff.mp outside
    rw [BitVec.getLsbD_not, contained bit inInner] at notOuter
    simp at notOuter

/-- A mask that a word touches is touched by every larger word. -/
theorem touches_of_inside {inner outer mask : BitVec w} (inside : inner &&& ~~~outer = 0#w)
    (touches : inner &&& mask ≠ 0#w) : outer &&& mask ≠ 0#w := by
  obtain ⟨bit, inInner, inMask⟩ := and_ne_zero_iff.mp touches
  exact and_ne_zero_iff.mpr ⟨bit, and_not_eq_zero_iff.mp inside bit inInner, inMask⟩

theorem or_inside {inner outer : BitVec w} (common : BitVec w)
    (inside : inner &&& ~~~outer = 0#w) :
    (common ||| inner) &&& ~~~(common ||| outer) = 0#w := by
  rw [and_not_eq_zero_iff] at inside ⊢
  intro bit selected
  rw [BitVec.getLsbD_or, Bool.or_eq_true] at selected ⊢
  exact selected.imp id (inside bit)

theorem inside_trans {inner middle outer : BitVec w} (first : inner &&& ~~~middle = 0#w)
    (second : middle &&& ~~~outer = 0#w) : inner &&& ~~~outer = 0#w := by
  rw [and_not_eq_zero_iff] at first second ⊢
  exact fun bit inInner => second bit (first bit inInner)

/-- A word ends below a bit iff it is clear of every bit from there on. -/
theorem ushiftRight_eq_zero_iff {word : BitVec w} {k : Nat} :
    word >>> k = 0#w ↔ word &&& BitVec.allOnes w <<< k = 0#w := by
  constructor
  · intro short
    by_contra beyond
    obtain ⟨bit, inWord, above⟩ := and_ne_zero_iff.mp beyond
    have from_ : k ≤ bit := by
      rw [BitVec.getLsbD_shiftLeft] at above
      simp only [Bool.and_eq_true, Bool.not_eq_true', decide_eq_false_iff_not, Nat.not_lt] at above
      exact above.1.2
    have here := congrArg (·.getLsbD (bit - k)) short
    simp only [BitVec.getLsbD_ushiftRight, Nat.add_sub_cancel' from_, inWord, BitVec.getLsbD_zero]
      at here
    cases here
  · intro clear
    refine BitVec.eq_of_getLsbD_eq fun bit inside => ?_
    rw [BitVec.getLsbD_ushiftRight, BitVec.getLsbD_zero, Bool.eq_false_iff]
    intro inWord
    have bound := BitVec.lt_of_getLsbD inWord
    refine and_ne_zero_iff.mpr ⟨k + bit, inWord, ?_⟩ clear
    rw [BitVec.getLsbD_shiftLeft]
    simp [bound]
    omega

theorem and_or_and_not (word mask : BitVec w) : word &&& mask ||| word &&& ~~~mask = word := by
  apply BitVec.eq_of_getLsbD_eq
  intro bit inside
  simp only [BitVec.getLsbD_or, BitVec.getLsbD_and, BitVec.getLsbD_not, inside, decide_true,
    Bool.true_and]
  cases word.getLsbD bit <;> cases mask.getLsbD bit <;> rfl

/-- A mask that covers a word keeps it. -/
theorem and_eq_self {word mask : BitVec w} (inside : word &&& ~~~mask = 0#w) :
    word &&& mask = word := by
  have split := and_or_and_not word mask
  rwa [inside, BitVec.or_zero] at split

/-- What a word has, every larger one has. -/
theorem and_eq_of_inside {inner outer bits : BitVec w} (inside : inner &&& ~~~outer = 0#w)
    (present : inner &&& bits = bits) : outer &&& bits = bits := by
  rw [← present, ← BitVec.and_assoc, BitVec.and_comm outer, and_eq_self inside]

/-- A word that has the bits already keeps its value. -/
theorem or_eq_self {word bits : BitVec w} (present : word &&& bits = bits) :
    word ||| bits = word := by
  apply BitVec.eq_of_getLsbD_eq
  intro bit _
  have here := congrArg (·.getLsbD bit) present
  simp only [BitVec.getLsbD_and] at here
  rw [BitVec.getLsbD_or, ← here]
  cases word.getLsbD bit <;> rfl

theorem and_eq_zero_of_inside {word inner outer : BitVec w} (clear : word &&& outer = 0#w)
    (inside : outer &&& inner = inner) : word &&& inner = 0#w := by
  rw [← inside, ← BitVec.and_assoc, clear, BitVec.zero_and]

/-- A narrow mask sees the low part of the word only. -/
theorem and_setWidth {k : Nat} (word : BitVec w) (mask : BitVec k) :
    word &&& mask.setWidth w = (word.setWidth k &&& mask).setWidth w := by
  apply BitVec.eq_of_getLsbD_eq
  intro bit inside
  simp only [BitVec.getLsbD_and, BitVec.getLsbD_setWidth, inside, decide_true, Bool.true_and]
  by_cases low : bit < k
  · simp [low]
  · simp [BitVec.getLsbD_of_ge mask bit (Nat.le_of_not_lt low)]

/-- Two words that have a bit share it. -/
theorem and_twoPow_ne_zero {left right : BitVec w} {bit : Nat}
    (inLeft : left &&& BitVec.twoPow w bit ≠ 0#w) (inRight : right &&& BitVec.twoPow w bit ≠ 0#w) :
    (left &&& right) &&& BitVec.twoPow w bit ≠ 0#w := by
  obtain ⟨leftBit, leftHas, leftHere⟩ := and_ne_zero_iff.mp inLeft
  obtain ⟨rightBit, rightHas, rightHere⟩ := and_ne_zero_iff.mp inRight
  have same : leftBit = rightBit := by
    simp only [BitVec.getLsbD_twoPow, Bool.and_eq_true, decide_eq_true_eq] at leftHere rightHere
    rw [← leftHere.2, ← rightHere.2]
  rw [← same] at rightHas
  refine and_ne_zero_iff.mpr ⟨leftBit, ?_, leftHere⟩
  rw [BitVec.getLsbD_and, leftHas, rightHas]
  rfl

/-- A single bit that a word touches is inside the word. -/
theorem twoPow_inside {word : BitVec w} {bit : Nat} (touches : word &&& BitVec.twoPow w bit ≠ 0#w) :
    BitVec.twoPow w bit &&& ~~~word = 0#w := by
  obtain ⟨shared, inWord, here⟩ := and_ne_zero_iff.mp touches
  rw [and_not_eq_zero_iff]
  intro other there
  simp only [BitVec.getLsbD_twoPow, Bool.and_eq_true, decide_eq_true_eq] at here there
  rwa [← there.2, here.2]

/-- A word is inside the union if the parts could cover it and every part that
it touches is there. -/
theorem inside_gather {word : BitVec w} {parts : List (Bool × BitVec w)}
    (coverable : word &&& ~~~gather (parts.map fun part => (true, part.2)) = 0#w)
    (touched : ∀ part ∈ parts, word &&& part.2 ≠ 0#w → part.1 = true) :
    word &&& ~~~gather parts = 0#w := by
  rw [and_not_eq_zero_iff] at coverable ⊢
  intro bit inWord
  obtain ⟨full, member, _, inPart⟩ := getLsbD_gather.mp (coverable bit inWord)
  obtain ⟨part, partMember, rfl⟩ := List.mem_map.mp member
  have present := touched part partMember (and_ne_zero_iff.mpr ⟨bit, inWord, inPart⟩)
  exact getLsbD_gather.mpr ⟨part, partMember, present, inPart⟩

/-- The union of parts that are inside a mask is inside it too. -/
theorem gather_inside {mask : BitVec w} {parts : List (Bool × BitVec w)}
    (inside : ∀ part ∈ parts, part.2 &&& ~~~mask = 0#w) : gather parts &&& ~~~mask = 0#w := by
  rw [and_not_eq_zero_iff]
  intro bit here
  obtain ⟨part, member, _, inPart⟩ := getLsbD_gather.mp here
  exact and_not_eq_zero_iff.mp (inside part member) bit inPart

/-- A mask that the union touches is touched by a part that is there. -/
theorem touches_gather {mask : BitVec w} {parts : List (Bool × BitVec w)}
    (touches : gather parts &&& mask ≠ 0#w) :
    ∃ part ∈ parts, part.1 = true ∧ part.2 &&& mask ≠ 0#w := by
  obtain ⟨bit, inGather, inMask⟩ := and_ne_zero_iff.mp touches
  obtain ⟨part, member, present, inPart⟩ := getLsbD_gather.mp inGather
  exact ⟨part, member, present, and_ne_zero_iff.mpr ⟨bit, inPart, inMask⟩⟩

theorem touches_gather_iff {mask : BitVec w} {parts : List (Bool × BitVec w)} :
    gather parts &&& mask ≠ 0#w ↔ ∃ part ∈ parts, part.1 = true ∧ part.2 &&& mask ≠ 0#w := by
  refine ⟨touches_gather, ?_⟩
  rintro ⟨part, member, present, touches⟩
  obtain ⟨bit, inPart, inMask⟩ := and_ne_zero_iff.mp touches
  exact and_ne_zero_iff.mpr ⟨bit, getLsbD_gather.mpr ⟨part, member, present, inPart⟩, inMask⟩

/-- Words that differ in `changed` bits only agree on every mask that has none
of them. -/
theorem agree_of_xor {first second changed mask : BitVec w}
    (differ : (first ^^^ second) &&& ~~~changed = 0#w) (apart : mask &&& changed = 0#w) :
    first &&& mask = second &&& mask := by
  refine BitVec.eq_of_getLsbD_eq fun bit inside => ?_
  by_cases inMask : mask.getLsbD bit = true
  · have unchanged : changed.getLsbD bit = false := by
      have here := congrArg (·.getLsbD bit) apart
      simpa [inMask] using here
    have here := congrArg (·.getLsbD bit) differ
    simp only [BitVec.getLsbD_and, BitVec.getLsbD_xor, BitVec.getLsbD_not, inside, decide_true,
      unchanged, Bool.not_false, Bool.and_true, BitVec.getLsbD_zero] at here
    rw [BitVec.getLsbD_and, BitVec.getLsbD_and, bne_eq_false_iff_eq.mp here]
  · simp [BitVec.getLsbD_and, inMask]

/-- A word whose decided bits are those given. -/
def splice (decided given word : BitVec w) : BitVec w := word &&& ~~~decided ||| given

section Splice

variable {decided given word other mask bit : BitVec w}

theorem splice_zero : splice 0#w 0#w word = word := by
  simp [splice]

theorem splice_splice {decided2 given2 : BitVec w} :
    splice decided2 given2 (splice decided given word) =
      splice (decided ||| decided2) (given &&& ~~~decided2 ||| given2) word := by
  simp only [splice, BitVec.and_or_distrib_right, BitVec.not_or, BitVec.and_assoc,
    BitVec.or_assoc]

theorem or_eq_splice : word ||| bit = splice bit bit word := by
  apply BitVec.eq_of_getLsbD_eq
  intro i inside
  simp only [splice, BitVec.getLsbD_or, BitVec.getLsbD_and, BitVec.getLsbD_not, inside,
    decide_true, Bool.true_and]
  cases word.getLsbD i <;> cases bit.getLsbD i <;> rfl

/-- A decided bit is as it is given. -/
theorem splice_and (inside : bit &&& ~~~decided = 0#w) :
    splice decided given word &&& bit = given &&& bit := by
  have apart : word &&& ~~~decided &&& bit = 0#w := by
    rw [BitVec.and_assoc, BitVec.and_comm _ bit, inside, BitVec.and_zero]
  rw [splice, BitVec.and_or_distrib_right, apart, BitVec.zero_or]

/-- What is spliced into a word is inside the word, but for the decided bits. -/
theorem splice_inside (givenInside : given &&& ~~~decided = 0#w) :
    splice decided given word &&& ~~~(word ||| decided) = 0#w := by
  rw [and_not_eq_zero_iff] at givenInside ⊢
  intro bit selected
  simp only [splice, BitVec.getLsbD_or, BitVec.getLsbD_and, Bool.or_eq_true, Bool.and_eq_true]
    at selected ⊢
  exact selected.imp And.left (givenInside bit)

theorem splice_cleared_inside : splice decided 0#w word &&& ~~~word = 0#w := by
  rw [splice, BitVec.or_zero, and_not_eq_zero_iff]
  intro bit kept
  rw [BitVec.getLsbD_and, Bool.and_eq_true] at kept
  exact kept.1

/-- Two words agree once they are spliced iff they agree on what is not decided. -/
theorem splice_eq_iff (givenInside : given &&& ~~~decided = 0#w) :
    splice decided given word = splice decided given other ↔
      word &&& ~~~decided = other &&& ~~~decided := by
  have kept (word : BitVec w) : splice decided given word &&& ~~~decided = word &&& ~~~decided := by
    rw [splice, BitVec.and_or_distrib_right, givenInside, BitVec.or_zero, BitVec.and_assoc,
      BitVec.and_self]
  constructor
  · intro same
    rw [← kept word, same, kept]
  · intro same
    rw [splice, same, splice]

theorem and_eq_self_iff : word &&& mask = word ↔ word &&& ~~~mask = 0#w := by
  refine ⟨fun same => ?_, and_eq_self⟩
  rw [← same, BitVec.and_assoc, BitVec.and_not_self]
  exact BitVec.and_zero

/-- A mask changes nothing that is not decided iff it takes no such bit away. -/
theorem splice_mask_eq_iff (givenInside : given &&& ~~~decided = 0#w) :
    splice decided given (word &&& mask) = splice decided given word ↔
      word &&& ~~~decided &&& ~~~mask = 0#w := by
  rw [splice_eq_iff givenInside, ← and_eq_self_iff, BitVec.and_assoc, BitVec.and_assoc,
    BitVec.and_comm mask]

end Splice

end Masks

namespace MaskMerge

open Masks

variable {w : Nat}

/-- What a word must meet: the required bits are there, the forbidden ones are
not, the bits fixed to one are there, and no bit fixed to zero is. -/
structure Fits (required forbidden allowed0 allowed1 word : BitVec w) : Prop where
  required : required &&& ~~~word = 0#w
  forbidden : word &&& forbidden = 0#w
  allowed : word &&& ~~~allowed1 = 0#w
  fixed : (allowed0 &&& allowed1) &&& ~~~word = 0#w

/-- The requested, the required and the fixed bits, cut to the allowed ones. -/
def merge (requested required allowed0 allowed1 : BitVec w) : BitVec w :=
  (requested ||| required ||| allowed0) &&& allowed1

variable {requested required forbidden allowed0 allowed1 word extra : BitVec w}

theorem getLsbD_merge {bit : Nat} :
    (merge requested required allowed0 allowed1).getLsbD bit = true ↔
      (requested.getLsbD bit = true ∨ required.getLsbD bit = true ∨ allowed0.getLsbD bit = true) ∧
        allowed1.getLsbD bit = true := by
  simp only [merge, BitVec.getLsbD_and, BitVec.getLsbD_or, Bool.and_eq_true, Bool.or_eq_true,
    or_assoc]

theorem inside_or_left (word extra : BitVec w) : word &&& ~~~(word ||| extra) = 0#w := by
  rw [and_not_eq_zero_iff]
  intro bit inWord
  rw [BitVec.getLsbD_or, inWord, Bool.true_or]

/-- A request cut to the allowed bits, with the mandatory ones added, stays
inside the allowed ones where the mandatory ones are. -/
theorem adjusted_inside {mandatory allowed : BitVec w} (requested : BitVec w)
    (capable : mandatory &&& ~~~allowed = 0#w) :
    (requested &&& allowed ||| mandatory) &&& ~~~allowed = 0#w := by
  rw [and_not_eq_zero_iff] at capable ⊢
  intro bit inside
  rw [BitVec.getLsbD_or, BitVec.getLsbD_and, Bool.or_eq_true, Bool.and_eq_true] at inside
  exact inside.elim And.right (capable bit)

/-- A request for allowed bits is met, also after more bits are added. -/
theorem requested_inside (supported : requested &&& ~~~allowed1 = 0#w) :
    requested &&& ~~~(merge requested required allowed0 allowed1 ||| extra) = 0#w := by
  refine inside_trans ?_ (inside_or_left _ extra)
  rw [and_not_eq_zero_iff] at supported ⊢
  exact fun bit inside => getLsbD_merge.mpr ⟨.inl inside, supported bit inside⟩

/-- The merge and the added bits come from the four sources. -/
theorem merge_or_inside {own : BitVec w} (explained : extra &&& ~~~own = 0#w) :
    (merge requested required allowed0 allowed1 ||| extra) &&&
      ~~~(requested ||| required ||| allowed0 ||| own) = 0#w := by
  rw [and_not_eq_zero_iff] at explained ⊢
  intro bit inside
  simp only [BitVec.getLsbD_or, Bool.or_eq_true] at inside ⊢
  rcases inside with merged | inExtra
  · exact .inl (or_assoc.mpr (getLsbD_merge.mp merged).1)
  · exact .inr (explained bit inExtra)

theorem Fits.of_merge (supported : required &&& ~~~allowed1 = 0#w)
    (clear : merge requested required allowed0 allowed1 &&& forbidden = 0#w) :
    Fits required forbidden allowed0 allowed1 (merge requested required allowed0 allowed1) := by
  rw [and_not_eq_zero_iff] at supported
  refine ⟨?_, clear, ?_, ?_⟩
  · rw [and_not_eq_zero_iff]
    exact fun bit inside => getLsbD_merge.mpr ⟨.inr (.inl inside), supported bit inside⟩
  · rw [and_not_eq_zero_iff]
    exact fun bit inside => (getLsbD_merge.mp inside).2
  · rw [and_not_eq_zero_iff]
    intro bit inside
    rw [BitVec.getLsbD_and, Bool.and_eq_true] at inside
    exact getLsbD_merge.mpr ⟨.inr (.inr inside.1), inside.2⟩

/-- A word that fits is its own merge. -/
theorem Fits.merge_eq (fits : Fits required forbidden allowed0 allowed1 word) :
    merge word required allowed0 allowed1 = word := by
  have needed := and_not_eq_zero_iff.mp fits.required
  have allowed := and_not_eq_zero_iff.mp fits.allowed
  have fixed := and_not_eq_zero_iff.mp fits.fixed
  refine BitVec.eq_of_getLsbD_eq fun bit _ => Bool.eq_iff_iff.mpr ?_
  rw [getLsbD_merge]
  constructor
  · rintro ⟨inWord | inRequired | inFixed, inAllowed⟩
    · exact inWord
    · exact needed bit inRequired
    · exact fixed bit (by rw [BitVec.getLsbD_and, inFixed, inAllowed, Bool.and_true])
  · exact fun inWord => ⟨.inl inWord, allowed bit inWord⟩

theorem Fits.required_allowed (fits : Fits required forbidden allowed0 allowed1 word) :
    required &&& ~~~allowed1 = 0#w :=
  inside_trans fits.required fits.allowed

theorem Fits.required_forbidden (fits : Fits required forbidden allowed0 allowed1 word) :
    required &&& forbidden = 0#w := by
  by_contra both
  exact touches_of_inside fits.required both fits.forbidden

/-- Allowed bits that are not forbidden may be added. -/
theorem Fits.or (fits : Fits required forbidden allowed0 allowed1 word)
    (clear : extra &&& forbidden = 0#w) (allowed : extra &&& ~~~allowed1 = 0#w) :
    Fits required forbidden allowed0 allowed1 (word ||| extra) := by
  have grows := inside_or_left word extra
  refine ⟨inside_trans fits.required grows, ?_, ?_, inside_trans fits.fixed grows⟩
  · rw [BitVec.and_or_distrib_right, fits.forbidden, clear, BitVec.or_zero]
  · rw [BitVec.and_or_distrib_right, fits.allowed, allowed, BitVec.or_zero]

end MaskMerge
