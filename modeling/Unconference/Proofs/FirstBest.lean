import Mathlib.Algebra.Order.Group.Nat
import Mathlib.Data.List.Induction
import Mathlib.Tactic.Push

/-!
# The first of the best

Several decisions are made by walking through a list and changing over to an element only if it has
strictly more points than the one in hand.  Such a walk ends with the first of the elements that
have the most points, which `FirstBest` describes without a walk.
-/

namespace Unconference

section

variable {α : Type}

/-- The most points that an element of the list has, none if there are no elements. -/
def most (points : α → Nat) : List α → Nat
  | [] => 0
  | element :: rest => max (points element) (most points rest)

/-- The first of those elements that have the most points, of which there have to be some. -/
def FirstBest (points : α → Nat) (elements : List α) (element : α) : Prop :=
  0 < points element ∧
    ∃ before after,
      elements = before ++ element :: after ∧
        (∀ other ∈ before, points other < points element) ∧
          ∀ other ∈ after, points other ≤ points element

/-- The walk, with what is in hand at first and the points it has. -/
def changingOver (points : α → Nat) (inHand : Option (α × Nat)) (elements : List α) :
    Option (α × Nat) :=
  elements.foldl
    (fun kept element =>
      if (kept.map (·.2)).getD 0 < points element then some (element, points element) else kept)
    inHand

variable {points : α → Nat} {elements : List α} {element other : α}

@[simp] theorem most_nil : most points [] = 0 := rfl

@[simp] theorem most_cons (element : α) (rest : List α) :
    most points (element :: rest) = max (points element) (most points rest) := rfl

@[simp] theorem most_append (left right : List α) :
    most points (left ++ right) = max (most points left) (most points right) := by
  induction left with
  | nil => simp
  | cons element rest ih => simp [ih, max_assoc]

theorem most_le_iff {bound : Nat} :
    most points elements ≤ bound ↔ ∀ element ∈ elements, points element ≤ bound := by
  induction elements with
  | nil => simp
  | cons element rest ih => simp [ih]

theorem le_most (hmem : element ∈ elements) : points element ≤ most points elements :=
  most_le_iff.1 le_rfl element hmem

theorem most_mono {few many : List α} (hsubset : few ⊆ many) :
    most points few ≤ most points many :=
  most_le_iff.2 fun _ hmem => le_most (hsubset hmem)

theorem lt_most_iff {bound : Nat} :
    bound < most points elements ↔ ∃ element ∈ elements, bound < points element := by
  rw [← not_le, most_le_iff]
  push Not
  rfl

namespace FirstBest

theorem mem (hfirst : FirstBest points elements element) : element ∈ elements := by
  obtain ⟨_, before, after, rfl, _, _⟩ := hfirst
  simp

theorem points_eq_most (hfirst : FirstBest points elements element) :
    points element = most points elements := by
  apply le_antisymm (le_most hfirst.mem)
  obtain ⟨_, before, after, rfl, hbefore, hafter⟩ := hfirst
  rw [most_le_iff]
  intro candidate hmem
  rcases List.mem_append.1 hmem with hmem | hmem
  · exact (hbefore candidate hmem).le
  · rcases List.mem_cons.1 hmem with rfl | hmem
    · exact le_rfl
    · exact hafter candidate hmem

theorem unique
    (hfirst : FirstBest points elements element) (hother : FirstBest points elements other) :
    element = other := by
  have hequal : points element = points other := by
    rw [hfirst.points_eq_most, hother.points_eq_most]
  obtain ⟨_, before, after, hsplit, hbefore, _⟩ := hfirst
  obtain ⟨_, before', after', hsplit', hbefore', _⟩ := hother
  rw [hsplit] at hsplit'
  -- whichever of the two comes first would have fewer points than the other
  rcases List.append_eq_append_iff.1 hsplit' with
    ⟨middle, rfl, hrest⟩ | ⟨middle, rfl, hrest⟩
  · cases middle with
    | nil => exact (List.cons.inj hrest).1
    | cons head tail =>
        obtain rfl := (List.cons.inj hrest).1
        have hlt := hbefore' element (by simp)
        omega
  · cases middle with
    | nil => exact (List.cons.inj hrest).1.symm
    | cons head tail =>
        obtain rfl := (List.cons.inj hrest).1
        have hlt := hbefore other (by simp)
        omega

theorem append_singleton
    (hfirst : FirstBest points elements element) (hle : points other ≤ points element) :
    FirstBest points (elements ++ [other]) element := by
  obtain ⟨hpos, before, after, rfl, hbefore, hafter⟩ := hfirst
  refine ⟨hpos, before, after ++ [other], by simp, hbefore, ?_⟩
  intro candidate hmem
  rcases List.mem_append.1 hmem with hmem | hmem
  · exact hafter candidate hmem
  · rw [List.mem_singleton.1 hmem]
    exact hle

theorem of_most_lt (hlt : most points elements < points element) :
    FirstBest points (elements ++ [element]) element := by
  refine ⟨by omega, elements, [], rfl, ?_, by simp⟩
  intro candidate hmem
  exact lt_of_le_of_lt (le_most hmem) hlt

/-- Taking out other elements leaves the first of the best where it is. -/
theorem filter
    (hfirst : FirstBest points elements element) {keep : α → Bool}
    (hkeep : keep element = true) : FirstBest points (elements.filter keep) element := by
  obtain ⟨hpos, before, after, rfl, hbefore, hafter⟩ := hfirst
  refine ⟨hpos, before.filter keep, after.filter keep, by simp [hkeep], ?_, ?_⟩
  · intro candidate hmem
    exact hbefore candidate (List.mem_filter.1 hmem).1
  · intro candidate hmem
    exact hafter candidate (List.mem_filter.1 hmem).1

end FirstBest

/-! ## The walk -/

theorem changingOver_append_singleton
    (inHand : Option (α × Nat)) (elements : List α) (element : α) :
    changingOver points inHand (elements ++ [element]) =
      if ((changingOver points inHand elements).map (·.2)).getD 0 < points element
      then some (element, points element)
      else changingOver points inHand elements := by
  unfold changingOver
  rw [List.foldl_append, List.foldl_cons, List.foldl_nil]

/-- The walk either keeps what it began with, which nothing beats, or ends with the first of the
best, which beats it. -/
theorem changingOver_spec
    (points : α → Nat) (inHand : Option (α × Nat)) (elements : List α) :
    (changingOver points inHand elements = inHand ∧
        most points elements ≤ (inHand.map (·.2)).getD 0) ∨
      ∃ element,
        changingOver points inHand elements = some (element, points element) ∧
          (inHand.map (·.2)).getD 0 < points element ∧ FirstBest points elements element := by
  induction elements using List.reverseRecOn with
  | nil => exact .inl ⟨rfl, Nat.zero_le _⟩
  | append_singleton elements other ih =>
      rw [changingOver_append_singleton, most_append, most_cons, most_nil]
      rcases ih with ⟨hkept, hmost⟩ | ⟨element, hfound, hbeats, hfirst⟩
      · rw [hkept]
        by_cases hlt : (inHand.map (·.2)).getD 0 < points other
        · rw [if_pos hlt]
          exact .inr ⟨other, rfl, hlt, .of_most_lt (by omega)⟩
        · rw [if_neg hlt]
          exact .inl ⟨rfl, by omega⟩
      · simp only [hfound, Option.map_some, Option.getD_some]
        have hmost := hfirst.points_eq_most
        by_cases hlt : points element < points other
        · rw [if_pos hlt]
          exact .inr ⟨other, rfl, by omega, .of_most_lt (by omega)⟩
        · rw [if_neg hlt]
          exact .inr ⟨element, rfl, hbeats, hfirst.append_singleton (by omega)⟩

theorem changingOver_none_spec (points : α → Nat) (elements : List α) :
    (changingOver points none elements = none ∧ most points elements = 0) ∨
      ∃ element,
        changingOver points none elements = some (element, points element) ∧
          FirstBest points elements element := by
  rcases changingOver_spec points none elements with
    ⟨hnone, hmost⟩ | ⟨element, hfound, _, hfirst⟩
  · exact .inl ⟨hnone, Nat.le_zero.1 hmost⟩
  · exact .inr ⟨element, hfound, hfirst⟩

theorem changingOver_none_eq_none_iff :
    changingOver points none elements = none ↔ most points elements = 0 := by
  rcases changingOver_none_spec points elements with
    ⟨hnone, hmost⟩ | ⟨element, hfound, hfirst⟩
  · simp [hnone, hmost]
  · have hmost := hfirst.points_eq_most
    have hpos := hfirst.1
    simp only [hfound, reduceCtorEq, false_iff]
    omega

theorem changingOver_none_eq_some_iff {amount : Nat} :
    changingOver points none elements = some (element, amount) ↔
      FirstBest points elements element ∧ amount = points element := by
  rcases changingOver_none_spec points elements with
    ⟨hnone, hmost⟩ | ⟨found, hfound, hfirst⟩
  · rw [hnone]
    constructor
    · intro hsome
      simp at hsome
    · rintro ⟨hfirst, _⟩
      have hequal := hfirst.points_eq_most
      have hpos := hfirst.1
      omega
  · rw [hfound]
    constructor
    · intro hsome
      obtain ⟨rfl, rfl⟩ := Prod.mk.inj (Option.some.inj hsome)
      exact ⟨hfirst, rfl⟩
    · rintro ⟨helement, rfl⟩
      rw [hfirst.unique helement]

theorem changingOver_none_points (elements : List α) :
    ((changingOver points none elements).map (·.2)).getD 0 = most points elements := by
  rcases changingOver_none_spec points elements with
    ⟨hnone, hmost⟩ | ⟨element, hfound, hfirst⟩
  · simp [hnone, hmost]
  · simp [hfound, hfirst.points_eq_most]

/-- The walk that keeps a pair instead of an optional one. -/
theorem some_foldl_eq_changingOver (inHand : α × Nat) (elements : List α) :
    some (elements.foldl
        (fun kept element => if kept.2 < points element then (element, points element) else kept)
        inHand) =
      changingOver points (some inHand) elements := by
  unfold changingOver
  induction elements generalizing inHand with
  | nil => rfl
  | cons element rest ih =>
      rw [List.foldl_cons, List.foldl_cons, ih]
      congr 1
      by_cases hlt : inHand.2 < points element <;> simp [hlt]

end

end Unconference
