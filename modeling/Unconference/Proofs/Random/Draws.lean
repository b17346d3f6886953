import Unconference.Random.Draw
import Mathlib.Algebra.Order.Group.Nat

/-!
# What draws answer

A draw answers a number in its range, or nothing if its patience runs out.  A source on which no
draw ever runs out of patience is one whose draws return.  `Yields` says of a computation that it
answers something good unless its draws do not return; it is established draw by draw.
-/

namespace Unconference

section

variable {σ α β : Type}

theorem drawUntil_eq_some
    {next : σ → Nat × σ} {accepted : Nat → Option α} {patience : Nat} {source rest : σ} {drawn : α}
    (hdrawn : drawUntil next accepted patience source = some (drawn, rest)) :
    ∃ earlier, accepted (next earlier).1 = some drawn := by
  induction patience generalizing source with
  | zero => simp [drawUntil] at hdrawn
  | succ patience ih =>
      cases haccepted : accepted (next source).1 with
      | none =>
          have hagain : drawUntil next accepted patience (next source).2 = some (drawn, rest) := by
            simpa [drawUntil, haccepted] using hdrawn
          exact ih hagain
      | some found =>
          have hfound : found = drawn ∧ (next source).2 = rest := by
            simpa [drawUntil, haccepted] using hdrawn
          exact ⟨source, by rw [haccepted, hfound.1]⟩

theorem accept_lt
    {width n word drawn : Nat} (hpos : 0 < n) (hword : word < 2 ^ width)
    (haccept : accept width n word = some drawn) : drawn < n := by
  unfold accept at haccept
  split at haccept
  · obtain rfl := Option.some.inj haccept
    rw [Nat.pow_eq, Nat.div_lt_iff_lt_mul (Nat.two_pow_pos width), Nat.mul_comm n]
    exact Nat.mul_lt_mul_of_pos_right hword hpos
  · cases haccept

/-- Whatever is drawn, a word without any bits will do. -/
theorem accept_zero {width n : Nat} (hpos : 0 < n) : accept width n 0 = some 0 := by
  have haccepted : 0 < acceptedBelow width n := Nat.mul_pos hpos (Nat.two_pow_pos _)
  simp [accept, haccepted]

variable [RandomSource σ]

theorem drawBelow_lt
    {n drawn : Nat} {source rest : σ} (hpos : 0 < n)
    (hdrawn : drawBelow n source = some (drawn, rest)) : drawn < n := by
  obtain ⟨earlier, haccept⟩ := drawUntil_eq_some hdrawn
  exact accept_lt hpos (UInt32.toNat_lt _) haccept

theorem drawCount_bounds
    {most drawn : Nat} {source rest : σ} (hpos : 0 < most)
    (hdrawn : drawCount most source = some (drawn, rest)) : 0 < drawn ∧ drawn ≤ most := by
  unfold drawCount at hdrawn
  obtain ⟨⟨below, later⟩, hbelow, hcount⟩ := Option.bind_eq_some_iff.1 hdrawn
  obtain ⟨earlier, haccept⟩ := drawUntil_eq_some hbelow
  have hlt := accept_lt hpos (UInt64.toNat_lt _) haccept
  obtain ⟨rfl, _⟩ := Prod.mk.inj (Option.some.inj hcount)
  omega

/-! ## Sources whose draws return -/

/-- The sources that draws from a source lead to. -/
inductive Follows (source : σ) : σ → Prop
  | start : Follows source source
  | afterBelow {earlier later : σ} {n drawn : Nat} :
      Follows source earlier → drawBelow n earlier = some (drawn, later) → Follows source later
  | afterCount {earlier later : σ} {most drawn : Nat} :
      Follows source earlier → drawCount most earlier = some (drawn, later) → Follows source later

/-- No draw runs out of patience, now or later. -/
def DrawsReturn (source : σ) : Prop :=
  ∀ later, Follows source later → ∀ n, 0 < n →
    (drawBelow n later).isSome = true ∧ (drawCount n later).isSome = true

theorem Follows.trans {first second third : σ} (hfirst : Follows first second)
    (hsecond : Follows second third) : Follows first third := by
  induction hsecond with
  | start => exact hfirst
  | afterBelow _ hdrawn ih => exact .afterBelow ih hdrawn
  | afterCount _ hdrawn ih => exact .afterCount ih hdrawn

theorem DrawsReturn.later {source later : σ} (hsource : DrawsReturn source)
    (hfollows : Follows source later) : DrawsReturn later :=
  fun last hlast => hsource last (hfollows.trans hlast)

/-- The answer, if there is one, is good, and there is one if the draws return. -/
def Yields (source : σ) (good : α → Prop) : Option (α × σ) → Prop
  | some (answer, rest) => good answer ∧ (DrawsReturn source → DrawsReturn rest)
  | none => ¬ DrawsReturn source

theorem Yields.pure {source : σ} {good : α → Prop} {answer : α} (hgood : good answer) :
    Yields source good (some (answer, source)) :=
  ⟨hgood, id⟩

theorem Yields.bind
    {source : σ} {good : α → Prop} {better : β → Prop} {answer : Option (α × σ)}
    (hanswer : Yields source good answer) {next : α × σ → Option (β × σ)}
    (hnext : ∀ found rest, good found → Yields rest better (next (found, rest))) :
    Yields source better (answer >>= next) := by
  cases answer with
  | none => exact hanswer
  | some found =>
      obtain ⟨found, rest⟩ := found
      have hlast := hnext found rest hanswer.1
      change Yields source better (next (found, rest))
      cases hfinal : next (found, rest) with
      | none =>
          rw [hfinal] at hlast
          exact fun hsource => hlast (hanswer.2 hsource)
      | some final =>
          rw [hfinal] at hlast
          exact ⟨hlast.1, fun hsource => hlast.2 (hanswer.2 hsource)⟩

theorem Yields.imp
    {source : σ} {good better : α → Prop} {answer : Option (α × σ)}
    (hanswer : Yields source good answer) (himp : ∀ found, good found → better found) :
    Yields source better answer := by
  cases answer with
  | none => exact hanswer
  | some found => exact ⟨himp _ hanswer.1, hanswer.2⟩

theorem Yields.of_eq_some
    {source rest : σ} {good : α → Prop} {answer : Option (α × σ)} {found : α}
    (hanswer : Yields source good answer) (hfound : answer = some (found, rest)) : good found := by
  rw [hfound] at hanswer
  exact hanswer.1

theorem Yields.exists_some
    {source : σ} {good : α → Prop} {answer : Option (α × σ)}
    (hanswer : Yields source good answer) (hsource : DrawsReturn source) :
    ∃ found, answer = some found := by
  cases answer with
  | none => exact absurd hsource hanswer
  | some found => exact ⟨found, rfl⟩

theorem drawBelow_yields {n : Nat} (hpos : 0 < n) (source : σ) :
    Yields source (· < n) (drawBelow n source) := by
  cases hdrawn : drawBelow n source with
  | none =>
      intro hsource
      have hsome := (hsource source .start n hpos).1
      simp [hdrawn] at hsome
  | some drawn =>
      exact ⟨drawBelow_lt hpos hdrawn, fun hsource => hsource.later (.afterBelow .start hdrawn)⟩

theorem drawCount_yields {most : Nat} (hpos : 0 < most) (source : σ) :
    Yields source (fun drawn => 0 < drawn ∧ drawn ≤ most) (drawCount most source) := by
  cases hdrawn : drawCount most source with
  | none =>
      intro hsource
      have hsome := (hsource source .start most hpos).2
      simp [hdrawn] at hsome
  | some drawn =>
      exact ⟨drawCount_bounds hpos hdrawn, fun hsource => hsource.later (.afterCount .start hdrawn)⟩

/-- One of the elements is drawn unless there are none. -/
def DrawnFrom (elements : List α) : Option α → Prop
  | some element => element ∈ elements
  | none => elements = []

theorem drawElement_yields (elements : List α) (source : σ) :
    Yields source (DrawnFrom elements) (drawElement elements source) := by
  cases elements with
  | nil => exact .pure rfl
  | cons first rest =>
      have hpos : 0 < (first :: rest).length := by simp
      refine (drawBelow_yields hpos source).bind ?_
      intro index later hlt
      refine .pure ?_
      rw [List.getElem?_eq_getElem hlt]
      exact List.getElem_mem hlt

end

/-! ## Lists of words -/

namespace WordList

theorem drawUntil_zeros_isSome
    {α : Type} (next : WordList → Nat × WordList) (accepted : Nat → Option α)
    (hzero : (accepted 0).isSome = true)
    (hend : ∀ list : WordList, list.words = [] → (next list).1 = 0)
    (hrest : ∀ list : WordList, (next list).2.words = list.words.tail) (list : WordList) :
    (drawUntil next accepted (list.words.length + 1) list).isSome = true := by
  obtain ⟨words⟩ := list
  induction words with
  | nil =>
      obtain ⟨drawn, hdrawn⟩ := Option.isSome_iff_exists.1 hzero
      simp [drawUntil, hend, hdrawn]
  | cons word words ih =>
      rw [List.length_cons, drawUntil]
      have hnext : (next ⟨word :: words⟩).2 = ⟨words⟩ := congrArg WordList.mk (hrest _)
      cases haccepted : accepted (next ⟨word :: words⟩).1 with
      | none =>
          simp only [haccepted, hnext]
          exact ih
      | some drawn => simp [haccepted]

theorem drawsReturn (list : WordList) : DrawsReturn list := by
  intro later _ n hpos
  have htail : ∀ list : WordList, list.next.2.words = list.words.tail := by
    rintro ⟨_ | _⟩ <;> rfl
  have hend : ∀ list : WordList, list.words = [] → list.next.1 = 0 := by
    rintro ⟨_ | _⟩ hnil
    · rfl
    · cases hnil
  constructor
  · refine drawUntil_zeros_isSome _ _ (by rw [accept_zero hpos]; rfl) ?_ htail later
    intro list hnil
    change (list.next.1.toUInt32).toNat = 0
    rw [hend list hnil]
    rfl
  · have hbelow := drawUntil_zeros_isSome
      (fun list : WordList => (list.next.1.toNat, list.next.2))
      (accept 64 n) (by rw [accept_zero hpos]; rfl) ?_ htail later
    · obtain ⟨drawn, hdrawn⟩ := Option.isSome_iff_exists.1 hbelow
      unfold drawCount
      change ((drawUntil (fun list : WordList => (list.next.1.toNat, list.next.2)) (accept 64 n)
        (later.words.length + 1) later).bind _).isSome = true
      rw [hdrawn]
      rfl
    · intro list hnil
      change (list.next.1).toNat = 0
      rw [hend list hnil]
      rfl

end WordList

end Unconference
