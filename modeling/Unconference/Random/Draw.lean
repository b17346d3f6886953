import Unconference.Random.Source

/-!
# Uniform draws

To draw one of `n` numbers from a word of `width` bits, the word is multiplied by `n`; the bits
above the width are the number drawn.  That is uniform over the words whose lower bits stay below
the largest multiple `n · 2ᵏ` that fits into the width, so the others are drawn again.  At least
half of all words are accepted.
-/

namespace Unconference

/-- The largest `n · 2ᵏ` that is not above `2 ^ width`, for `0 < n < 2 ^ width`. -/
def acceptedBelow (width n : Nat) : Nat := n * Nat.pow 2 (width - 1 - n.log2)

/-- The number that a word stands for, if the word is accepted. -/
def accept (width n word : Nat) : Option Nat :=
  if word * n % Nat.pow 2 width < acceptedBelow width n then some (word * n / Nat.pow 2 width)
  else none

section

variable {σ α : Type}

/-- Draws words until one is accepted, `patience` of them at most. -/
def drawUntil (next : σ → Nat × σ) (accepted : Nat → Option α) : Nat → σ → Option (α × σ)
  | 0, _ => none
  | patience + 1, source =>
    let (word, source) := next source
    match accepted word with
    | some drawn => some (drawn, source)
    | none => drawUntil next accepted patience source

variable [RandomSource σ]

/-- A number below `n`, from words of 32 bits. -/
def drawBelow (n : Nat) (source : σ) : Option (Nat × σ) :=
  drawUntil (fun source => let (word, source) := RandomSource.next32 source; (word.toNat, source))
    (accept 32 n) (RandomSource.patience source) source

/-- A number from 1 to `most`, from words of 64 bits. -/
def drawCount (most : Nat) (source : σ) : Option (Nat × σ) := do
  let (below, source) ← drawUntil
    (fun source => let (word, source) := RandomSource.next64 source; (word.toNat, source))
    (accept 64 most) (RandomSource.patience source) source
  return (below + 1, source)

/-- One of the elements of a list; from an empty list none, and without drawing. -/
def drawElement (elements : List α) (source : σ) : Option (Option α × σ) :=
  match elements with
  | [] => some (none, source)
  | _ => do
    let (index, source) ← drawBelow elements.length source
    return (elements[index]?, source)

end

end Unconference
