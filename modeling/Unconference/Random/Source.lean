/-!
# Sources of random words

A source yields words of 32 and of 64 bits and is followed by the source of the words after them.
What is drawn from a source is uniform because unsuitable words are thrown away and drawn again.
A source says how many words in a row one draw may throw away before it gives up: a draw then
answers `none` instead of going on forever.

`WordList` yields given words, one for each draw of either size, and zeros after the last one.
-/

namespace Unconference

class RandomSource (σ : Type) where
  next32 : σ → UInt32 × σ
  next64 : σ → UInt64 × σ
  patience : σ → Nat

structure WordList where
  words : List UInt64
deriving DecidableEq

namespace WordList

def next (list : WordList) : UInt64 × WordList :=
  match list.words with
  | [] => (0, list)
  | word :: rest => (word, ⟨rest⟩)

/-- A draw of 32 bits takes the low half of a word.  After the last word a zero comes, which every
draw accepts. -/
instance : RandomSource WordList where
  next32 list := let (word, rest) := list.next; (word.toUInt32, rest)
  next64 := next
  patience list := list.words.length + 1

end WordList

/-- A source of one kind or the other. -/
instance {σ τ : Type} [RandomSource σ] [RandomSource τ] : RandomSource (σ ⊕ τ) where
  next32
    | .inl source => let (word, source) := RandomSource.next32 source; (word, .inl source)
    | .inr source => let (word, source) := RandomSource.next32 source; (word, .inr source)
  next64
    | .inl source => let (word, source) := RandomSource.next64 source; (word, .inl source)
    | .inr source => let (word, source) := RandomSource.next64 source; (word, .inr source)
  patience
    | .inl source => RandomSource.patience source
    | .inr source => RandomSource.patience source

end Unconference
