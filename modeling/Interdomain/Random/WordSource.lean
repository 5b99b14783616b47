/-!
# Sources of random words

Keys are drawn from a source of 32-bit words. A byte takes the low bits of one word, so a draw of
`n` bytes moves the source by `n` words whatever they are; `drawBytes_snd` says so. One source here
counts in steps and the other is a key stream (`Interdomain.Random.ChaCha`).
-/

namespace Interdomain

/-- A state that yields one word after another. -/
class WordSource (σ : Type) where
  /-- The next word and the state after it. -/
  next : σ → UInt32 × σ

namespace WordSource

variable {σ : Type} [WordSource σ]

/-- The state after some words. -/
def skip : Nat → σ → σ
  | 0, s => s
  | n + 1, s => skip n (next s).2

theorem skip_add (m n : Nat) (s : σ) : skip (m + n) s = skip n (skip m s) := by
  induction m generalizing s with
  | zero => rw [Nat.zero_add, skip]
  | succ m ih => rw [Nat.succ_add, skip, skip, ih]

/-- Draw some bytes, each from a word of its own. -/
def drawBytes : Nat → σ → List UInt8 × σ
  | 0, s => ([], s)
  | n + 1, s =>
    let (word, s) := next s
    let (bytes, s) := drawBytes n s
    (word.toUInt8 :: bytes, s)

/-- A draw moves the source by as many words as it yields bytes. -/
theorem drawBytes_snd (n : Nat) (s : σ) : (drawBytes n s).2 = skip n s := by
  induction n generalizing s with
  | zero => rfl
  | succ n ih => simpa [drawBytes, skip] using ih (next s).2

end WordSource

/-! ## Counting -/

/-- A source that counts in equal steps, for predictable keys. -/
structure Stepper where
  /-- The value whose low half is the next word. -/
  value : UInt64
  /-- What is added after each word. -/
  step : UInt64

instance : WordSource Stepper where
  next s := (s.value.toUInt32, { s with value := s.value + s.step })

end Interdomain
