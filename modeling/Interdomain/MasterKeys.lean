import Interdomain.Random.WordSource
import Interdomain.Text.Base64

/-!
# Master keys

An AS has two master keys of sixteen bytes. They are drawn one after the other, so the keys of an AS
depend on nothing but the state of the source.
-/

namespace Interdomain

structure MasterKeys where
  /-- The first key. -/
  master0 : List UInt8
  /-- The second key. -/
  master1 : List UInt8
  deriving DecidableEq

namespace MasterKeys

def keyLength : Nat := 16

def generate {σ : Type} [WordSource σ] (source : σ) : MasterKeys × σ :=
  let (master0, source) := WordSource.drawBytes keyLength source
  let (master1, source) := WordSource.drawBytes keyLength source
  (⟨master0, master1⟩, source)

/-- The text of the first key, as it is written to its file. -/
def text0 (keys : MasterKeys) : String := Base64.encode keys.master0

/-- The text of the second key, as it is written to its file. -/
def text1 (keys : MasterKeys) : String := Base64.encode keys.master1

/-- Generation moves the source by 32 words, whatever they are. -/
theorem generate_snd {σ : Type} [WordSource σ] (source : σ) :
    (generate source).2 = WordSource.skip keyLength (WordSource.skip keyLength source) := by
  simp only [generate, ← WordSource.drawBytes_snd]

end MasterKeys

end Interdomain
