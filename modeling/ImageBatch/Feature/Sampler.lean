import ImageBatch.Digest.Sha256

/-!
Sampler seeds that stay the same from run to run.
-/

namespace ImageBatch

/-- The seed of a key: the first 32 bits of its digest, or 1 where they are zero, because samplers take a
zero for a wish to be random. -/
def samplerSeed (key : String) : Nat := max (Sha256.digest (Text.toBytes key)).a.toNat 1

theorem samplerSeed_pos (key : String) : 0 < samplerSeed key := by unfold samplerSeed; omega

end ImageBatch
