import ImageBatch.File.Path

/-!
Style seeds: reference images and keywords that are fused into every user's job.
-/

namespace ImageBatch

/-- A style to fuse into a batch. -/
structure StyleSeed where
  id : String
  images : List Path
  keywords : List String
deriving DecidableEq, Repr

/-- The key of the job of one user and one style seed, or none. -/
def jobKey (userId : String) : (styleSeed : Option String) → String
  | some seed => userId ++ "_" ++ seed
  | none => userId

end ImageBatch
