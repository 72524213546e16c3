import Switchyard.Failure.Mapper

/-!
  Remembering which mapper answers which kind.

  A resolution looks its kind up, walks the lineage where the look-up finds nothing, and puts what
  it found into the cache.  The three are separate steps, so that resolutions of several requests
  can be interleaved in every way.  A failure without lineage is not looked up.
-/

namespace Switchyard

/-- The mappers found so far, newest first. -/
abbrev MapperCache (Rep : Type) := List (Kind × Mapper Rep)

/-- A resolution under way. -/
inductive Resolution (Rep : Type) where
  /-- Nothing is known yet. -/
  | fresh (f : Failure)
  /-- The look-up found nothing. -/
  | missed (k : Kind) (f : Failure)
  /-- The mapper was found and is not in the cache yet. -/
  | walked (k : Kind) (m : Mapper Rep) (f : Failure)
  /-- The mapper to apply. -/
  | found (m : Mapper Rep) (f : Failure)

namespace Resolution

variable {Rep : Type}

/-- The next step of a resolution, with its effect on the cache. -/
def step (r : Resolver Rep) : Resolution Rep → MapperCache Rep → Resolution Rep × MapperCache Rep
  | fresh f, cache =>
    match f.kind? with
    | none => (found r.default f, cache)
    | some k =>
      match Mapper.at? cache k with
      | some m => (found m f, cache)
      | none => (missed k f, cache)
  | missed k f, cache => (walked k (r.mapperFor f) f, cache)
  | walked k m f, cache => (found m f, (k, m) :: cache)
  | found m f, cache => (found m f, cache)

/-- Three steps finish a resolution. -/
def finish (r : Resolver Rep) (s : Resolution Rep) (cache : MapperCache Rep) :
    Resolution Rep × MapperCache Rep :=
  let (s, cache) := step r s cache
  let (s, cache) := step r s cache
  step r s cache

end Resolution

namespace Resolver

variable {Rep : Type}

/-- The reply to a failure through the cache. -/
def cachedReply (r : Resolver Rep) (cache : MapperCache Rep) (f : Failure) :
    Rep × MapperCache Rep :=
  match (Resolution.fresh f).finish r cache with
  | (.found m f, cache) => (m.reply f, cache)
  | (_, cache) => (r.reply f, cache)

end Resolver
end Switchyard
