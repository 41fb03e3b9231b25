import PromptGraph.Schema.Memory
import PromptGraph.Schema.Source

/-!
# The schema cache

The cache keeps catalogs and input lists of many sources. A failed fetch is remembered for a while,
during which the same failure is answered without asking the source. `known?` says what is known of
a source and `learn` records what a fetch gave; the lookups put the two together around a fetch in
a monad of the caller's choice.
-/

namespace PromptGraph

structure SchemaCache where
  catalogs : Memory String Catalog := {}
  specs : Memory (String × String) (List InputSpec) := {}
  /-- None when failures are not remembered. -/
  failures : Option (Memory String Failure) := some { timeToLive := some 30000 }

namespace SchemaCache

/-- How long a failure is remembered, in milliseconds, unless told otherwise. -/
def defaultFailureTtlMs : Nat := 30000

/-- An empty cache that remembers failures for `ms` milliseconds; zero is not at all. -/
def withFailureTtl (ms : Nat) : SchemaCache where
  failures := if ms = 0 then none else some { timeToLive := some ms }

/-- What is known of a source: a failure that still counts, or its catalog. -/
def known? (c : SchemaCache) (now : Nat) (key : String) : Option (Except Failure Catalog) :=
  match c.failures.bind (·.get? now key) with
  | some e => some (.error e)
  | none => (c.catalogs.get? now key).map .ok

def learn (c : SchemaCache) (now : Nat) (key : String) : Except Failure Catalog → SchemaCache
  | .ok catalog => { c with catalogs := c.catalogs.set now key catalog }
  | .error e => { c with failures := c.failures.map (·.set now key e) }

def invalidate (c : SchemaCache) (key : String) : SchemaCache where
  catalogs := c.catalogs.remove key
  failures := c.failures.map (·.remove key)
  specs := { c.specs with entries := c.specs.entries.filter fun e => e.1.1 ≠ key }

def clear (c : SchemaCache) : SchemaCache where
  catalogs := c.catalogs.clear
  failures := c.failures.map (·.clear)
  specs := c.specs.clear

section Fetch

variable {m : Type → Type} [Monad m]

/-- The catalog of a source, fetched when nothing is known of it. -/
def catalog (fetch : m (Except Failure Catalog)) (now : Nat) (key : String) (c : SchemaCache) :
    m (Except Failure Catalog × SchemaCache) :=
  match c.known? now key with
  | some known => pure (known, c)
  | none => do
    let outcome ← fetch
    return (outcome, c.learn now key outcome)

/-- The inputs of a type; none when the source cannot be read. -/
def inputs (fetch : m (Except Failure Catalog)) (now : Nat) (key typeName : String)
    (c : SchemaCache) : m (List InputSpec × SchemaCache) :=
  match c.specs.get? now (key, typeName) with
  | some specs => pure (specs, c)
  | none => do
    let (outcome, c) ← catalog fetch now key c
    match outcome with
    | .error _ => return ([], c)
    | .ok catalog =>
      let specs := catalog.inputs typeName
      return (specs, { c with specs := c.specs.set now (key, typeName) specs })

end Fetch

end SchemaCache

/-- A cache amid its surroundings. -/
structure Session where
  outside : Surroundings
  cache : SchemaCache := {}
  /-- Without room, what a lookup learns is forgotten as soon as it is answered. -/
  hasRoom : Bool := true

namespace Session

def fetch (source : Source) : StateM Session (Except Failure Catalog) := fun s =>
  let (outcome, outside) := source.fetch s.outside
  (outcome, { s with outside })

/-- Takes over what a lookup has learned. -/
def keep (cache : SchemaCache) : StateM Session Unit :=
  modify fun s => if s.hasRoom then { s with cache } else s

def catalog (source : Source) : StateM Session (Except Failure Catalog) := do
  let s ← get
  let (outcome, cache) ← s.cache.catalog (fetch source) s.outside.now source.key
  keep cache
  return outcome

/-- The inputs of a type, as a source declares them. -/
def inputs (source : Source) (typeName : String) : StateM Session (List InputSpec) := do
  let s ← get
  let (specs, cache) ← s.cache.inputs (fetch source) s.outside.now source.key typeName
  keep cache
  return specs

def invalidate (source : Source) : StateM Session Unit :=
  modify fun s => { s with cache := s.cache.invalidate source.key }

end Session

end PromptGraph
