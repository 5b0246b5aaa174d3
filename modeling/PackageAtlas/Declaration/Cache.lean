import PackageAtlas.Decimal.Ratio
import PackageAtlas.Declaration.Index

namespace PackageAtlas.Declaration

/-!
# Index caches

A cache keeps the index of each package that was asked for, by the canonical path of its
directory, and counts how often an index was there already. Nothing is ever dropped, short of
clearing the cache.

* `IndexCache`, `IndexCache.lookup?`, `IndexCache.hit`, `IndexCache.miss`, `IndexCache.store`;
* `CacheStats`, `IndexCache.stats`: the counts.
-/

/-- The indexes that were made. -/
structure IndexCache where
  /-- The indexes by the canonical paths of the packages, oldest first. -/
  entries : List (String × List Record)
  hits : Nat
  misses : Nat
  /-- How indexes are made; none until it is needed. -/
  indexer : Option Indexer
deriving Repr, DecidableEq

/-- Counts of a cache. -/
structure CacheStats where
  packages : Nat
  declarations : Nat
  hits : Nat
  misses : Nat
  /-- The share of hits among all requests, in thousandths. -/
  hitThousandths : Nat
deriving Repr, DecidableEq

namespace IndexCache

/-- A cache without indexes. -/
def new (indexer : Option Indexer) : IndexCache := ⟨[], 0, 0, indexer⟩

/-- The index that is kept for a path. -/
def lookup? (c : IndexCache) (key : String) : Option (List Record) := c.entries.lookup key

/-- The cache after a request that it could answer. -/
def hit (c : IndexCache) : IndexCache := { c with hits := c.hits + 1 }

/-- The cache after a request that it could not answer. -/
def miss (c : IndexCache) : IndexCache := { c with misses := c.misses + 1 }

/-- The cache with an index that was made. -/
def store (c : IndexCache) (key : String) (index : List Record) : IndexCache :=
  { c with entries := c.entries ++ [(key, index)] }

/-- The cache without its indexes and counts. -/
def clear (c : IndexCache) : IndexCache := { c with entries := [], hits := 0, misses := 0 }

/-- The counts of a cache. -/
def stats (c : IndexCache) : CacheStats where
  packages := c.entries.length
  declarations := (c.entries.map (fun e => e.2.length)).foldr (· + ·) 0
  hits := c.hits
  misses := c.misses
  hitThousandths := Decimal.thousandths c.hits (max (c.hits + c.misses) 1)

@[simp] theorem lookup?_hit (c : IndexCache) (key : String) : c.hit.lookup? key = c.lookup? key :=
  rfl

@[simp] theorem lookup?_miss (c : IndexCache) (key : String) : c.miss.lookup? key = c.lookup? key :=
  rfl

/-- What was kept before stays; a new index is found under its own path only. -/
theorem lookup?_store (c : IndexCache) (key q : String) (index : List Record) :
    (c.store key index).lookup? q = (c.lookup? q).or (if q = key then some index else none) := by
  unfold lookup? store
  rw [List.lookup_append]
  by_cases h : q = key
  · subst h
    simp
  · have hb : (q == key) = false := by simpa using h
    simp [List.lookup_cons, hb, h]

end IndexCache

end PackageAtlas.Declaration
