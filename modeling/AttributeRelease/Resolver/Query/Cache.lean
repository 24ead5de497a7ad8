import AttributeRelease.Attribute.Basic

/-!
# Caches of results

A cache keeps the attributes that a query led to until it is emptied.
-/

namespace AttributeRelease.Resolver.Query

/-- Attributes by query. -/
structure ResultCache where
  entries : KeyMap AttributeMap := ∅

namespace ResultCache

/-- The attributes kept for a query. -/
def get? (cache : ResultCache) (query : String) : Option AttributeMap := cache.entries.get? query

/-- Keeps the attributes of a query. -/
def insert (cache : ResultCache) (query : String) (attributes : AttributeMap) : ResultCache :=
  ⟨cache.entries.insert query attributes⟩

/-- Empties the cache. -/
def invalidate (_ : ResultCache) : ResultCache := {}

end ResultCache

/-- Where in the world a cache is found. -/
structure CacheSlot (σ : Type) where
  read : σ → ResultCache
  write : ResultCache → σ → σ

/-- Empties the cache in the world. -/
def CacheSlot.invalidate {σ : Type} (slot : CacheSlot σ) (world : σ) : σ :=
  slot.write (slot.read world).invalidate world

end AttributeRelease.Resolver.Query
