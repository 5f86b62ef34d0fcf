import BankQuery.Chart.Row
import BankQuery.Question.Format

/-!
# Kept results

The rows of a question that has been answered, kept for some time. A result is fresh as long as less
than the lifetime has passed since it was stored; one that is not is dropped when it is asked for,
and all such are dropped when another is stored.
-/

namespace BankQuery

structure CachedRows where
  /-- The key of the question. -/
  key : String
  rows : List Row
  storedAt : Nat

/-- Results by the keys of their questions. -/
structure Cache where
  lifetime : Nat
  entries : List CachedRows := []

namespace Cache

def size (c : Cache) : Nat := c.entries.length

def isFresh (c : Cache) (now : Nat) (e : CachedRows) : Bool := now - e.storedAt < c.lifetime

def without (c : Cache) (key : String) : Cache :=
  { c with entries := c.entries.filter fun e => e.key != key }

/-- The rows for a question if they are fresh, and the cache without them if they are not. -/
def get (c : Cache) (now : Nat) (q : Question) : Option (List Row) × Cache :=
  match c.entries.find? fun e => e.key == q.key with
  | none => (none, c)
  | some e => if c.isFresh now e then (some e.rows, c) else (none, c.without q.key)

def purge (c : Cache) (now : Nat) : Cache := { c with entries := c.entries.filter (c.isFresh now) }

def insert (c : Cache) (now : Nat) (q : Question) (rows : List Row) : Cache :=
  let kept := (c.purge now).without q.key
  { kept with entries := kept.entries ++ [⟨q.key, rows, now⟩] }

section Entries

variable {c : Cache} {now : Nat} {q : Question} {x : CachedRows}

theorem mem_without {key : String} :
    x ∈ (c.without key).entries ↔ x ∈ c.entries ∧ x.key ≠ key := by
  simp only [without, List.mem_filter, bne_iff_ne]

theorem mem_purge : x ∈ (c.purge now).entries ↔ x ∈ c.entries ∧ c.isFresh now x = true :=
  List.mem_filter

theorem mem_insert {rows : List Row} : x ∈ (c.insert now q rows).entries ↔
    (x ∈ c.entries ∧ c.isFresh now x = true) ∧ x.key ≠ q.key ∨ x = ⟨q.key, rows, now⟩ := by
  rw [insert, List.mem_append, List.mem_singleton, mem_without, mem_purge]

theorem mem_of_mem_get (h : x ∈ (c.get now q).2.entries) : x ∈ c.entries := by
  unfold get at h
  split at h
  · exact h
  · split at h
    · exact h
    · exact (mem_without.mp h).1

end Entries

end Cache

end BankQuery
