import StreetLinkage.Store.Recency

/-!
# Caches that cannot be told apart

The laws of a cache that drops what was used longest ago (`LruCache`) leave it no freedom. Two such caches
are `Alike` if they hold the same values in the same order of use; then they give one answer to any
request, and are alike after it (`answer_eq`, `Alike.after`). Hence no user can tell them apart, however it
makes a request depend on the answers before it (`CacheUser.run_alike`).

So what is said of stores with a recency list for their bounded tier says as much of any other cache that
keeps the laws.
-/

namespace StreetLinkage

/-- What a store asks of its bounded tier. -/
inductive CacheRequest (κ ν : Type) where
  /-- The value of a key, without a use. -/
  | look (key : κ)
  /-- The value of a key, with a use. -/
  | use (key : κ)
  /-- To take in an entry. -/
  | insert (key : κ) (value : ν)
  /-- To drop a key. -/
  | erase (key : κ)
  /-- The number of entries. -/
  | count

/-- What a store is told. -/
inductive CacheReply (κ ν : Type) where
  | found (value : Option ν)
  | displaced (keys : List κ)
  | erased
  | counted (size : Nat)

namespace LruCache

variable {γ δ κ ν : Type} [DecidableEq κ] [LruCache γ κ ν] [LruCache δ κ ν]

/-- The reply of a cache of the given bound. -/
def answer (bound : Nat) (c : γ) : CacheRequest κ ν → CacheReply κ ν
  | .look key => .found (find? c key)
  | .use key => .found (find? c key)
  | .insert key value => .displaced (dropped c bound key value)
  | .erase _ => .erased
  | .count => .counted (size c)

/-- The cache after a request. -/
def after (bound : Nat) (c : γ) : CacheRequest κ ν → γ
  | .look _ => c
  | .use key => touch c key
  | .insert key value => insert c bound key value
  | .erase key => erase c key
  | .count => c

/-- The same values in the same order of use. -/
structure Alike (c : γ) (d : δ) : Prop where
  keys_eq : keys c = keys d
  find?_eq : ∀ key, find? c key = find? d key

theorem find?_empty (key : κ) : find? (empty : γ) key = none := by
  rw [find?_eq_none_iff, keys_empty]
  exact List.not_mem_nil

theorem alike_empty : Alike (empty : γ) (empty : δ) where
  keys_eq := by rw [keys_empty, keys_empty]
  find?_eq key := by rw [find?_empty, find?_empty]

variable {c : γ} {d : δ}

/-- With one order of keys, it is enough to compare the values of those that are there. -/
theorem Alike.of_mem (hkeys : keys c = keys d) (h : ∀ key ∈ keys c, find? c key = find? d key) :
    Alike c d where
  keys_eq := hkeys
  find?_eq key := by
    by_cases hmem : key ∈ keys c
    · exact h key hmem
    · rw [find?_eq_none_iff.mpr hmem, find?_eq_none_iff.mpr (hkeys ▸ hmem)]

theorem Alike.touch (h : Alike c d) (key : κ) : Alike (touch c key) (touch d key) where
  keys_eq := by rw [keys_touch, keys_touch, h.keys_eq]
  find?_eq other := by rw [find?_touch, find?_touch, h.find?_eq]

theorem Alike.insert (h : Alike c d) (bound : Nat) (key : κ) (value : ν) :
    Alike (insert c bound key value) (insert d bound key value) := by
  have hkeys : keys (LruCache.insert c bound key value) = keys (LruCache.insert d bound key value) := by
    rw [keys_insert, keys_insert, h.keys_eq]
  refine .of_mem hkeys fun other hother => ?_
  rw [find?_insert hother, find?_insert (hkeys ▸ hother), h.find?_eq]

theorem Alike.erase (h : Alike c d) (key : κ) : Alike (erase c key) (erase d key) := by
  have hkeys : keys (LruCache.erase c key) = keys (LruCache.erase d key) := by
    rw [keys_erase, keys_erase, h.keys_eq]
  refine .of_mem hkeys fun other hother => ?_
  have hne : other ≠ key := by
    rw [keys_erase] at hother
    simpa using (List.mem_filter.mp hother).2
  rw [find?_erase hne, find?_erase hne, h.find?_eq]

/-- Caches that are alike give one answer. -/
theorem Alike.answer_eq (h : Alike c d) (bound : Nat) (request : CacheRequest κ ν) :
    answer bound c request = answer bound d request := by
  cases request with
  | look key => rw [answer, answer, h.find?_eq]
  | use key => rw [answer, answer, h.find?_eq]
  | insert key value => rw [answer, answer, dropped_eq, dropped_eq, h.keys_eq]
  | erase key => rfl
  | count => rw [answer, answer, size_eq, size_eq, h.keys_eq]

/-- Caches that are alike stay so. -/
theorem Alike.after (h : Alike c d) (bound : Nat) (request : CacheRequest κ ν) :
    Alike (after bound c request) (after bound d request) := by
  cases request with
  | look key => exact h
  | use key => exact h.touch key
  | insert key value => exact h.insert bound key value
  | erase key => exact h.erase key
  | count => exact h

end LruCache

open LruCache

/-- A user of a cache: what it asks for, and what it makes of a reply. -/
structure CacheUser (α κ ν : Type) where
  request : α → CacheRequest κ ν
  resume : α → CacheReply κ ν → α

namespace CacheUser

variable {α γ δ κ ν : Type} [DecidableEq κ] [LruCache γ κ ν] [LruCache δ κ ν]

/-- The user and the cache after one request. -/
def step (user : CacheUser α κ ν) (bound : Nat) (a : α) (c : γ) : α × γ :=
  (user.resume a (answer bound c (user.request a)), after bound c (user.request a))

/-- The user and the cache after a number of requests. -/
def run (user : CacheUser α κ ν) (bound : Nat) : Nat → α → γ → α × γ
  | 0, a, c => (a, c)
  | n + 1, a, c => run user bound n (user.step bound a c).1 (user.step bound a c).2

/-- **No user tells two caches apart.** From caches that are alike, any number of requests leads to the
same state of the user and to caches that are alike. -/
theorem run_alike (user : CacheUser α κ ν) (bound n : Nat) (a : α) {c : γ} {d : δ} (h : Alike c d) :
    (user.run bound n a c).1 = (user.run bound n a d).1 ∧
      Alike (user.run bound n a c).2 (user.run bound n a d).2 := by
  induction n generalizing a c d with
  | zero => exact ⟨rfl, h⟩
  | succ n ih =>
      have hstate : (user.step bound a d).1 = (user.step bound a c).1 := by
        rw [step, step, h.answer_eq]
      rw [run, run, hstate]
      exact ih _ (h.after bound (user.request a))

/-- A new cache of any kind serves its user as a new recency list does. -/
theorem run_empty_eq (user : CacheUser α κ ν) (bound n : Nat) (a : α) :
    (user.run bound n a (empty : γ)).1 = (user.run bound n a (empty : Recency κ ν)).1 :=
  (user.run_alike bound n a alike_empty).1

end CacheUser

end StreetLinkage
