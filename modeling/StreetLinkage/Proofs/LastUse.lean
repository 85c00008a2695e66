import Mathlib.Data.Finset.Card
import Mathlib.Data.List.DropRight
import StreetLinkage.Store.Recency

/-!
# Orders of last use

A recency list of bound `c` is the cut of a list that nobody keeps: all keys ever used, the one used last
in front (`byLastUse`). That the cut can be kept up without the rest is `take_push`: a use of a key that
is cut away and a use of one that is not both act on the first `c` keys only.

`mem_take_byLastUse` says what the cut holds in terms of the uses themselves: the keys after whose last use
fewer than `c` distinct other keys were used.
-/

namespace StreetLinkage

variable {κ : Type} [DecidableEq κ]

/-! ### Bounded prefixes -/

/-- A use of a key sees no more than the prefix that is kept. -/
theorem take_push {order : List κ} (h : order.Nodup) (bound : Nat) (key : κ) :
    (key :: (order.take bound).filter (· ≠ key)).take bound =
      (key :: order.filter (· ≠ key)).take bound := by
  cases bound with
  | zero => rfl
  | succ n =>
      rw [List.take_succ_cons, List.take_succ_cons]
      congr 1
      induction order generalizing n with
      | nil => rfl
      | cons other rest ih =>
          obtain ⟨hnot, hrest⟩ := List.nodup_cons.mp h
          rw [List.take_succ_cons]
          by_cases hother : other = key
          · -- The key is not met again, so the filter changes nothing further down.
            subst hother
            have hsame : rest.filter (· ≠ other) = rest := by
              rw [List.filter_eq_self]
              intro k hk
              have hne : k ≠ other := fun heq => hnot (heq ▸ hk)
              simpa using hne
            have hsub : (rest.take n).filter (· ≠ other) = rest.take n := by
              rw [List.filter_eq_self] at hsame ⊢
              exact fun k hk => hsame k (List.mem_of_mem_take hk)
            rw [List.filter_cons_of_neg (by simp), List.filter_cons_of_neg (by simp), hsame, hsub,
              List.take_take, Nat.min_self]
          · rw [List.filter_cons_of_pos (by simpa using hother),
              List.filter_cons_of_pos (by simpa using hother)]
            cases n with
            | zero => rfl
            | succ m => rw [List.take_succ_cons, List.take_succ_cons, ih hrest m]

/-- A key in the prefix that is used again displaces nothing. -/
theorem push_eq_take {kept : List κ} {bound : Nat} {key : κ} (hlen : kept.length ≤ bound)
    (hmem : key ∈ kept) :
    key :: kept.filter (· ≠ key) = (key :: kept.filter (· ≠ key)).take bound := by
  have hlt : (kept.filter (· ≠ key)).length < kept.length :=
    List.length_filter_lt_length_iff_exists.mpr ⟨key, hmem, by simp⟩
  rw [List.take_of_length_le]
  rw [List.length_cons]
  omega

/-- A prefix holds a key if fewer than its length stand before it. -/
theorem mem_take_iff {order : List κ} {bound : Nat} {key : κ} :
    key ∈ order.take bound ↔ key ∈ order ∧ (order.takeWhile (· ≠ key)).length < bound := by
  induction order generalizing bound with
  | nil => simp
  | cons other rest ih =>
      cases bound with
      | zero => simp
      | succ n =>
          rw [List.take_succ_cons, List.mem_cons, List.mem_cons, ih]
          by_cases hother : other = key
          · simp [hother]
          · simp [hother, Ne.symm hother]

/-! ### The order of last use -/

/-- The keys used so far, the one used last in front. The uses are given oldest first. -/
def byLastUse (uses : List κ) : List κ :=
  uses.foldl (fun order key => key :: order.filter (· ≠ key)) []

@[simp] theorem byLastUse_nil : byLastUse ([] : List κ) = [] := rfl

@[simp] theorem byLastUse_snoc (uses : List κ) (key : κ) :
    byLastUse (uses ++ [key]) = key :: (byLastUse uses).filter (· ≠ key) := by
  simp [byLastUse]

theorem nodup_byLastUse (uses : List κ) : (byLastUse uses).Nodup := by
  induction uses using List.reverseRecOn with
  | nil => exact List.nodup_nil
  | append_singleton uses key ih =>
      rw [byLastUse_snoc]
      exact List.nodup_cons.mpr ⟨by simp, ih.filter _⟩

theorem mem_byLastUse {uses : List κ} {key : κ} : key ∈ byLastUse uses ↔ key ∈ uses := by
  induction uses using List.reverseRecOn with
  | nil => rfl
  | append_singleton uses other ih =>
      simp only [byLastUse_snoc, List.mem_cons, List.mem_filter, List.mem_append, ih]
      by_cases hkey : key = other <;> simp [hkey]

/-- The distinct other keys used after the last use of a key. -/
def usedSince (key : κ) (uses : List κ) : Finset κ :=
  (uses.rtakeWhile (· ≠ key)).toFinset

/-- What stands before a key in the order of last use was used after it. -/
theorem toFinset_takeWhile_byLastUse (key : κ) (uses : List κ) :
    ((byLastUse uses).takeWhile (· ≠ key)).toFinset = usedSince key uses := by
  unfold usedSince
  induction uses using List.reverseRecOn with
  | nil => rfl
  | append_singleton uses other ih =>
      rw [byLastUse_snoc]
      by_cases hother : other = key
      · rw [List.takeWhile_cons_of_neg (by simpa using hother),
          List.rtakeWhile_concat_neg _ _ _ (by simpa using hother)]
      · -- Taking out another key does not change what stands before this one, except for that key.
        have hpred : (fun k : κ => !(decide (k ≠ other)) || decide (k ≠ key)) =
            fun k => decide (k ≠ key) := by
          funext k
          by_cases hk : k = other
          · simp [hk, hother]
          · simp [hk]
        rw [List.takeWhile_cons_of_pos (by simpa using hother), List.takeWhile_filter, hpred,
          List.rtakeWhile_concat_pos _ _ _ (by simpa using hother), List.toFinset_cons,
          List.toFinset_append, ← ih]
        ext k
        by_cases hk : k = other <;> simp [hk]

/-- **The cut of the order of last use**, read off the uses. -/
theorem mem_take_byLastUse {uses : List κ} {bound : Nat} {key : κ} :
    key ∈ (byLastUse uses).take bound ↔ key ∈ uses ∧ (usedSince key uses).card < bound := by
  have hnodup : ((byLastUse uses).takeWhile (· ≠ key)).Nodup :=
    (nodup_byLastUse uses).sublist (List.takeWhile_sublist _)
  rw [mem_take_iff, mem_byLastUse, ← toFinset_takeWhile_byLastUse,
    List.toFinset_card_of_nodup hnodup]

end StreetLinkage
