import Mathlib.Algebra.Order.Group.Defs
import Mathlib.Data.List.Basic

/-!
# Times in a sliding window

A log of times, kept in the order they came in, and a window of fixed length
that ends at the present.  What is older than the window is dropped lazily, from
the front and only when somebody looks.

* `expire` is that lazy clean-up; on a sorted log it keeps exactly the times
  inside the window (`expire_eq_recent`).
* `recent` is the window itself.  A later look sees nothing that an earlier look
  has dropped (`recent_recent`), so cleaning up early changes no later count.
* `head_expired_iff` — when the oldest of a sorted log leaves the window, the
  window loses an entry, and not before.
-/

namespace SlidingWindow

variable {K : Type} [AddCommGroup K] [LinearOrder K]

/-- Drop times from the front as long as they are not inside the window that ends `now`. -/
def expire (span now : K) (times : List K) : List K :=
  times.dropWhile fun t => t ≤ now - span

/-- The times inside the window that ends `now`. -/
def recent (span now : K) (times : List K) : List K :=
  times.filter fun t => now - span < t

@[simp] theorem recent_nil (span now : K) : recent span now [] = [] := rfl

@[simp] theorem recent_append (span now : K) (times more : List K) :
    recent span now (times ++ more) = recent span now times ++ recent span now more :=
  List.filter_append times more

theorem mem_recent {span now t : K} {times : List K} :
    t ∈ recent span now times ↔ t ∈ times ∧ now - span < t := by
  simp [recent]

theorem recent_length_le (span now : K) (times : List K) :
    (recent span now times).length ≤ times.length :=
  List.length_filter_le _ times

/-- **The lazy clean-up is the window**, on a sorted log. -/
theorem expire_eq_recent {span now : K} {times : List K} (hsorted : times.Pairwise (· ≤ ·)) :
    expire span now times = recent span now times := by
  induction times with
  | nil => rfl
  | cons t times ih =>
      rw [List.pairwise_cons] at hsorted
      by_cases ht : t ≤ now - span
      · have hdrop : expire span now (t :: times) = expire span now times := by
          simp [expire, ht]
        have hout : recent span now (t :: times) = recent span now times := by
          simp [recent, ht]
        rw [hdrop, hout, ih hsorted.2]
      · -- the first time inside the window: all that follow it are inside too
        have hall : ∀ x ∈ t :: times, now - span < x := by
          intro x hx
          rcases List.mem_cons.mp hx with rfl | hx
          · exact not_le.mp ht
          · exact lt_of_lt_of_le (not_le.mp ht) (hsorted.1 x hx)
        have hstop : expire span now (t :: times) = t :: times := by
          simp [expire, ht]
        rw [hstop, recent, List.filter_eq_self.mpr]
        intro x hx
        exact decide_eq_true (hall x hx)

theorem expire_pairwise {span now : K} {times : List K} (hsorted : times.Pairwise (· ≤ ·)) :
    (expire span now times).Pairwise (· ≤ ·) :=
  hsorted.sublist (List.dropWhile_sublist _)

theorem expire_length_le (span now : K) (times : List K) :
    (expire span now times).length ≤ times.length :=
  (List.dropWhile_sublist _).length_le

theorem mem_of_mem_expire {span now t : K} {times : List K} (h : t ∈ expire span now times) :
    t ∈ times :=
  (List.dropWhile_sublist _).subset h

/-- The oldest time of a sorted log has left the window exactly when a look sees
fewer times than the log holds. -/
theorem head_expired_iff {span now t : K} {times : List K}
    (hsorted : (t :: times).Pairwise (· ≤ ·)) :
    (recent span now (t :: times)).length < (t :: times).length ↔ t ≤ now - span := by
  constructor
  · intro h
    by_contra ht
    have hkeep : recent span now (t :: times) = t :: times := by
      rw [← expire_eq_recent hsorted]
      simp [expire, not_le.mp ht]
    rw [hkeep] at h
    exact lt_irrefl _ h
  · intro ht
    have hout : recent span now (t :: times) = recent span now times := by
      simp [recent, ht]
    rw [hout]
    exact Nat.lt_succ_of_le (recent_length_le span now times)

variable [IsOrderedAddMonoid K]

/-- **A clean-up changes no later look.** -/
theorem recent_recent {span earlier now : K} (h : earlier ≤ now) (times : List K) :
    recent span now (recent span earlier times) = recent span now times := by
  unfold recent
  rw [List.filter_filter]
  refine List.filter_congr ?_
  intro t _
  have hle : earlier - span ≤ now - span := sub_le_sub_right h span
  by_cases ht : now - span < t
  · simp [ht, lt_of_le_of_lt hle ht]
  · simp [ht]

theorem recent_expire {span earlier now : K} (h : earlier ≤ now) {times : List K}
    (hsorted : times.Pairwise (· ≤ ·)) :
    recent span now (expire span earlier times) = recent span now times := by
  rw [expire_eq_recent hsorted, recent_recent h]

end SlidingWindow
