/-
  WHAT OCCURS MOST OFTEN in a list: group, count, sort, take the first.

  Sorting by count says nothing of two elements with one count, and whoever sorts may do as he likes
  with them, today this way and tomorrow that: an `Arrangement` is one of these ways.  Everything here
  is about any of them.

  `ranking ties l` has every element of `l` once, with its count, the largest counts first.

  `count_le_of_listed`: what the first `k` lines leave out does not occur more often than what is on
  them; with equal counts either may be left out.
-/
import Mathlib.Data.List.Basic
import Mathlib.Data.List.Perm.Basic

namespace Microservices.Ranking

/-! ## Arrangements -/

/-- A way to sort by count, the largest first: what comes of equal counts is left open. -/
structure Arrangement (α : Type) where
  arrange : List (α × Nat) → List (α × Nat)
  perm : ∀ lines, (arrange lines).Perm lines
  sorted : ∀ lines, (arrange lines).Pairwise fun p q => q.2 ≤ p.2

/-- The way that leaves equal counts as they stand. -/
def Arrangement.stable (α : Type) : Arrangement α where
  arrange lines := lines.mergeSort fun p q => decide (q.2 ≤ p.2)
  perm lines := List.mergeSort_perm lines _
  sorted lines := by
    have hsorted := @List.pairwise_mergeSort (α × Nat) (fun p q => decide (q.2 ≤ p.2))
      (fun p q r hpq hqr => by simp only [decide_eq_true_iff] at *; omega)
      (fun p q => by simp only [Bool.or_eq_true, decide_eq_true_iff]; omega) lines
    exact hsorted.imp fun h => of_decide_eq_true h

/-! ## Rankings -/

variable {α : Type} [DecidableEq α]

/-- The elements with their counts, the most frequent first. -/
def ranking (ties : Arrangement α) (l : List α) : List (α × Nat) :=
  ties.arrange (l.eraseDups.map fun a => (a, l.count a))

variable {ties : Arrangement α} {l : List α} {a b : α} {n m k : Nat}

/-- Every element is left once. -/
theorem nodup_eraseDups (l : List α) : l.eraseDups.Nodup := by
  generalize hn : l.length = n
  induction n using Nat.strongRecOn generalizing l with
  | ind n ih =>
    cases l with
    | nil => exact List.nodup_nil
    | cons a l =>
      rw [List.eraseDups_cons]
      -- by the length, since what follows the first element is filtered
      have hshort : (l.filter fun b => !b == a).length < n := by
        have hle := List.length_filter_le (fun b => !b == a) l
        rw [List.length_cons] at hn
        omega
      refine List.nodup_cons.mpr ⟨fun hmem => ?_, ih _ hshort _ rfl⟩
      have hne := (List.mem_filter.mp (List.mem_eraseDups.mp hmem)).2
      simp at hne

/-- The lines of a ranking are the groups, in some order. -/
theorem ranking_perm (l : List α) :
    (ranking ties l).Perm (l.eraseDups.map fun a => (a, l.count a)) :=
  ties.perm _

/-- Every element is there with its count, and nothing else. -/
theorem mem_ranking : (a, n) ∈ ranking ties l ↔ a ∈ l ∧ n = l.count a := by
  rw [(ranking_perm l).mem_iff, List.mem_map]
  constructor
  · rintro ⟨b, hb, heq⟩
    cases heq
    exact ⟨List.mem_eraseDups.mp hb, rfl⟩
  · rintro ⟨ha, rfl⟩
    exact ⟨a, List.mem_eraseDups.mpr ha, rfl⟩

/-- No element has two lines. -/
theorem nodup_ranking : ((ranking ties l).map Prod.fst).Nodup := by
  have hkeys : ((ranking ties l).map Prod.fst).Perm l.eraseDups := by
    refine ((ranking_perm l).map Prod.fst).trans ?_
    rw [List.map_map]
    exact List.Perm.of_eq (List.map_id _)
  exact hkeys.nodup_iff.mpr (nodup_eraseDups l)

/-- The largest counts come first. -/
theorem sorted_ranking : (ranking ties l).Pairwise fun p q => q.2 ≤ p.2 := ties.sorted _

/-- What is left out does not occur more often than what is listed. -/
theorem count_le_of_listed (hlisted : (a, n) ∈ (ranking ties l).take k) (hb : b ∈ l)
    (hout : ∀ m, (b, m) ∉ (ranking ties l).take k) : l.count b ≤ n := by
  have hin : (b, l.count b) ∈ ranking ties l := mem_ranking.mpr ⟨hb, rfl⟩
  rw [← List.take_append_drop k (ranking ties l)] at hin
  have hdrop := (List.mem_append.mp hin).resolve_left (hout _)
  have hsorted : ((ranking ties l).take k ++ (ranking ties l).drop k).Pairwise fun p q => q.2 ≤ p.2 := by
    rw [List.take_append_drop]
    exact sorted_ranking
  exact (List.pairwise_append.mp hsorted).2.2 _ hlisted _ hdrop

/-- Something is left out only of a full list. -/
theorem length_of_left_out {p : α × Nat} (hin : p ∈ ranking ties l) (hout : p ∉ (ranking ties l).take k) :
    ((ranking ties l).take k).length = k := by
  rw [List.length_take]
  refine Nat.min_eq_left (Nat.le_of_lt (Nat.not_le.mp fun hle => hout ?_))
  rw [List.take_of_length_le hle]
  exact hin

end Microservices.Ranking
