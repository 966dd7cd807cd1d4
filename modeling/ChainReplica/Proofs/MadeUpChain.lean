import Mathlib.Algebra.BigOperators.Intervals
import ChainReplica.Proofs.Rewinding
import ChainReplica.Simulation

/-!
# The made-up chain and its counts

The venue that counts the logs of a contract does count them: the snapshot after a
block is the first count and the logs of the contract in all blocks since
(`ChainFold.state_counter`).

The chain of the simulation has two branches. Up to its fork it is the old one,
from there on the new one; both branches are alike before (`shares_fork`). On the
old branch at most every other block is empty, so that the newest change is never
more than one block old (`newestChange_old`).
-/

namespace ChainReplica

/-! ## Counting -/

namespace Counter

variable {address : Address} {base : Counter} {header : Option Header}

/-- How many logs are of a contract. -/
def own (address : Address) (logs : List Log) : Nat := logs.countP (·.address = address)

theorem foldOnto_rule : ∀ (logs : List Log) (changed : Option Counter),
    foldOnto (rule address) header base changed logs =
      .ok (if own address logs = 0 then changed
        else some ⟨(changed.getD base).count + own address logs⟩)
  | [], _ => rfl
  | log :: rest, changed => by
      by_cases haddress : log.address = address
      · have hown : own address (log :: rest) = own address rest + 1 :=
          List.countP_cons_of_pos (decide_eq_true haddress)
        simp only [foldOnto, rule, if_pos haddress]
        rw [foldOnto_rule rest, hown, if_neg (Nat.succ_ne_zero _), Option.getD_some,
          Nat.add_comm (own address rest), ← Nat.add_assoc]
        split
        · rename_i hnone
          rw [hnone]
        · rfl
      · have hown : own address (log :: rest) = own address rest :=
          List.countP_cons_of_neg (by simpa using haddress)
        simp only [foldOnto, rule, if_neg haddress]
        rw [foldOnto_rule rest, hown]

theorem fold_venue (logs : List Log) : (venue address).fold base logs header =
    .ok (if own address logs = 0 then none else some ⟨base.count + own address logs⟩) :=
  foldOnto_rule logs none

end Counter

namespace ChainFold

variable {f : ChainFold Counter} {address : Address} {n : Nat}

theorem outcome_counter (hvenue : f.venue = Counter.venue address) (base : Counter) (n : Nat) :
    f.outcome base n = .ok (if Counter.own address (f.chain.logs n) = 0 then none
      else some ⟨base.count + Counter.own address (f.chain.logs n)⟩) := by
  rw [outcome, hvenue, Counter.fold_venue]

theorem changes_counter (hvenue : f.venue = Counter.venue address) :
    f.Changes n ↔ f.origin < n ∧ Counter.own address (f.chain.logs n) ≠ 0 := by
  rw [Changes, outcome_counter hvenue]
  refine and_congr_right fun _ => ?_
  split <;> simp_all

/-- The count after a block is that of the logs since the first snapshot. -/
theorem state_counter (hvenue : f.venue = Counter.venue address) (hn : f.origin ≤ n) :
    f.state n = ⟨f.first.count
      + ∑ m ∈ Finset.Ioc f.origin n, Counter.own address (f.chain.logs m)⟩ := by
  induction n, hn using Nat.le_induction with
  | base => simp [state_origin]
  | succ n hn ih =>
      rw [state_succ hn, outcome_counter hvenue, ih, Finset.sum_Ioc_succ_top hn]
      by_cases hnone : Counter.own address (f.chain.logs (n + 1)) = 0
      · rw [if_pos hnone, hnone, Nat.add_zero]
      · rw [if_neg hnone, Nat.add_assoc]

end ChainFold

/-! ## The two branches -/

namespace Simulation

/-- The branch of a block, if the new branch begins at the fork. -/
def branchAt (fork : Option Nat) (n : Nat) : Nat := if fork.any (· ≤ n) then 1 else 0

/-- The blocks of the old branch before the fork, and of the new one from it on. -/
def chain (fork : Option Nat) : Chain where
  logs n := logsOf n (branchAt fork n)
  header n := headerOf n (branchAt fork n) (branchAt fork (n - 1))
  placed n log hlog := by
    obtain ⟨index, -, rfl⟩ := List.mem_map.mp hlog
    rfl
  ordered n := List.pairwise_map.mpr (List.pairwise_le_range.imp fun hle => hle)

/-- The chain as the subscribers count it. -/
def counted (start : Nat) (fork : Option Nat) : ChainFold Counter where
  chain := chain fork
  venue := Counter.venue pool
  origin := start
  first := ⟨0⟩

variable {start n : Nat} {fork : Option Nat}

theorem counted_idle : (counted start fork).venue.Idle := fun _ _ => rfl

theorem counted_sound : (counted start fork).Sound := fun _ _ => Counter.exists_fold pool

theorem branchAt_of_le {k : Nat} (h : k ≤ n) : branchAt (some k) n = 1 := by
  simp [branchAt, h]

theorem branchAt_of_lt {k : Nat} (h : n < k) : branchAt (some k) n = 0 := by
  simp [branchAt, Nat.not_le_of_lt h]

theorem length_logsOf (n branch : Nat) : (logsOf n branch).length = logCount n branch := by
  rw [logsOf, List.length_map, List.length_range]

theorem own_logsOf (n branch : Nat) : Counter.own pool (logsOf n branch) = logCount n branch := by
  rw [← length_logsOf]
  refine List.countP_eq_length.mpr fun log hlog => ?_
  obtain ⟨index, -, rfl⟩ := List.mem_map.mp hlog
  exact decide_eq_true rfl

/-- What is counted up to a block: the logs of all blocks on their branches. -/
theorem state_counted (hn : start ≤ n) : (counted start fork).state n =
    ⟨∑ m ∈ Finset.Ioc start n, (logsOf m (branchAt fork m)).length⟩ := by
  rw [ChainFold.state_counter rfl hn]
  simp only [counted, chain, own_logsOf, length_logsOf, Nat.zero_add]

/-- A block of the old branch has logs unless its number is a multiple of four. -/
theorem marked_old (hn : start < n) (hlogs : n % 4 ≠ 0) : (counted start none).Marked n := by
  refine Or.inr ((ChainFold.changes_counter rfl).mpr ⟨hn, ?_⟩)
  change Counter.own pool (logsOf n 0) ≠ 0
  rw [own_logsOf, logCount]
  omega

/-- On the old branch the newest change is not more than one block old. -/
theorem newestChange_old (hn : start ≤ n) :
    ∃ c, n ≤ c + 1 ∧ (counted start none).NewestChange n c := by
  by_cases hmarked : (counted start none).Marked n
  · exact ⟨n, Nat.le_succ n, ⟨Nat.le_refl n, hmarked⟩,
      fun m hm hmn => absurd hmn (Nat.not_le_of_lt hm)⟩
  · have hstart : n ≠ start := fun h => hmarked (Or.inl h)
    obtain ⟨m, rfl⟩ : ∃ m, n = m + 1 := ⟨n - 1, by omega⟩
    have hempty : (m + 1) % 4 = 0 := by
      by_contra hlogs
      exact hmarked (marked_old (by omega) hlogs)
    refine ⟨m, Nat.le_refl _, ⟨Nat.le_succ m, ?_⟩, fun k hk hkm hchanges => ?_⟩
    · by_cases hfirst : m = start
      · exact Or.inl hfirst
      · exact marked_old (by omega) (by omega)
    · obtain rfl : k = m + 1 := by omega
      exact hmarked (Or.inr hchanges)

/-- Both branches are the same before the fork. -/
theorem shares_fork (start n : Nat) :
    (counted start none).SharesUpTo (counted start (some (n + 1))) n where
  venue := rfl
  origin := rfl
  first := rfl
  logs m hm := congrArg (logsOf m) (branchAt_of_lt (Nat.lt_succ_of_le hm))
  header m hm := congrArg₂ (headerOf m) (branchAt_of_lt (Nat.lt_succ_of_le hm))
    (branchAt_of_lt (Nat.lt_succ_of_le (Nat.le_trans (Nat.sub_le m 1) hm)))

/-- The two headers of a number differ in their last byte. -/
theorem hashOf_ne (n : Nat) : hashOf n 0 ≠ hashOf n 1 := by
  have hbyte : ∀ branch, (hashOf n branch).toNat % 256 = branch % 256 := by
    intro branch
    have hdigits : n :: List.replicate 24 branch =
        (n :: List.replicate 23 branch) ++ [branch] := rfl
    rw [hashOf, hdigits, Numeral.value_append_singleton, BitVec.toNat_ofNat]
    omega
  intro h
  have hold := hbyte 0
  have hnew := hbyte 1
  rw [h] at hold
  omega

end Simulation

end ChainReplica
