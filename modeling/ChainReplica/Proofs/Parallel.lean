import Mathlib.Data.List.Forall2
import ChainReplica.Proofs.Ascending

/-!
# Two replicas that follow the same chain

What a run of a newer block does to a replica is decided by the current snapshot
and by the pointer. So a relation that implies equal snapshots and pointers, and
that writing the same snapshot to both preserves, is preserved by updates of newer
blocks that both subscribers are given, from whatever source, and that both accept
or both reject (`Parallel.updateAll`).
-/

namespace ChainReplica

variable {S : Type}

/-- A relation between replicas that the same write of a snapshot preserves. -/
structure Parallel (R : Replica S → Replica S → Prop) : Prop where
  current : ∀ {a b : Replica S}, R a b → a.current = b.current
  pointer : ∀ {a b : Replica S}, R a b → a.pointer = b.pointer
  apply : ∀ {a b : Replica S} {x : S} {n : Nat}, R a b →
    R (a.apply (some x) n) (b.apply (some x) n)

/-- What one subscriber is told in a batch, another one is told in another. -/
structure Batch.Told (s t : Subscriber S) (b c : Batch S) : Prop where
  logs : c.logs = b.logs
  headers : c.headers = b.headers
  rejects : s.Rejects b.logs b.headers ↔ t.Rejects b.logs b.headers

theorem Batch.Told.congr {s t s' t' : Subscriber S} {b c : Batch S} (h : b.Told s t c)
    (hs : s'.settings = s.settings) (ht : t'.settings = t.settings) : b.Told s' t' c := by
  refine ⟨h.logs, h.headers, ?_⟩
  rw [Subscriber.Rejects, Subscriber.Rejects, hs, ht]
  exact h.rejects

namespace Parallel

variable {R : Replica S → Replica S → Prop} {a b : Replica S} {venue : Venue S} {headers : Headers}

/-- A run of a newer block fails on both, or is taken by both. -/
theorem take (hR : Parallel R) {run : Run} (h : R a b) (ha : a.Topped) (hb : b.Topped)
    (hn : a.pointer < run.block) :
    (∃ e, a.take venue headers run = .error e ∧ b.take venue headers run = .error e)
      ∨ ∃ a' b', a.take venue headers run = .ok a' ∧ b.take venue headers run = .ok b'
        ∧ R a' b' := by
  obtain ⟨x, hx, -⟩ := ha.top
  rw [ha.take hx hn, hb.take (hR.current h ▸ hx) (hR.pointer h ▸ hn)]
  cases venue.fold x run.logs (headers.get? run.block) with
  | error e => exact Or.inl ⟨e, rfl, rfl⟩
  | ok changed =>
      cases changed with
      | none => exact Or.inr ⟨a, b, rfl, rfl, h⟩
      | some next => exact Or.inr ⟨_, _, rfl, rfl, hR.apply h⟩

theorem replay (hR : Parallel R) (venue : Venue S) (headers : Headers) :
    ∀ {runs : List Run} {a b : Replica S}, R a b → a.Topped → b.Topped →
      (∀ n ∈ runs.map (·.block), a.pointer < n) → (runs.map (·.block)).Pairwise (· < ·) →
      (a.replay venue headers runs).2 = (b.replay venue headers runs).2
        ∧ R (a.replay venue headers runs).1 (b.replay venue headers runs).1
  | [], _, _, h, _, _, _, _ => ⟨rfl, h⟩
  | run :: rest, a, b, h, ha, hb, hblocks, hsorted => by
      obtain ⟨hfirst, hrest⟩ := List.pairwise_cons.1 hsorted
      have hn : a.pointer < run.block := hblocks run.block List.mem_cons_self
      have hlater : ∀ n ∈ rest.map (·.block), a.pointer < n :=
        fun n hn => hblocks n (List.mem_cons_of_mem _ hn)
      simp only [Replica.replay]
      rcases hR.take h ha hb hn with ⟨e, hta, htb⟩ | ⟨a', b', hta, htb, h'⟩
      · rw [hta, htb]
        exact ⟨rfl, h⟩
      · rw [hta, htb]
        have hb' : b'.Topped := hb.of_take (hR.pointer h ▸ hn) htb
        rcases ha.take_cases hn hta with rfl | ⟨next, rfl⟩
        · exact replay hR venue headers h' ha hb' hlater hrest
        · exact replay hR venue headers h' (ha.apply hn) hb' hfirst hrest

/-- Updates of newer blocks, which both accept or both reject. -/
theorem updateAll (hR : Parallel R) : ∀ {ours theirs : List (Batch S)} {s t : Subscriber S},
    List.Forall₂ (Batch.Told s t) ours theirs → t.venue = s.venue → R s.replica t.replica →
    s.replica.Topped → t.replica.Topped →
    (∀ n ∈ blocksOf ours, s.replica.pointer < n) → (blocksOf ours).Pairwise (· < ·) →
    R (s.updateAll ours).replica (t.updateAll theirs).replica
  | [], _, _, _, .nil, _, h, _, _, _, _ => h
  | b :: rest, _, s, t, .cons htold hrest, hvenue, h, hs, ht, hblocks, hsorted => by
      rw [blocksOf_cons] at hblocks hsorted
      have hsorted' : (blocksOf rest).Pairwise (· < ·) := (List.pairwise_append.1 hsorted).2.1
      rw [Subscriber.updateAll, Subscriber.updateAll, Subscriber.update_held hs.holds,
        Subscriber.update_held ht.holds, htold.logs, htold.headers]
      by_cases hr : s.Rejects b.logs b.headers
      · rw [if_pos hr, if_pos (htold.rejects.mp hr)]
        exact updateAll hR hrest hvenue h hs ht
          (fun n hn => hblocks n (List.mem_append_right _ hn)) hsorted'
      · have hblocks' : ∀ n ∈ (runs b.logs).map (·.block) ++ blocksOf rest,
            t.replica.pointer < n := hR.pointer h ▸ hblocks
        obtain ⟨hs', hlater⟩ := hs.replay_newer b.headers s.venue hblocks hsorted
        obtain ⟨ht', -⟩ := ht.replay_newer b.headers s.venue hblocks' hsorted
        obtain ⟨-, h'⟩ := hR.replay s.venue b.headers h hs ht
          (fun n hn => hblocks n (List.mem_append_left _ hn)) (List.pairwise_append.1 hsorted).1
        rw [if_neg hr, if_neg (mt htold.rejects.mpr hr), Subscriber.replayed, Subscriber.replayed,
          hvenue, hs'.settle, ht'.settle]
        refine updateAll hR ?_ rfl h' hs' ht' hlater hsorted'
        exact hrest.imp fun _ _ h => h.congr rfl rfl

end Parallel

end ChainReplica
