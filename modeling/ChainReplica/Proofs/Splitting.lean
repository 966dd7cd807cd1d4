import ChainReplica.Proofs.Publication
import ChainReplica.Proofs.Reorganization
import ChainReplica.Proofs.Runs

/-!
# Where one batch ends and the next begins

A batch that an update accepts may as well come in two parts, if the cut does
not go through a run: both parts are accepted, they leave the same subscriber,
and they publish the same snapshots in the same order (`Subscriber.update_append`).

Three things could tell the difference, and none does. The strict policy accepts
the parts of what it accepts (`violations_of_append`). The runs of the second
part start from where those of the first ended (`Replica.replay_append`). And
the snapshot is trusted again after each part and not only at the end, but runs
do not look at that.
-/

namespace ChainReplica

variable {S : Type}

/-- Runs that are taken in two parts. -/
theorem Replica.replay_append {venue : Venue S} {headers : Headers} {front back : List Run}
    {r q : Replica S} (h : r.replay venue headers (front ++ back) = (q, none)) :
    ∃ r', r.replay venue headers front = (r', none) ∧ r'.replay venue headers back = (q, none)
      ∧ r.published venue headers (front ++ back) =
        r.published venue headers front ++ r'.published venue headers back := by
  induction front generalizing r with
  | nil => exact ⟨r, rfl, h, rfl⟩
  | cons run rest ih =>
      rw [List.cons_append, replay] at h
      rw [List.cons_append, published, replay, published]
      cases ht : r.take venue headers run with
      | error e =>
          rw [ht] at h
          cases h
      | ok next =>
          rw [ht] at h
          obtain ⟨r', hfront, hback, hpublished⟩ := ih h
          refine ⟨r', hfront, hback, ?_⟩
          change r.moved next ++ next.published venue headers (rest ++ back) = _
          rw [hpublished, List.append_assoc]

namespace Subscriber

variable {s : Subscriber S} {front back : List Log} {headers : Headers}

theorem accepts_of_append (hruns : runs (front ++ back) = runs front ++ runs back)
    (h : ¬s.Rejects (front ++ back) headers) :
    ¬s.Rejects front headers ∧ ¬s.Rejects back headers := by
  have hparts : s.settings.policy = .strict →
      violations front headers = [] ∧ violations back headers = [] := by
    intro hstrict
    apply violations_of_append hruns
    exact Classical.not_not.mp fun hfound => h ⟨hstrict, hfound⟩
  constructor
  · rintro ⟨hstrict, hfound⟩
    exact hfound (hparts hstrict).1
  · rintro ⟨hstrict, hfound⟩
    exact hfound (hparts hstrict).2

/-- Batch boundaries do not matter: what an update accepts as one batch, two
updates accept in two parts, and nobody can tell the difference afterwards. -/
theorem update_append (s : Subscriber S) (ha : s.replica.inactive = false)
    (hs : s.replica.hasSnapshot = true) (front back : List Log) (headers : Headers)
    (hruns : runs (front ++ back) = runs front ++ runs back) (source source₁ source₂ : Source S)
    (hok : (s.update source (front ++ back) headers).result = .ok ()) :
    let whole := s.update source (front ++ back) headers
    let first := s.update source₁ front headers
    let second := first.subscriber.update source₂ back headers
    first.result = .ok () ∧ second.result = .ok () ∧ second.subscriber = whole.subscriber
      ∧ first.effects ++ second.effects = whole.effects := by
  intro whole first second
  have hheld : s.replica.Holds := ⟨ha, hs⟩
  obtain ⟨haccepts, q, hq⟩ := replayed_of_ok hheld hok
  obtain ⟨hfront, hback⟩ := accepts_of_append hruns haccepts
  have hwhole : whole = _ := update_of_accepted hheld haccepts hq
  rw [replayed, hruns] at hq
  obtain ⟨r, hr, hrest, hpublished⟩ := Replica.replay_append hq
  have hfirst : first = _ := update_of_accepted hheld hfront hr
  have hrheld : r.Holds := hheld.of_replay hr
  -- The second part starts from a snapshot that is trusted again.
  let t : Subscriber S := { s with replica := r.validate }
  have hagain : t.replayed back headers = (q.validate, none) := by
    change r.validate.replay s.venue headers (runs back) = _
    rw [Replica.replay_validate, hrest]
  have hsecond : second =
      ⟨{ s with replica := q.validate },
        s.stores (r.published s.venue headers (runs back)), .ok ()⟩ := by
    calc second = t.update source₂ back headers := by
          rw [show second = first.subscriber.update source₂ back headers from rfl, hfirst]
      _ = ⟨{ t with replica := q.validate.validate },
            t.stores (r.validate.published s.venue headers (runs back)), .ok ()⟩ :=
          update_of_accepted (s := t) hrheld hback hagain
      _ = _ := by
          rw [Replica.published_validate]
          rfl
  refine ⟨congrArg Outcome.result hfirst, congrArg Outcome.result hsecond, ?_, ?_⟩
  · rw [hsecond, hwhole]
  · rw [hfirst, hsecond, hwhole, hruns, hpublished, stores_append]

/-- A strict master that shares takes blocks 6 and 7 and then block 9, or all at
once. -/
theorem update_append_strict :
    let s := ((new ⟨"g", "n"⟩ (Counter.venue 7)
        { Settings.default with policy := .strict, shareCache := true }).establish
      ⟨fun _ => .ok ⟨0⟩, none, none, .ok ()⟩ 5 (.supplied ⟨10⟩)).subscriber
    let front := (Fork.onelog 6).logs ++ (Fork.onelog 7).logs
    let back := (Fork.onelog 9).logs
    let headers := Headers.ofList [⟨6, 0, 0, 72⟩, ⟨7, 0, 0, 84⟩, ⟨9, 0, 0, 108⟩]
    let first := s.update (fun _ => .ok ⟨0⟩) front headers
    let second := first.subscriber.update (fun _ => .ok ⟨0⟩) back headers
    second.subscriber = (s.update (fun _ => .ok ⟨0⟩) (front ++ back) headers).subscriber
      ∧ first.effects ++ second.effects = [.store 6 ⟨11⟩, .store 7 ⟨12⟩, .store 9 ⟨13⟩] := by
  intro s front back headers first second
  have h := update_append s rfl rfl front back headers rfl (fun _ => .ok ⟨0⟩) (fun _ => .ok ⟨0⟩)
    (fun _ => .ok ⟨0⟩) rfl
  exact ⟨h.2.2.1, h.2.2.2⟩

end Subscriber

end ChainReplica
