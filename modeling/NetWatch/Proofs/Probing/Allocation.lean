import NetWatch.Proofs.Probing.Keys

/-!
# The search for a free key

The search looks at one key more than the map has entries. It passes over taken keys only, and these
are distinct, so it ends at a free key unless the map is full. A registration never takes the key of
another entry, then, and the map and the probes stay tied in every run, however long.
-/

namespace NetWatch.Probing

namespace Correlator

variable {pending : List (Key × Pending)} {key : Key} {n : Nat}

theorem nthKey_zero (key : Key) : nthKey key 0 = key := UInt64.add_zero key

theorem nthKey_succ (key : Key) (n : Nat) : nthKey (key + 1) n = nthKey key (n + 1) := by
  unfold nthKey
  rw [UInt64.add_assoc, Nat.add_comm n 1, UInt64.ofNat_add]
  rfl

/-- The search passes over taken keys, and it ends at a free one unless it runs out of steps. -/
theorem exists_freeKey_eq (pending : List (Key × Pending)) (key : Key) (fuel : Nat) :
    ∃ n ≤ fuel, freeKey pending key fuel = nthKey key n ∧
      (∀ m < n, nthKey key m ∈ pending.map (·.1)) ∧
      (n < fuel → nthKey key n ∉ pending.map (·.1)) := by
  induction fuel generalizing key with
  | zero => exact ⟨0, Nat.le_refl 0, (nthKey_zero key).symm, nofun, nofun⟩
  | succ fuel ih =>
    by_cases hkey : key ∈ pending.map (·.1)
    · obtain ⟨n, hle, heq, htaken, hfree⟩ := ih (key + 1)
      refine ⟨n + 1, Nat.succ_le_succ hle, ?_, fun m hm => ?_, fun hn => ?_⟩
      · rw [freeKey_of_mem hkey, heq, nthKey_succ]
      · cases m with
        | zero => rwa [nthKey_zero]
        | succ m =>
          rw [← nthKey_succ]
          exact htaken m (Nat.lt_of_succ_lt_succ hm)
      · rw [← nthKey_succ]
        exact hfree (Nat.lt_of_succ_lt_succ hn)
    · refine ⟨0, Nat.zero_le _, ?_, nofun, fun _ => ?_⟩
      · rw [freeKey_of_not_mem hkey, nthKey_zero]
      · rwa [nthKey_zero]

theorem le_length_of_taken (hn : n ≤ 2 ^ 64) (h : ∀ m < n, nthKey key m ∈ pending.map (·.1)) :
    n ≤ pending.length := by
  have hsub : (List.range n).map (nthKey key) ⊆ pending.map (·.1) := by
    intro k hk
    obtain ⟨m, hm, rfl⟩ := List.mem_map.1 hk
    exact h m (List.mem_range.1 hm)
  simpa using (List.subperm_of_subset (nodup_nthKeys key hn) hsub).length_le

/-- A map that is not full has room for the key that the search ends at. -/
theorem freeKey_not_mem (h : pending.length < 2 ^ 64) (key : Key) :
    freeKey pending key (pending.length + 1) ∉ pending.map (·.1) := by
  obtain ⟨n, hle, heq, htaken, hfree⟩ := exists_freeKey_eq pending key (pending.length + 1)
  have hn : n ≤ pending.length := le_length_of_taken (by omega) htaken
  rw [heq]
  exact hfree (by omega)

/-! ## Runs of any length -/

theorem registration_free {c : Correlator} {e : Event} {i : Nat}
    (hr : c.registration? e = some (i, key)) : key ∉ c.pending.map (·.1) := by
  obtain ⟨_, hroom, p, _, _, rfl⟩ := registration?_eq_some_iff.1 hr
  exact freeKey_not_mem (of_decide_eq_true hroom) c.nextKey

theorem tracked_run (first : Key) (events : List Event) : Tracked ((start first).run events) := by
  induction events using List.reverseRecOn with
  | nil => exact (consistent_start first).toTracked
  | append_singleton events e ih =>
    rw [run_append_singleton]
    exact ih.step e fun _ _ hr => registration_free hr

end Correlator

end NetWatch.Probing
