import Mathlib

/-!
The tick schedule of the daemon. Rounds run one at a time; after each the next tick is
computed from the time at which it ended. Instants and durations are numbers of
nanoseconds.
-/

namespace VectorSeam.Ticks

def duration_from_nanos (nanos : Nat) : Nat :=
  let seconds := nanos / 1000000000
  let subsecond_nanos := nanos % 1000000000
  seconds * 1000000000 + subsecond_nanos

/-- The next scheduled tick, and how many were skipped. -/
def next_tick_after_round (previous_tick now interval : Nat) : Nat × Nat :=
  let candidate := previous_tick + interval
  if now < candidate then (candidate, 0)
  else
    let overdue := now - candidate
    let skipped_ticks := overdue / interval + 1
    let elapsed_in_interval := overdue % interval
    let until_next := interval - elapsed_in_interval
    (now + duration_from_nanos until_next, skipped_ticks)

/-! ### The loop -/

/-- A round that has run: its tick, when it began and ended, and the skipped ticks reported after it. -/
structure Round where
  tick : Nat
  started : Nat
  ended : Nat
  skipped_ticks : Nat

/-- The rounds of the loop so far, the next scheduled tick and the time. A round begins when the loop wakes up,
    at its tick or later. -/
inductive Rounds (start interval : Nat) : List Round → Nat → Nat → Prop where
  | idle : Rounds start interval [] start start
  | round {rounds scheduled_tick now next_tick skipped_ticks} (started ended : Nat)
      (before : Rounds start interval rounds scheduled_tick now) (later : now ≤ started) (awake : scheduled_tick ≤ started)
      (lasted : started ≤ ended)
      (next : next_tick_after_round scheduled_tick ended interval = (next_tick, skipped_ticks)) :
      Rounds start interval (rounds ++ [⟨scheduled_tick, started, ended, skipped_ticks⟩]) next_tick ended

/-- The tick of a round and those skipped after it. -/
def Round.ticks (interval : Nat) (round : Round) : List Nat :=
  (List.range (round.skipped_ticks + 1)).map fun index => round.tick + index * interval

/-- The first ticks of the grid. -/
def grid (start interval count : Nat) : List Nat := (List.range count).map fun index => start + index * interval

/-! ### One round -/

@[simp] theorem duration_from_nanos_eq (nanos : Nat) : duration_from_nanos nanos = nanos := by
  unfold duration_from_nanos
  dsimp only
  omega

/-- The next tick lies one more than the skipped ticks ahead, as the first one behind the end of the round. -/
theorem next_tick_spec {previous_tick now interval next_tick skipped_ticks : Nat} (positive : 0 < interval)
    (next : next_tick_after_round previous_tick now interval = (next_tick, skipped_ticks)) :
    next_tick = previous_tick + (skipped_ticks + 1) * interval ∧ now < next_tick ∧
      (0 < skipped_ticks → previous_tick + skipped_ticks * interval ≤ now) := by
  unfold next_tick_after_round at next
  by_cases kept : now < previous_tick + interval
  · simp only [kept, ↓reduceIte, Prod.mk.injEq] at next
    obtain ⟨rfl, rfl⟩ := next
    refine ⟨by omega, kept, fun wrong => absurd wrong (Nat.lt_irrefl 0)⟩
  · simp only [kept, ↓reduceIte, duration_from_nanos_eq, Prod.mk.injEq] at next
    obtain ⟨rfl, rfl⟩ := next
    have split := Nat.div_add_mod (now - (previous_tick + interval)) interval
    have inside := Nat.mod_lt (now - (previous_tick + interval)) positive
    rw [Nat.mul_comm] at split
    refine ⟨?_, by omega, fun _ => ?_⟩
    · rw [Nat.succ_mul, Nat.succ_mul]
      omega
    · rw [Nat.succ_mul]
      omega

theorem mem_ticks {interval tick : Nat} {round : Round} :
    tick ∈ round.ticks interval ↔ ∃ index ≤ round.skipped_ticks, tick = round.tick + index * interval := by
  simp only [Round.ticks, List.mem_map, List.mem_range, Nat.lt_succ_iff]
  constructor
  · rintro ⟨index, inside, rfl⟩
    exact ⟨index, inside, rfl⟩
  · rintro ⟨index, inside, rfl⟩
    exact ⟨index, inside, rfl⟩

theorem grid_append (start interval count more : Nat) :
    grid start interval (count + more) = grid start interval count ++ grid (start + count * interval) interval more := by
  unfold grid
  rw [List.range_add, List.map_append, List.map_map]
  congr 1
  refine List.map_congr_left fun index _ => ?_
  simp only [Function.comp_apply, Nat.add_mul]
  omega

/-- The next tick is the first one on the grid after both the end of the round and its tick. -/
theorem next_tick_least {start interval previous_tick ended next_tick skipped_ticks : Nat} (positive : 0 < interval)
    (on_grid : ∃ index, previous_tick = start + index * interval)
    (next : next_tick_after_round previous_tick ended interval = (next_tick, skipped_ticks)) :
    IsLeast { tick | (∃ index, tick = start + index * interval) ∧ ended < tick ∧ previous_tick < tick } next_tick := by
  obtain ⟨rfl, ahead, behind⟩ := next_tick_spec positive next
  obtain ⟨index, rfl⟩ := on_grid
  have forward : start + index * interval < start + index * interval + (skipped_ticks + 1) * interval :=
    Nat.lt_add_of_pos_right (Nat.mul_pos (Nat.succ_pos _) positive)
  refine ⟨⟨⟨index + (skipped_ticks + 1), by rw [Nat.add_mul index]; omega⟩, ahead, forward⟩, ?_⟩
  rintro tick ⟨⟨other, rfl⟩, after, beyond⟩
  have more : index < other := Nat.lt_of_mul_lt_mul_right (Nat.lt_of_add_lt_add_left beyond)
  -- An earlier tick of the grid is a skipped one.
  have enough : index + skipped_ticks < other := by
    by_contra few
    have reached := behind (by omega)
    have within : other * interval ≤ (index + skipped_ticks) * interval := Nat.mul_le_mul_right _ (Nat.not_lt.mp few)
    rw [Nat.add_mul] at within
    omega
  have far : (index + (skipped_ticks + 1)) * interval ≤ other * interval := Nat.mul_le_mul_right _ enough
  rw [Nat.add_mul index] at far
  omega

/-! ### All rounds -/

variable {start interval scheduled_tick now : Nat} {rounds : List Round}

/-- The ticks before the next scheduled one are those of the rounds and those skipped after them. -/
theorem rounds_tile (positive : 0 < interval) (run : Rounds start interval rounds scheduled_tick now) :
    ∃ count, scheduled_tick = start + count * interval ∧
      rounds.flatMap (Round.ticks interval) = grid start interval count ∧
      rounds.length + (rounds.map Round.skipped_ticks).sum = count := by
  induction run with
  | idle => exact ⟨0, by omega, rfl, rfl⟩
  | @round rounds scheduled_tick now next_tick skipped_ticks started ended before later awake lasted next ih =>
    obtain ⟨count, rfl, tiled, counted⟩ := ih
    obtain ⟨rfl, _⟩ := next_tick_spec positive next
    refine ⟨count + (skipped_ticks + 1), by rw [Nat.add_mul count]; omega, ?_, ?_⟩
    · rw [List.flatMap_append, tiled, grid_append, List.flatMap_singleton]
      rfl
    · rw [List.length_append, List.map_append, List.sum_append]
      simp only [List.length_singleton, List.map_cons, List.map_nil, List.sum_singleton]
      omega

/-- What is behind stays behind: rounds are over, and their ticks and those skipped lie before the next one. -/
theorem rounds_behind (positive : 0 < interval) (run : Rounds start interval rounds scheduled_tick now) :
    (∀ round ∈ rounds, round.tick ≤ round.started ∧ round.ended ≤ now ∧
      ∀ tick ∈ round.ticks interval, tick < scheduled_tick) ∧
    rounds.Pairwise fun earlier later => earlier.ended ≤ later.started ∧
      ∀ tick ∈ earlier.ticks interval, tick < later.tick := by
  induction run with
  | idle => exact ⟨nofun, .nil⟩
  | @round rounds scheduled_tick now next_tick skipped_ticks started ended before later awake lasted next ih =>
    obtain ⟨behind, ordered⟩ := ih
    obtain ⟨rfl, ahead, _⟩ := next_tick_spec positive next
    have forward : scheduled_tick < scheduled_tick + (skipped_ticks + 1) * interval :=
      Nat.lt_add_of_pos_right (Nat.mul_pos (Nat.succ_pos _) positive)
    constructor
    · intro round member
      rcases List.mem_append.mp member with old | new
      · obtain ⟨woke, gone, passed⟩ := behind round old
        exact ⟨woke, by omega, fun tick among => (passed tick among).trans forward⟩
      · obtain rfl := List.mem_singleton.mp new
        refine ⟨awake, Nat.le_refl _, fun tick among => ?_⟩
        obtain ⟨index, inside, rfl⟩ := mem_ticks.mp among
        exact Nat.add_lt_add_left (Nat.mul_lt_mul_of_pos_right (Nat.lt_succ_of_le inside) positive) _
    · refine List.pairwise_append.mpr ⟨ordered, List.pairwise_singleton _ _, fun round old other new => ?_⟩
      obtain rfl := List.mem_singleton.mp new
      obtain ⟨_, gone, passed⟩ := behind round old
      exact ⟨by dsimp only; omega, passed⟩

/-- The schedule runs one round at a time and stays on the grid. -/
theorem schedule_keeps_grid (positive : 0 < interval) (run : Rounds start interval rounds scheduled_tick now) :
    (∀ round ∈ rounds, (∃ index, round.tick = start + index * interval) ∧ round.tick ≤ round.started) ∧
    (∀ previous_tick ended next_tick skipped_ticks, (∃ index, previous_tick = start + index * interval) →
      next_tick_after_round previous_tick ended interval = (next_tick, skipped_ticks) →
        IsLeast { tick | (∃ index, tick = start + index * interval) ∧ ended < tick ∧ previous_tick < tick } next_tick ∧
        (ended < previous_tick + interval → next_tick = previous_tick + interval ∧ skipped_ticks = 0)) ∧
    (rounds.Pairwise fun earlier later => earlier.tick < later.tick ∧ earlier.ended ≤ later.started ∧
      ∀ tick ∈ earlier.ticks interval, tick < later.tick) ∧
    (∀ round ∈ rounds, round.tick < scheduled_tick ∧ round.ended ≤ now) ∧
    ∃ count, scheduled_tick = start + count * interval ∧
      rounds.flatMap (Round.ticks interval) = grid start interval count ∧
      rounds.length + (rounds.map Round.skipped_ticks).sum = count := by
  obtain ⟨behind, ordered⟩ := rounds_behind positive run
  obtain ⟨count, scheduled, tiled, counted⟩ := rounds_tile positive run
  have own : ∀ round : Round, round.tick ∈ round.ticks interval :=
    fun round => mem_ticks.mpr ⟨0, Nat.zero_le _, by omega⟩
  refine ⟨fun round member => ⟨?_, (behind round member).1⟩, ?_, ?_, ?_, count, scheduled, tiled, counted⟩
  · have among : round.tick ∈ grid start interval count := by
      rw [← tiled]
      exact List.mem_flatMap.mpr ⟨round, member, own round⟩
    obtain ⟨index, _, same⟩ := List.mem_map.mp among
    exact ⟨index, same.symm⟩
  · intro previous_tick ended next_tick skipped_ticks on_grid next
    refine ⟨next_tick_least positive on_grid next, fun kept => ?_⟩
    rw [next_tick_after_round, if_pos kept] at next
    obtain ⟨rfl, rfl⟩ := Prod.mk.inj next
    exact ⟨rfl, rfl⟩
  · exact ordered.imp fun {earlier later} both => ⟨both.2 _ (own earlier), both.1, both.2⟩
  · intro round member
    obtain ⟨_, gone, passed⟩ := behind round member
    exact ⟨passed _ (own round), gone⟩

/-- A round of 25 seconds on a grid of 10 skips two ticks. -/
theorem long_round_skips : ∃ rounds, Rounds 0 10 rounds 30 25 ∧ rounds.flatMap (Round.ticks 10) = grid 0 10 3 := by
  have run : Rounds 0 10 _ 30 25 := Rounds.idle.round 0 25 (Nat.le_refl 0) (Nat.le_refl 0) (by decide)
    (show next_tick_after_round 0 25 10 = (30, 2) by decide)
  obtain ⟨_, _, _, _, count, scheduled, tiled, _⟩ := schedule_keeps_grid (by decide) run
  obtain rfl : count = 3 := by omega
  exact ⟨_, run, tiled⟩

end VectorSeam.Ticks
