import VectorSeam.Configuration
import VectorSeam.Magnitudes
import VectorSeam.Pacer

/-!
The timing arithmetic of an accepted configuration. The kernel counts the monotonic clock in
nanoseconds below 2^63, so readings and the spans between them are below that. Both the
cooldown and the next tick can still leave the range that the standard library can express.
-/

namespace VectorSeam.Cooldowns
open VectorSeam.Rounding VectorSeam.Magnitudes VectorSeam.Durations VectorSeam.Configuration VectorSeam.Pacer

def CLOCK_BOUND : Nat := 2 ^ 63

/-! ### Spans as floats -/

theorem from_nanos_some {nanos : Nat} (fits : nanos < U64_BOUND * NANOS_PER_SEC) :
    ∃ duration, Duration.from_nanos nanos = some duration ∧ duration.as_nanos = nanos := by
  refine ⟨_, dif_pos fits, ?_⟩
  exact Nat.div_add_mod' nanos NANOS_PER_SEC

theorem as_nanos_of_from_nanos {nanos : Nat} {duration : Duration} (found : Duration.from_nanos nanos = some duration) :
    duration.as_nanos = nanos := by
  unfold Duration.from_nanos at found
  by_cases fits : nanos < U64_BOUND * NANOS_PER_SEC
  · rw [dif_pos fits] at found
    cases found
    exact Nat.div_add_mod' nanos NANOS_PER_SEC
  · rw [dif_neg fits] at found
    cases found

/-- The seconds of a span, as the floating-point operations round them. -/
def secs_value (duration : Duration) : ℚ :=
  rounded (rounded duration.as_secs + rounded (duration.subsec_nanos / NANOS_PER_SEC))

theorem rounded_nanos_le_one (duration : Duration) : rounded ((duration.subsec_nanos : ℚ) / NANOS_PER_SEC) ≤ 1 := by
  have fits := duration.nanos_fit
  refine rounded_le_one (by positivity) ?_
  rw [div_le_one (by norm_num [NANOS_PER_SEC])]
  exact_mod_cast fits.le

theorem rounded_secs_le {n bound : ℕ} (le : n ≤ bound) (small : bound < 2 ^ 53) : rounded n ≤ bound := by
  have mono := rounded_mono_nonneg (Nat.cast_nonneg n) (show (n : ℚ) ≤ bound by exact_mod_cast le)
  rwa [rounded_natCast small] at mono

theorem as_secs_f64_value (duration : Duration) : Represents duration.as_secs_f64 (secs_value duration) := by
  have secs := represents_ofNat (show duration.as_secs ≤ 2 ^ 128 from duration.secs_fit.le.trans (by decide))
  have nanosSmall : duration.subsec_nanos < 2 ^ 53 := duration.nanos_fit.trans (by decide)
  have nanos := represents_ofNat (show duration.subsec_nanos ≤ 2 ^ 128 from nanosSmall.le.trans (by decide))
  have billion := represents_ofNat (show NANOS_PER_SEC ≤ 2 ^ 128 by decide)
  rw [rounded_natCast nanosSmall] at nanos
  rw [rounded_natCast (show NANOS_PER_SEC < 2 ^ 53 by decide)] at billion
  have positive : (0 : ℚ) < NANOS_PER_SEC := by norm_num [NANOS_PER_SEC]
  have below : (duration.subsec_nanos : ℚ) / NANOS_PER_SEC ≤ 1 := by
    rw [div_le_one positive]
    exact_mod_cast duration.nanos_fit.le
  have oneModerate : (1 : ℚ) ≤ BOUND := by exact_mod_cast natCast_moderate (n := 1) (by norm_num)
  have least : (duration.subsec_nanos : ℚ) = 0 ∨ (2 : ℚ) ^ (-900 : ℤ) ≤ duration.subsec_nanos / NANOS_PER_SEC := by
    rcases Nat.eq_zero_or_pos duration.subsec_nanos with none | some
    · exact .inl (by rw [none, Nat.cast_zero])
    · refine .inr ?_
      have one : (1 : ℚ) ≤ duration.subsec_nanos := by exact_mod_cast some
      rw [le_div_iff₀ positive]
      calc (2 : ℚ) ^ (-900 : ℤ) * NANOS_PER_SEC ≤ 2 ^ (-30 : ℤ) * NANOS_PER_SEC :=
            mul_le_mul_of_nonneg_right (zpow_le_zpow_right₀ (by norm_num) (by norm_num)) positive.le
        _ ≤ 1 := by norm_num [NANOS_PER_SEC]
        _ ≤ duration.subsec_nanos := one
  have fraction := represents_div nanos billion positive least (below.trans oneModerate)
  refine represents_add secs fraction ?_
  have top : rounded duration.as_secs ≤ 2 ^ (64 : ℤ) := by
    have mono := rounded_mono_nonneg (Nat.cast_nonneg duration.as_secs)
      (show (duration.as_secs : ℚ) ≤ 2 ^ (64 : ℤ) by exact_mod_cast duration.secs_fit.le)
    rwa [rounded_two_zpow (by norm_num)] at mono
  have wide : (2 : ℚ) ^ (64 : ℤ) + 1 ≤ BOUND := by
    have bound := natCast_moderate (n := 2 ^ 64 + 1) (by norm_num)
    push_cast at bound
    exact_mod_cast bound
  exact (add_le_add top (rounded_nanos_le_one duration)).trans wide

/-- The longest span that the clock can measure. -/
def longest : Duration := ⟨9223372036, 854775807, by decide, by decide⟩

theorem secs_value_le {duration : Duration} (short : duration.as_nanos < CLOCK_BOUND) :
    0 ≤ secs_value duration ∧ secs_value duration ≤ secs_value longest := by
  have fits := duration.nanos_fit
  have whole : duration.as_secs * NANOS_PER_SEC + duration.subsec_nanos < CLOCK_BOUND := short
  simp only [NANOS_PER_SEC, CLOCK_BOUND] at fits whole
  refine ⟨rounded_nonneg _, ?_⟩
  have nanosNonneg := rounded_nonneg ((duration.subsec_nanos : ℚ) / NANOS_PER_SEC)
  refine rounded_mono_nonneg (add_nonneg (rounded_nonneg _) nanosNonneg) ?_
  have secsLongest : rounded longest.as_secs = 9223372036 := by
    have exact := rounded_natCast (show longest.as_secs < 2 ^ 53 by decide)
    rw [exact]
    rfl
  rw [secsLongest]
  rcases Nat.lt_or_ge duration.as_secs 9223372036 with shorter | same
  · -- A second less outweighs all nanoseconds.
    have secs := rounded_secs_le (Nat.le_of_lt_succ shorter) (by norm_num)
    have nanos := rounded_nanos_le_one duration
    have others := rounded_nonneg ((longest.subsec_nanos : ℚ) / NANOS_PER_SEC)
    push_cast at secs
    linarith
  · have nanosLe : duration.subsec_nanos ≤ longest.subsec_nanos := by
      change _ ≤ 854775807
      omega
    have secs := rounded_secs_le (show duration.as_secs ≤ 9223372036 by omega) (by norm_num)
    have nanos : rounded ((duration.subsec_nanos : ℚ) / NANOS_PER_SEC) ≤ rounded ((longest.subsec_nanos : ℚ) / NANOS_PER_SEC) :=
      rounded_mono_nonneg (by positivity)
        (div_le_div_of_nonneg_right (by exact_mod_cast nanosLe) (by norm_num [NANOS_PER_SEC]))
    push_cast at secs
    linarith

/-! ### Factors -/

/-- The cooldown per unit of busy time. -/
def factor (db_share : Float) : Float := (1.0 - db_share) / db_share

/-- The factor of a share that is not tiny rounds twice. -/
theorem factor_represents {share : Float} {x : ℚ} (represents : Represents share x) (least : (2 : ℚ) ^ (-100 : ℤ) ≤ x)
    (le : x ≤ 1) : Represents (factor share) (rounded (rounded (1 - x) / x)) := by
  have positive : 0 < x := (two_zpow_pos _).trans_le least
  have rest := represents_one_sub represents le
  have small := rounded_le_one (sub_nonneg.mpr le) (by linarith)
  refine represents_div rest represents positive ?_ ?_
  · rcases le.eq_or_lt with rfl | less
    · exact .inl (by rw [sub_self, rounded_zero])
    · -- Below one, the next float is still at most one.
      refine .inr ?_
      rcases represents with ⟨zero, _⟩ | ⟨m, e, h, _, canonical, rfl⟩
      · exact absurd zero positive.ne'
      have next := next_le represents_one canonical h less
      have gap : (2 : ℚ) ^ e ≤ 1 - m * 2 ^ e := by
        push_cast at next
        linarith
      have exponent : -153 ≤ e := by
        by_contra low
        have bits : m < 2 ^ 53 := (Nat.log2_lt h.ne').mp (by have := canonical.bits; omega)
        have below : (m : ℚ) * 2 ^ e < 2 ^ (53 : ℤ) * 2 ^ (-153 : ℤ) := by
          have mantissa : (m : ℚ) < 2 ^ (53 : ℤ) := by exact_mod_cast bits
          exact mul_lt_mul_of_pos_of_nonneg' mantissa (zpow_le_zpow_right₀ (by norm_num) (by omega)) (two_zpow_pos e)
            (two_zpow_pos _).le
        rw [← zpow_add₀ (by norm_num)] at below
        norm_num at below least
        linarith
      have some : (2 : ℚ) ^ (-153 : ℤ) ≤ rounded (1 - m * 2 ^ e) := by
        have mono := rounded_mono (two_zpow_pos (-153)) ((zpow_le_zpow_right₀ (by norm_num) exponent).trans gap)
        rwa [rounded_two_zpow (by norm_num)] at mono
      calc (2 : ℚ) ^ (-900 : ℤ) ≤ 2 ^ (-153 : ℤ) := zpow_le_zpow_right₀ (by norm_num) (by norm_num)
        _ ≤ rounded (1 - m * 2 ^ e) := some
        _ ≤ rounded (1 - m * 2 ^ e) / (m * 2 ^ e) := le_div_self (rounded_nonneg _) positive le
  · rw [div_le_iff₀ positive]
    calc rounded (1 - x) ≤ 1 := small
      _ = 2 ^ (100 : ℤ) * 2 ^ (-100 : ℤ) := by norm_num
      _ ≤ BOUND * x := mul_le_mul (zpow_le_zpow_right₀ (by norm_num) (by norm_num)) least (two_zpow_pos _).le (two_zpow_pos _).le

/-- A smaller share has a larger factor, or an infinite one. -/
theorem factor_exceeds {share : Float} {x y : ℚ} (represents : Represents share x) (positive : 0 < x) (le : x ≤ y)
    (half : y ≤ 1 / 2) : Exceeds (factor share) (rounded (rounded (1 - y) / y)) := by
  have rest := represents_one_sub represents (by linarith)
  have some : 1 / 2 ≤ rounded (1 - x) := by
    have mono := rounded_mono (two_zpow_pos (-1)) (show (2 : ℚ) ^ (-1 : ℤ) ≤ 1 - x by norm_num; linarith)
    rw [rounded_two_zpow (by norm_num)] at mono
    norm_num at mono
    linarith
  refine exceeds_div rest represents positive (div_nonneg (rounded_nonneg _) (positive.le.trans le)) ?_ ?_
  · exact div_le_div₀ (rounded_nonneg _) (rounded_mono_nonneg (by linarith) (by linarith)) positive le
  · calc (2 : ℚ) ^ (-900 : ℤ) ≤ 2 ^ (-1 : ℤ) := zpow_le_zpow_right₀ (by norm_num) (by norm_num)
      _ ≤ rounded (1 - x) := by norm_num; linarith
      _ ≤ rounded (1 - x) / x := le_div_self (rounded_nonneg _) positive (by linarith)

/-! ### The boundary -/

/-- The largest share that is too small. -/
def TINY : Float := 1e-9
/-- The float after it. -/
def NEXT : Float := 1.0000000000000003e-9

theorem tiny_represents : Represents TINY ((4835703278458517 : ℕ) * 2 ^ (-82 : ℤ)) :=
  represents_of_unpack (show TINY.toModel.unpack = .finite .positive 4835703278458517 (-82) (by norm_num) from rfl)
theorem next_represents : Represents NEXT ((4835703278458518 : ℕ) * 2 ^ (-82 : ℤ)) :=
  represents_of_unpack (show NEXT.toModel.unpack = .finite .positive 4835703278458518 (-82) (by norm_num) from rfl)
theorem longest_represents : Represents longest.as_secs_f64 ((4835703278458517 : ℕ) * 2 ^ (-19 : ℤ)) :=
  represents_of_unpack (show longest.as_secs_f64.toModel.unpack = .finite .positive 4835703278458517 (-19) (by norm_num) from rfl)

/-- The longest cooldowns on both sides of the boundary, 1024 seconds apart. -/
theorem tiny_product : Represents (factor TINY * longest.as_secs_f64) ((9007199245733793 : ℕ) * 2 ^ (10 : ℤ)) :=
  represents_of_unpack (show (factor TINY * longest.as_secs_f64).toModel.unpack =
    .finite .positive 9007199245733793 10 (by norm_num) from rfl)
theorem next_product : Represents (factor NEXT * longest.as_secs_f64) ((9007199245733791 : ℕ) * 2 ^ (10 : ℤ)) :=
  represents_of_unpack (show (factor NEXT * longest.as_secs_f64).toModel.unpack =
    .finite .positive 9007199245733791 10 (by norm_num) from rfl)

theorem tiny_factor : Represents (factor TINY) ((8388607991611392 : ℕ) * 2 ^ (-23 : ℤ)) :=
  represents_of_unpack (show (factor TINY).toModel.unpack = .finite .positive 8388607991611392 (-23) (by norm_num) from rfl)
theorem next_factor : Represents (factor NEXT) ((8388607991611390 : ℕ) * 2 ^ (-23 : ℤ)) :=
  represents_of_unpack (show (factor NEXT).toModel.unpack = .finite .positive 8388607991611390 (-23) (by norm_num) from rfl)

theorem next_value : rounded (rounded (1 - (4835703278458518 : ℕ) * 2 ^ (-82 : ℤ)) / ((4835703278458518 : ℕ) * 2 ^ (-82 : ℤ))) =
    (8388607991611390 : ℕ) * 2 ^ (-23 : ℤ) :=
  represents_unique (factor_represents next_represents (by norm_num) (by norm_num)) next_factor

theorem tiny_value : rounded (rounded (1 - (4835703278458517 : ℕ) * 2 ^ (-82 : ℤ)) / ((4835703278458517 : ℕ) * 2 ^ (-82 : ℤ))) =
    (8388607991611392 : ℕ) * 2 ^ (-23 : ℤ) :=
  represents_unique (factor_represents tiny_represents (by norm_num) (by norm_num)) tiny_factor

theorem factor_moderate {m : ℕ} (small : m < 2 ^ 53) :
    (m : ℚ) * 2 ^ (-23 : ℤ) * ((4835703278458517 : ℕ) * 2 ^ (-19 : ℤ)) ≤ BOUND := by
  have mantissa : (m : ℚ) ≤ 2 ^ 53 := by exact_mod_cast small.le
  refine le_trans ?_ (natCast_moderate (n := 2 ^ 128) le_rfl)
  norm_num
  linarith

theorem try_from_represented {secs : Float} {x : ℚ} (represents : Represents secs x) :
    Duration.try_from_secs_f64 secs = Duration.from_nanos (nearest (x * NANOS_PER_SEC)) := by
  unfold Duration.try_from_secs_f64
  rcases represents with ⟨rfl, sign, same⟩ | ⟨m, e, h, same, _, rfl⟩
  · rw [same, zero_mul, show (0 : ℚ) = ((0 : ℕ) : ℚ) from Nat.cast_zero.symm, nearest_natCast]
  · rw [same]

/-- Shares above the boundary have cooldowns that leave room for the clock. -/
theorem cooldown_some {share : Float} (positive : 0.0 < share) (large : TINY < share) (most : share ≤ 1.0)
    {elapsed : Duration} (short : elapsed.as_nanos < CLOCK_BOUND) :
    ∃ duration, cooldown share elapsed = some duration ∧ duration.as_nanos + CLOCK_BOUND ≤ I64_BOUND * NANOS_PER_SEC := by
  have finite : share.isFinite = true :=
    Binary64.isFinite_of_between (Binary64.le_of_lt positive) most (by decide) (by decide)
  obtain ⟨x, xPositive, represents⟩ := represents_of_positive positive finite
  have le : x ≤ 1 := (represents.le_iff represents_one).mp most
  have above : ((4835703278458518 : ℕ) : ℚ) * 2 ^ (-82 : ℤ) ≤ x := by
    refine next_le represents (canonical_of_unpack (show TINY.toModel.unpack =
      .finite .positive 4835703278458517 (-82) (by norm_num) from rfl)) (by norm_num) ?_
    by_contra below
    exact Binary64.not_lt_of_le ((represents.le_iff tiny_represents).mpr (not_lt.mp below)) large
  have factored := factor_represents represents (le_trans (by norm_num) above) le
  have factorLe : rounded (rounded (1 - x) / x) ≤ (8388607991611390 : ℕ) * 2 ^ (-23 : ℤ) := by
    rw [← next_value]
    refine rounded_mono_nonneg (div_nonneg (rounded_nonneg _) xPositive.le) ?_
    exact div_le_div₀ (rounded_nonneg _) (rounded_mono_nonneg (by linarith) (by linarith)) (by norm_num) above
  obtain ⟨secsNonneg, secsLe⟩ := secs_value_le short
  have longestSame := represents_unique (as_secs_f64_value longest) longest_represents
  rw [longestSame] at secsLe
  have productLe := mul_le_mul factorLe secsLe secsNonneg (by norm_num)
  have bound := factor_moderate (show 8388607991611390 < 2 ^ 53 by norm_num)
  have product := represents_mul factored (as_secs_f64_value elapsed) (productLe.trans bound)
  have productSame := represents_unique (represents_mul next_factor longest_represents bound) next_product
  have valueLe := rounded_mono_nonneg (mul_nonneg (rounded_nonneg _) secsNonneg) productLe
  rw [productSame] at valueLe
  have nanosLe : nearest (rounded (rounded (rounded (1 - x) / x) * secs_value elapsed) * NANOS_PER_SEC) ≤
      9223372027631401984 * NANOS_PER_SEC := by
    rw [← nearest_natCast (9223372027631401984 * NANOS_PER_SEC)]
    refine nearest_mono ((mul_le_mul_of_nonneg_right valueLe (Nat.cast_nonneg _)).trans_eq ?_)
    norm_num
  have room : 9223372027631401984 * NANOS_PER_SEC + CLOCK_BOUND ≤ I64_BOUND * NANOS_PER_SEC := by decide
  have wide : I64_BOUND * NANOS_PER_SEC ≤ U64_BOUND * NANOS_PER_SEC := by decide
  obtain ⟨duration, found, nanos⟩ := from_nanos_some (lt_of_le_of_lt nanosLe (lt_of_lt_of_le (by decide) wide))
  refine ⟨duration, ?_, by rw [nanos]; exact (Nat.add_le_add_right nanosLe _).trans room⟩
  exact (try_from_represented product).trans found

/-- The last reading of the clock. -/
def latest : Instant := ⟨CLOCK_BOUND - 1, by decide⟩

/-- Shares up to the boundary have a longest cooldown that cannot be added to the last reading. -/
theorem longest_cooldown_overflows {share : Float} (positive : 0.0 < share) (small : share ≤ TINY) {duration : Duration}
    (found : cooldown share longest = some duration) : latest.checked_add duration = none := by
  have finite : share.isFinite = true :=
    Binary64.isFinite_of_between (Binary64.le_of_lt positive) small (by decide) (by decide)
  obtain ⟨x, xPositive, represents⟩ := represents_of_positive positive finite
  have below := (represents.le_iff tiny_represents).mp small
  have exceeds := exceeds_mul (factor_exceeds represents xPositive below (by norm_num)) longest_represents (rounded_nonneg _)
    (by norm_num)
  have bound := factor_moderate (show 8388607991611392 < 2 ^ 53 by norm_num)
  rw [tiny_value, represents_unique (represents_mul tiny_factor longest_represents bound) tiny_product] at exceeds
  change Duration.try_from_secs_f64 (factor share * longest.as_secs_f64) = some duration at found
  rcases exceeds with infinite | ⟨value, above, represented⟩
  · rw [Duration.try_from_secs_f64, infinite] at found
    cases found
  rw [try_from_represented represented] at found
  have nanos := as_nanos_of_from_nanos found
  have long : 9223372027631404032 * NANOS_PER_SEC ≤ duration.as_nanos := by
    rw [nanos, ← nearest_natCast (9223372027631404032 * NANOS_PER_SEC)]
    refine nearest_mono (le_trans (le_of_eq ?_) (mul_le_mul_of_nonneg_right above (Nat.cast_nonneg _)))
    norm_num
  refine dif_neg ?_
  change ¬CLOCK_BOUND - 1 + duration.as_nanos < I64_BOUND * NANOS_PER_SEC
  have beyond : I64_BOUND * NANOS_PER_SEC ≤ CLOCK_BOUND - 1 + 9223372027631404032 * NANOS_PER_SEC := by decide
  omega

/-! ### Configurations -/

/-- Neither computing the cooldown nor adding it to the clock's reading, nor adding the interval to a tick, panics. -/
structure TimingSafe (config : Config) : Prop where
  cooldown : ∀ (elapsed : Duration) (now : Instant), elapsed.as_nanos < CLOCK_BOUND → now.nanos < CLOCK_BOUND →
    ∃ duration next_allowed, cooldown config.budget.db_share elapsed = some duration ∧
      now.checked_add duration = some next_allowed
  tick : ∀ tick : Instant, tick.nanos < CLOCK_BOUND → ∃ next, tick.checked_add config.calibration.interval = some next

theorem checked_add_some {instant : Instant} {duration : Duration} :
    (∃ next, instant.checked_add duration = some next) ↔
      instant.nanos + duration.as_nanos < I64_BOUND * NANOS_PER_SEC := by
  unfold Instant.checked_add
  by_cases fits : instant.nanos + duration.as_nanos < I64_BOUND * NANOS_PER_SEC
  · simp [fits]
  · simp [fits]

theorem timing_safe_iff (debug : String → String) (password_env_exists : String → Bool) (raw : RawConfig) (config : Config)
    (accepted : from_raw debug password_env_exists raw = .ok config) :
    TimingSafe config ↔ 1e-9 < config.budget.db_share ∧
      config.calibration.interval.as_nanos ≤ 2 ^ 63 * 1000000000 - 2 ^ 63 := by
  obtain ⟨positive, most⟩ := (from_raw_ok accepted).budget.db_share
  constructor
  · intro safe
    refine ⟨?_, ?_⟩
    · by_contra small
      have below : config.budget.db_share ≤ TINY :=
        Binary64.le_of_not_lt (by decide) (Binary64.isNaN_of_lt positive).2 small
      obtain ⟨duration, next_allowed, found, added⟩ := safe.cooldown longest latest (by decide) (by decide)
      rw [longest_cooldown_overflows positive below found] at added
      cases added
    · have fits := checked_add_some.mp (safe.tick latest (by decide))
      change CLOCK_BOUND - 1 + _ < _ at fits
      simp only [CLOCK_BOUND, I64_BOUND, NANOS_PER_SEC] at fits
      omega
  · rintro ⟨large, short⟩
    refine ⟨fun elapsed now spent read => ?_, fun tick read => checked_add_some.mpr ?_⟩
    · obtain ⟨duration, found, room⟩ := cooldown_some positive large most spent
      obtain ⟨next_allowed, added⟩ := checked_add_some.mpr (show now.nanos + duration.as_nanos < _ by omega)
      exact ⟨duration, next_allowed, found, added⟩
    · simp only [CLOCK_BOUND, I64_BOUND, NANOS_PER_SEC] at read ⊢
      omega

theorem local_timing_safe : ∃ config, from_raw id (fun _ => true) localRaw = .ok config ∧
    (TimingSafe config ↔ 1e-9 < config.budget.db_share ∧
      config.calibration.interval.as_nanos ≤ 2 ^ 63 * 1000000000 - 2 ^ 63) := by
  obtain ⟨config, accepted⟩ := localRaw_accepted
  exact ⟨config, accepted, timing_safe_iff id (fun _ => true) localRaw config accepted⟩

/-- A share whose cooldown after a millisecond is longer than a span can be. -/
def tinyRaw : RawConfig := { localRaw with budget := { localRaw.budget with db_share := 1e-30 } }

theorem tiny_share_panics : ∃ config, from_raw id (fun _ => true) tinyRaw = .ok config ∧ ¬TimingSafe config := by
  refine ⟨_, rfl, fun safe => ?_⟩
  obtain ⟨duration, next_allowed, found, _⟩ := safe.cooldown ⟨0, 1000000, by decide, by decide⟩ ⟨0, by decide⟩ (by decide)
    (by decide)
  have panics : cooldown 1e-30 ⟨0, 1000000, by decide, by decide⟩ = none := by decide +kernel
  cases panics.symm.trans found

end VectorSeam.Cooldowns
