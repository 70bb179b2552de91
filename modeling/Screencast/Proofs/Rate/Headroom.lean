import Screencast.Proofs.Number.Rounding
import Screencast.Proofs.Number.Single
import Screencast.Proofs.Rate.Answers

/-! # Headroom and the way back up

The product that probes for more bandwidth is cut off to a whole number, so that the step upward is
lost below ten bits a second (`Screencast.scaleRate_probe_of_lt_ten`) and nowhere else
(`Screencast.lt_scaleRate_probe`). Whatever a controller has been through, reports that show
headroom take its bitrate up to the cap, step by step, unless it is stuck down there or counts even
a report without any loss as a lossy one (`Screencast.RateController.headroom_recovers`).
-/

namespace Screencast

open Wire

/-! ## The factors -/

private theorem Single.not_isNaN_of_value {x : Single} (zero : x.value = 0) : x.isNaN = false := by
  have units : x.units = 0 := by
    unfold value at zero
    split at zero <;> omega
  have exponent : x.exponent = 0 := by
    refine Decidable.byContradiction fun normal => ?_
    rw [Single.units, if_neg normal, Nat.one_shiftLeft, Nat.shiftLeft_eq] at units
    have positive : 0 < (2 ^ 23 + x.fraction) * 2 ^ (x.exponent - 1) :=
      Nat.mul_pos (by omega) (Nat.two_pow_pos _)
    omega
  rw [isNaN, exponent]
  rfl

/-- A number of few binary digits is exact in double precision. -/
theorem toDouble_of_lt {n : Nat} (short : n < 2 ^ doubleDigits) : toDouble n = n :=
  roundSignificant_of_held (by decide) (.of_lt short)

private theorem le_toDouble {m n : Nat} (held : IsHeld doubleDigits m) (le : m ≤ n) :
    m ≤ toDouble n :=
  le_roundSignificant (by decide) held le

private theorem toDouble_le {m n : Nat} (held : IsHeld doubleDigits m) (le : n ≤ m) :
    toDouble n ≤ m :=
  roundSignificant_le (by decide) held le

private theorem units_elevenTenths : Single.elevenTenths.units = 9227469 * 2 ^ 126 := by decide

private theorem scaledUnits_of_lt {n : Nat} (short : n < 2 ^ doubleDigits) (f : Single) :
    scaledUnits n f = toDouble (n * f.units) := by
  rw [scaledUnits, toDouble_of_lt short]

private theorem scaleRate_probe (n : Nat) :
    scaleRate n .elevenTenths = scaledUnits n .elevenTenths / 2 ^ 149 := by
  rw [← Nat.shiftRight_eq_div_pow]
  exact if_neg (by decide)

/-- From ten bits a second on, the probe wins at least one. -/
theorem lt_scaleRate_probe {n : Nat} (ten : 10 ≤ n) (small : n < 2 ^ 52) :
    n < scaleRate n .elevenTenths := by
  have held : IsHeld doubleDigits ((n + 1) * 2 ^ 149) :=
    (IsHeld.of_lt (by unfold doubleDigits; omega)).shift 149
  have product : (n + 1) * 2 ^ 149 ≤ n * (9227469 * 2 ^ 126) := by omega
  rw [scaleRate_probe, scaledUnits_of_lt (by unfold doubleDigits; omega), units_elevenTenths]
  exact (Nat.le_div_iff_mul_le (Nat.two_pow_pos 149)).mpr (le_toDouble held product)

/-- Below ten the product is exact, and its fraction is all that was won. -/
theorem scaleRate_probe_of_lt_ten {n : Nat} (few : n < 10) : scaleRate n .elevenTenths = n := by
  have held : IsHeld doubleDigits (n * 9227469 * 2 ^ 126) :=
    (IsHeld.of_lt (by unfold doubleDigits; omega)).shift 126
  have product : scaledUnits n .elevenTenths = n * 9227469 * 2 ^ 126 := by
    rw [scaledUnits_of_lt (by unfold doubleDigits; omega), units_elevenTenths, ← Nat.mul_assoc]
    exact roundSignificant_of_held (by decide) held
  rw [scaleRate_probe, product]
  omega

/-- The probe never leads down. -/
theorem le_scaleRate_probe {n : Nat} (small : n < 2 ^ 52) : n ≤ scaleRate n .elevenTenths := by
  by_cases few : n < 10
  · exact Nat.le_of_eq (scaleRate_probe_of_lt_ten few).symm
  · exact Nat.le_of_lt (lt_scaleRate_probe (Nat.not_lt.mp few) small)

/-- Twice the cap is more than what probing makes of a rate below the cap. -/
theorem exceedsScaled_probe {rate n cap : Nat} (wide : 2 * cap ≤ rate) (below : n < cap)
    (small : cap < 2 ^ 52) : exceedsScaled rate n .elevenTenths = true := by
  have bandwidth : 2 * cap ≤ toDouble rate :=
    le_toDouble (.of_lt (by unfold doubleDigits; omega)) wide
  have held : IsHeld doubleDigits (2 * n * 2 ^ 149) :=
    (IsHeld.of_lt (by unfold doubleDigits; omega)).shift 149
  have product : scaledUnits n .elevenTenths ≤ 2 * n * 2 ^ 149 := by
    rw [scaledUnits_of_lt (by unfold doubleDigits; omega), units_elevenTenths]
    exact toDouble_le held (by omega)
  have less : scaledUnits n .elevenTenths < toDouble rate * 2 ^ 149 := by omega
  unfold exceedsScaled
  rw [Nat.shiftLeft_eq, decide_eq_true less]
  rfl

/-- A factor of at most one does not lead up. -/
theorem scaleRate_le {n : Nat} {f : Single} (short : n < 2 ^ doubleDigits)
    (down : f.isNaN = true ∨ f.value ≤ (2 ^ 149 : Nat)) : scaleRate n f ≤ n := by
  unfold scaleRate
  split
  next => exact Nat.zero_le n
  next ordinary =>
    simp only [Bool.or_eq_true, not_or, Bool.not_eq_true] at ordinary
    have units : f.units ≤ 2 ^ 149 := by
      rcases down with number | down
      · exact absurd number (ne_true_of_eq_false ordinary.1)
      · rw [Single.value, if_neg (ne_true_of_eq_false ordinary.2)] at down
        exact Int.ofNat_le.mp down
    have product : scaledUnits n f ≤ n * 2 ^ 149 := by
      rw [scaledUnits_of_lt short]
      exact toDouble_le ((IsHeld.of_lt short).shift 149) (Nat.mul_le_mul_left n units)
    rw [Nat.shiftRight_eq_div_pow]
    exact Nat.div_le_of_le_mul (Nat.mul_comm n _ ▸ product)

/-- A factor kept to where a way down makes sense does not lead up. -/
theorem Single.clamp_tenth_one (x : Single) :
    (x.clamp .tenth .one).isNaN = true ∨ (x.clamp .tenth .one).value ≤ (2 ^ 149 : Nat) := by
  cases number : x.isNaN with
  | true =>
      rw [clamp_of_isNaN x _ _ number]
      exact .inl number
  | false =>
      obtain ⟨-, value⟩ := @value_clamp x .tenth .one number ⟨rfl, rfl⟩ (by decide)
      rw [value]
      exact .inr (Int.max_le.mpr ⟨by decide, Int.le_trans (Int.min_le_right _ _) (by decide)⟩)

/-- Nothing else tells the two zeros apart. -/
theorem Single.lt_of_value {x y : Single} (zero : y.value = 0) : x.lt y = x.lt .zero := by
  rw [lt, lt, not_isNaN_of_value zero, zero]
  rfl

/-! ## The controller -/

namespace RateController

/-- A report that tells of no loss, of no packet asked for again, and of twice the bandwidth that
the cap allows. -/
structure ShowsHeadroom (c : RateController) (s : TransportStat) : Prop where
  lossFree : s.lossRate.value = 0
  nackFree : s.nack = 0
  wide : 2 * c.cap ≤ s.bandwidth.toNat

/-- The controller after a list of reports. -/
def afterReports (c : RateController) (reports : List TransportStat) : RateController :=
  c.afterEvents scaled (reports.map .report)

/-- Each report raises the bitrate as long as it is below the cap; once it is there, reports are
answered by nothing. -/
def Climbs (c : RateController) : List TransportStat → Prop
  | [] => True
  | s :: reports =>
    (if c.bitrate < c.cap then c.bitrate < (c.networkChanged s).2.bitrate
      else c.bitrate = c.cap ∧ (c.networkChanged s).1 = none) ∧
    Climbs (c.networkChanged s).2 reports

variable {c : RateController} {s : TransportStat} {reports : List TransportStat}

private theorem networkChanged_snd (automatic : c.manual = false) (s : TransportStat) :
    (c.networkChanged s).2 = { c with bitrate := c.bounded s (c.scaled s) } := by
  have bitrate := @bitrate_of_report scaled c automatic s
  rw [answer_scaled_report] at bitrate
  rw [← bitrate]
  unfold networkChanged
  rw [if_neg (ne_true_of_eq_false automatic)]
  rfl

/-- A report that suggests the bitrate in force is not answered. -/
theorem networkChanged_of_kept (automatic : c.manual = false)
    (kept : c.bounded s (c.scaled s) = c.bitrate) : c.networkChanged s = (none, c) := by
  unfold networkChanged
  rw [if_neg (ne_true_of_eq_false automatic), kept]
  exact setRates_of_old (if_neg (ne_true_of_eq_false (bne_self_eq_false _))) rfl

/-- Events move the rates and the mode only. -/
theorem exists_afterEvents_eq (scale : RateController → TransportStat → Nat) (c : RateController)
    (events : List RateEvent) :
    ∃ manual bitrate fps, c.afterEvents scale events = { c with manual, bitrate, fps } := by
  induction events generalizing c with
  | nil => exact ⟨c.manual, c.bitrate, c.fps, rfl⟩
  | cons e events ih =>
      obtain ⟨manual, bitrate, fps, later⟩ := ih (c.answer scale e).2
      refine ⟨manual, bitrate, fps, later.trans ?_⟩
      rcases c.answer_cases scale e with ignored | ⟨manual, p, requested⟩
      · rw [ignored]
      · rw [requested, requestRates_snd]

/-- A controller in automatic mode that probes by a tenth, below a cap that double precision has
room for. -/
structure Probes (c : RateController) : Prop where
  within : c.InBounds
  automatic : c.manual = false
  up : c.probeRatio = .elevenTenths
  down : c.backoffRatio.isNaN = true ∨ c.backoffRatio.value ≤ (2 ^ 149 : Nat)
  small : c.cap < 2 ^ 52

/-- A report leaves automatic mode and the probe as they are. -/
theorem Probes.report (probes : c.Probes) (s : TransportStat) : (c.networkChanged s).2.Probes := by
  have within := @InBounds.answer scaled c probes.within (.report s)
  rw [answer_scaled_report] at within
  rw [networkChanged_snd probes.automatic] at within ⊢
  exact { probes with within }

/-- What shows headroom to a probing controller still does after a report. -/
theorem ShowsHeadroom.report (probes : c.Probes) (headroom : c.ShowsHeadroom s)
    (before : TransportStat) : (c.networkChanged before).2.ShowsHeadroom s := by
  rw [networkChanged_snd probes.automatic]
  exact ⟨headroom.lossFree, headroom.nackFree, headroom.wide⟩

/-- Only a controller that counts everything as loss counts such a report as a lossy one. -/
theorem ShowsHeadroom.isCongested (headroom : c.ShowsHeadroom s) :
    c.isCongested s = c.backoffLoss.lt .zero := by
  unfold RateController.isCongested
  rw [Single.lt_of_value headroom.lossFree, headroom.nackFree]
  exact Bool.or_false _

/-- The clamp as a minimum and a maximum. -/
theorem clampRate_eq (n low high : Nat) : clampRate n low high = Min.min (Max.max n low) high := rfl

/-- So wide an estimate bounds nothing that the cap does not. -/
theorem bounded_of_wide (within : c.InBounds) (wide : 2 * c.cap ≤ s.bandwidth.toNat)
    (bitrate : Nat) : c.bounded s bitrate = clampRate bitrate c.min c.cap := by
  have ordered : c.min ≤ c.cap := Nat.le_trans within.min_le within.le_cap
  unfold bounded
  split
  next => rfl
  next =>
    have estimate : Nat.min bitrate s.bandwidth.toNat = Min.min bitrate s.bandwidth.toNat := rfl
    rw [clampRate_eq, clampRate_eq, estimate]
    omega

private theorem clampRate_of_within (within : c.InBounds) :
    clampRate c.bitrate c.min c.cap = c.bitrate := by
  obtain ⟨least, most, -, -⟩ := within
  rw [clampRate_eq]
  omega

section Calm

variable (probes : c.Probes) (headroom : c.ShowsHeadroom s) (calm : c.backoffLoss.lt .zero = false)
include probes headroom calm

private theorem scaled_of_below (below : c.bitrate < c.cap) :
    c.scaled s = scaleRate c.bitrate .elevenTenths := by
  unfold scaled
  rw [headroom.isCongested, calm, probes.up, if_neg Bool.false_ne_true,
    exceedsScaled_probe headroom.wide below probes.small, if_pos rfl]

/-- Below the cap, from ten bits a second on, a report with headroom raises the bitrate. -/
theorem climbs_below (below : c.bitrate < c.cap) (ten : 10 ≤ c.bitrate) :
    c.bitrate < (c.networkChanged s).2.bitrate := by
  have probed := lt_scaleRate_probe ten (Nat.lt_trans below probes.small)
  rw [networkChanged_snd probes.automatic]
  change c.bitrate < c.bounded s (c.scaled s)
  rw [bounded_of_wide probes.within headroom.wide, scaled_of_below probes headroom calm below,
    clampRate_eq]
  omega

/-- Below ten bits a second the tenth that is gained is cut off, and nothing changes. -/
theorem stuck_below_ten (below : c.bitrate < c.cap) (few : c.bitrate < 10) :
    c.networkChanged s = (none, c) := by
  apply networkChanged_of_kept probes.automatic
  rw [bounded_of_wide probes.within headroom.wide, scaled_of_below probes headroom calm below,
    scaleRate_probe_of_lt_ten few, clampRate_of_within probes.within]

/-- At the cap nothing is left to gain. -/
theorem stays_at_cap (full : c.bitrate = c.cap) : c.networkChanged s = (none, c) := by
  have small : c.bitrate < 2 ^ 52 := full ▸ probes.small
  have enough : c.cap ≤ c.scaled s := by
    unfold scaled
    rw [headroom.isCongested, calm, probes.up, if_neg Bool.false_ne_true, ← full]
    split
    next => exact le_scaleRate_probe small
    next => exact le_toDouble (.of_lt (by unfold doubleDigits; omega)) (Nat.le_refl _)
  apply networkChanged_of_kept probes.automatic
  rw [bounded_of_wide probes.within headroom.wide, full, clampRate_eq]
  omega

end Calm

/-- Where every report counts as a lossy one, none raises the bitrate. -/
theorem falls_if_impatient (probes : c.Probes) (headroom : c.ShowsHeadroom s)
    (impatient : c.backoffLoss.lt .zero = true) :
    (c.networkChanged s).2.bitrate ≤ c.bitrate := by
  obtain ⟨least, most, -, -⟩ := probes.within
  have small := probes.small
  have lowered : c.scaled s ≤ c.bitrate := by
    unfold scaled
    rw [headroom.isCongested, impatient, if_pos rfl]
    exact scaleRate_le (by unfold doubleDigits; omega) probes.down
  rw [networkChanged_snd probes.automatic]
  change c.bounded s (c.scaled s) ≤ c.bitrate
  rw [bounded_of_wide probes.within headroom.wide, clampRate_eq]
  omega

/-! ## Runs of reports -/

private theorem afterReports_cons (c : RateController) (s : TransportStat)
    (reports : List TransportStat) :
    c.afterReports (s :: reports) = (c.networkChanged s).2.afterReports reports := rfl

/-- Calm reports with headroom take the bitrate up to the cap. -/
theorem climbs_of_calm (probes : c.Probes) (calm : c.backoffLoss.lt .zero = false)
    (headroom : ∀ s ∈ reports, c.ShowsHeadroom s) (enough : 10 ≤ c.bitrate ∨ c.bitrate = c.cap) :
    c.Climbs reports ∧
      (c.cap - c.bitrate ≤ reports.length → (c.afterReports reports).bitrate = c.cap) := by
  induction reports generalizing c with
  | nil =>
      have most := probes.within.le_cap
      exact ⟨trivial, fun missing => Nat.le_antisymm most (Nat.sub_eq_zero_iff_le.mp
        (Nat.le_zero.mp missing))⟩
  | cons s reports ih =>
      obtain ⟨shows, later⟩ := List.forall_mem_cons.mp headroom
      rw [Climbs, afterReports_cons, List.length_cons]
      by_cases full : c.bitrate = c.cap
      · obtain ⟨climbs, arrives⟩ := ih probes calm later enough
        rw [stays_at_cap probes shows calm full, if_neg (Nat.not_lt.mpr (Nat.le_of_eq full.symm))]
        exact ⟨⟨⟨full, rfl⟩, climbs⟩, fun _ => arrives (by omega)⟩
      · have below : c.bitrate < c.cap := Nat.lt_of_le_of_ne probes.within.le_cap full
        have ten : 10 ≤ c.bitrate := enough.resolve_right full
        have rises := climbs_below probes shows calm below ten
        have settings := networkChanged_snd probes.automatic s
        have cap : (c.networkChanged s).2.cap = c.cap := by rw [settings]
        have calm' : (c.networkChanged s).2.backoffLoss.lt .zero = false := by
          rw [settings]
          exact calm
        -- The report gains one bit at least, so one report fewer is needed for the rest.
        obtain ⟨climbs, arrives⟩ := ih (probes.report s) calm'
          (fun s' mem => (later s' mem).report probes s) (.inl (by omega))
        rw [cap] at arrives
        rw [if_pos below]
        exact ⟨⟨rises, climbs⟩, fun long => arrives (by omega)⟩

/-- Below ten bits a second calm reports change nothing, however many they are. -/
theorem stuck_of_calm (probes : c.Probes) (calm : c.backoffLoss.lt .zero = false)
    (headroom : ∀ s ∈ reports, c.ShowsHeadroom s) (few : c.bitrate < 10)
    (below : c.bitrate < c.cap) :
    c.afterReports reports = c ∧ c.patches scaled (reports.map .report) = [] := by
  induction reports with
  | nil => exact ⟨rfl, rfl⟩
  | cons s reports ih =>
      obtain ⟨shows, later⟩ := List.forall_mem_cons.mp headroom
      have stuck := stuck_below_ten probes shows calm below few
      rw [afterReports_cons, List.map_cons, patches, answer_scaled_report, stuck]
      exact ih later

/-- With a negative threshold every report counts as loss, and the bitrate never rises. -/
theorem falls_of_impatient (probes : c.Probes) (impatient : c.backoffLoss.lt .zero = true)
    (headroom : ∀ s ∈ reports, c.ShowsHeadroom s) :
    (c.afterReports reports).bitrate ≤ c.bitrate := by
  induction reports generalizing c with
  | nil => exact Nat.le_refl _
  | cons s reports ih =>
      obtain ⟨shows, later⟩ := List.forall_mem_cons.mp headroom
      have impatient' : (c.networkChanged s).2.backoffLoss.lt .zero = true := by
        rw [networkChanged_snd probes.automatic s]
        exact impatient
      exact Nat.le_trans (ih (probes.report s) impatient'
        fun s' mem => (later s' mem).report probes s) (falls_if_impatient probes shows impatient)

/-- What a tuning with the default probe makes of a controller, whatever that has been through. -/
theorem probes_afterEvents {initial cap maxFps : Nat} {tuning : HostTuning}
    (tenth : tuning.probeRatio = .elevenTenths) (small : cap < 2 ^ 52) {events : List RateEvent}
    (automatic : ((new initial cap maxFps tuning).afterEvents scaled events).manual = false) :
    ((new initial cap maxFps tuning).afterEvents scaled events).Probes := by
  have within : ((new initial cap maxFps tuning).afterEvents scaled events).InBounds :=
    (inBounds_new initial cap maxFps tuning).afterEvents events
  obtain ⟨manual, bitrate, fps, reached⟩ :=
    exists_afterEvents_eq scaled (new initial cap maxFps tuning) events
  rw [reached] at within automatic ⊢
  exact {
    within
    automatic
    up := congrArg (Single.max · .one) tenth
    down := tuning.backoffRatio.clamp_tenth_one
    small := Nat.max_lt.mpr ⟨small, by omega⟩ }

/-- **Headroom recovers the bitrate, as long as ten bits a second are left of it.** Reports of
headroom raise the bitrate of a controller in automatic mode one after the other until it is at the
cap, which takes no more of them than there are bits missing, and are not answered from then on. A
bitrate that has fallen below ten under a cap above it is stuck: such reports are never answered.
And where even a report without loss counts as a lossy one, none of them raises the bitrate. -/
theorem headroom_recovers {c : RateController} {initial cap maxFps : Nat} {tuning : HostTuning}
    {events : List RateEvent} {reports : List TransportStat}
    (reached : c = (new initial cap maxFps tuning).afterEvents scaled events)
    (tenth : tuning.probeRatio = .elevenTenths) (small : cap < 2 ^ 52)
    (automatic : c.manual = false) (headroom : ∀ s ∈ reports, c.ShowsHeadroom s) :
    (tuning.backoffLoss.lt .zero = false →
      (10 ≤ c.bitrate ∨ c.bitrate = c.cap → c.Climbs reports ∧
        (c.cap - c.bitrate ≤ reports.length → (c.afterReports reports).bitrate = c.cap)) ∧
      (c.bitrate < 10 → c.bitrate < c.cap →
        c.afterReports reports = c ∧ c.patches scaled (reports.map .report) = [])) ∧
    (tuning.backoffLoss.lt .zero = true → (c.afterReports reports).bitrate ≤ c.bitrate) := by
  have probes : c.Probes := reached ▸ probes_afterEvents tenth small (reached ▸ automatic)
  have threshold : c.backoffLoss = tuning.backoffLoss := by
    obtain ⟨manual, bitrate, fps, told⟩ :=
      exists_afterEvents_eq scaled (new initial cap maxFps tuning) events
    rw [reached, told]
    rfl
  rw [← threshold]
  exact ⟨fun calm => ⟨climbs_of_calm probes calm headroom, stuck_of_calm probes calm headroom⟩,
    fun impatient => falls_of_impatient probes impatient headroom⟩

/-- A report without loss, and more bandwidth than small caps allow. -/
def spare : TransportStat := ⟨0, 100, .zero⟩

/-- A report of half of the packets lost. -/
def lossy : TransportStat := ⟨0, 100, .half⟩

/-- A controller at a cap of twelve and a minimum of ten, after one lossy report. -/
def atTen : RateController :=
  (new 12 12 30 { minBitrate := 10 }).afterEvents scaled [.report lossy]

/-- From ten bits a second two reports lead to twelve. -/
theorem atTen_recovers :
    (atTen.manual = false ∧ ∀ s ∈ [spare, spare], atTen.ShowsHeadroom s) ∧
      atTen.bitrate = 10 ∧ atTen.Climbs [spare, spare] ∧
      (atTen.afterReports [spare, spare]).bitrate = 12 := by
  have headroom : ∀ s ∈ [spare, spare], atTen.ShowsHeadroom s := by
    intro s mem
    obtain rfl : s = spare := by
      simpa only [List.mem_cons, List.not_mem_nil, or_false, or_self] using mem
    exact ⟨by decide, by decide, by decide⟩
  have automatic : atTen.manual = false := by decide
  have ten : atTen.bitrate = 10 := by decide
  obtain ⟨climbs, arrives⟩ :=
    ((headroom_recovers rfl rfl (by decide) automatic headroom).1 (by decide)).1
      (.inl (Nat.le_of_eq ten.symm))
  exact ⟨⟨automatic, headroom⟩, ten, climbs, arrives (by decide)⟩

/-- The same under a cap of ten and a minimum of nine. -/
def atNine : RateController :=
  (new 10 10 30 { minBitrate := 9 }).afterEvents scaled [.report lossy]

/-- What one lossy report took of the bitrate is lost for good. -/
theorem not_always_recovered :
    ¬∀ (initial cap maxFps : Nat) (tuning : HostTuning) (events : List RateEvent)
      (reports : List TransportStat),
      let c := (new initial cap maxFps tuning).afterEvents scaled events
      tuning.probeRatio = .elevenTenths → cap < 2 ^ 52 → c.manual = false →
        (∀ s ∈ reports, c.ShowsHeadroom s) → c.Climbs reports := by
  intro always
  have headroom : ∀ s ∈ [spare], atNine.ShowsHeadroom s := by
    intro s mem
    obtain rfl := List.mem_singleton.mp mem
    exact ⟨by decide, by decide, by decide⟩
  obtain ⟨rises, -⟩ := always 10 10 30 { minBitrate := 9 } [.report lossy] [spare] rfl (by decide)
    (by decide) headroom
  rw [if_pos (by decide)] at rises
  exact absurd rises (by decide)

end RateController

end Screencast
