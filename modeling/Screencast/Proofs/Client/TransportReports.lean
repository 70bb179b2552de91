import Mathlib.Algebra.GroupWithZero.Nat
import Screencast.Client.Telemetry
import Screencast.Proofs.History
import Screencast.Proofs.Number.Single

/-! # What the reports say

Figures of the transport are set one by one and reported together. Told by the calls that set and
report them, a report is due exactly if a figure that it carries was set since the last one; it
carries the figures set last, and the packets repeated since the last one. So reports and what is
still to be reported account for every repeated packet, as long as no count overflows
(`Screencast.Telemetry.every_nack_is_reported`).
-/

namespace Screencast

open Wire

/-- Something that is done with the figures of the transport. -/
inductive TelemetryCall
  | setTimeDiff (us : Int)
  | setRtt (ms : Nat)
  | setBandwidth (bps : UInt64)
  | addNacks (count : UInt32)
  | setLossRate (rate : Single)
  | suggestBitrate (cap : Nat)
  | takeReport
deriving DecidableEq, Repr

/-- What a call answers: nothing, a suggested bandwidth, or a report that may be missing. -/
inductive TelemetryAnswer
  | done
  | suggested (bps : Option Nat)
  | reported (stat : Option TransportStat)
deriving DecidableEq, Repr

/-- A call and what it was answered. -/
structure TelemetryRecord where
  call : TelemetryCall
  answer : TelemetryAnswer
deriving DecidableEq, Repr

namespace TelemetryRecord

/-- The report that was taken. -/
def report? (r : TelemetryRecord) : Option TransportStat :=
  match r.answer with
  | .reported stat => stat
  | _ => none

/-- Whether a report came of the call. -/
def isReport (r : TelemetryRecord) : Bool := r.report?.isSome

/-- A figure was set that reports carry. -/
def isNews (r : TelemetryRecord) : Bool :=
  match r.call with
  | .setBandwidth _ | .addNacks _ | .setLossRate _ => true
  | _ => false

/-- The bandwidth the call set. -/
def bandwidth? (r : TelemetryRecord) : Option UInt64 :=
  match r.call with
  | .setBandwidth bps => some bps
  | _ => none

/-- The loss rate the call set. -/
def lossRate? (r : TelemetryRecord) : Option Single :=
  match r.call with
  | .setLossRate rate => some rate
  | _ => none

/-- The number of repeated packets that a call adds. -/
def added (r : TelemetryRecord) : Nat :=
  match r.call with
  | .addNacks count => count.toNat
  | _ => 0

/-- The number of repeated packets that some calls add. -/
def nacks (log : List TelemetryRecord) : Nat := (log.map added).sum

/-- The reports, in order. -/
def reports (log : List TelemetryRecord) : List TransportStat := log.filterMap report?

/-- The number of repeated packets that the reports tell of. -/
def reportedNacks (log : List TelemetryRecord) : Nat := ((reports log).map (·.nack.toNat)).sum

/-- The bandwidth set last. -/
def bandwidthAfter (log : List TelemetryRecord) : UInt64 :=
  (History.latest? bandwidth? log).getD 0

/-- The loss rate set last, kept between zero and one. -/
def lossRateAfter (log : List TelemetryRecord) : Single :=
  ((History.latest? lossRate? log).map (·.clamp .zero .one)).getD .zero

/-- The counts before the first report, between two and after the last are counts of 32 bits. -/
def CountsFit (log : List TelemetryRecord) : Prop :=
  ∀ part ∈ log.splitOnP isReport, nacks part ≤ 2 ^ 32 - 1

instance (log : List TelemetryRecord) : Decidable (CountsFit log) :=
  inferInstanceAs (Decidable (∀ part ∈ log.splitOnP isReport, nacks part ≤ 2 ^ 32 - 1))

variable {log : List TelemetryRecord} {r : TelemetryRecord}

private theorem nacks_concat (log : List TelemetryRecord) (r : TelemetryRecord) :
    nacks (log ++ [r]) = nacks log + r.added := by
  unfold nacks
  rw [List.map_append, List.sum_append, List.map_singleton, List.sum_singleton]

private theorem reportedNacks_concat (log : List TelemetryRecord) (r : TelemetryRecord) :
    reportedNacks (log ++ [r]) = reportedNacks log + r.report?.elim 0 (·.nack.toNat) := by
  unfold reportedNacks reports
  rw [History.filterMap_concat, List.map_append, List.sum_append]
  cases r.report? with
  | none => rfl
  | some stat => exact congrArg _ List.sum_singleton

private theorem bandwidthAfter_concat (log : List TelemetryRecord) (r : TelemetryRecord) :
    bandwidthAfter (log ++ [r]) = r.bandwidth?.getD (bandwidthAfter log) := by
  rw [bandwidthAfter, History.latest?_concat]
  cases r.bandwidth? <;> rfl

private theorem lossRateAfter_concat (log : List TelemetryRecord) (r : TelemetryRecord) :
    lossRateAfter (log ++ [r]) =
      (r.lossRate?.map (·.clamp .zero .one)).getD (lossRateAfter log) := by
  rw [lossRateAfter, History.latest?_concat]
  cases r.lossRate? <;> rfl

private theorem CountsFit.nacks_since (fit : CountsFit log) :
    nacks (History.since isReport log) ≤ 2 ^ 32 - 1 := by
  obtain ⟨parts, divided⟩ := History.exists_splitOnP_eq isReport log
  have whole := divided [] fun _ among => absurd among List.not_mem_nil
  rw [List.append_nil, List.append_nil] at whole
  exact fit _ (whole ▸ List.mem_append_right parts (List.mem_singleton_self _))

/-- What fits now did fit before. -/
theorem CountsFit.of_concat (fit : CountsFit (log ++ [r])) : CountsFit log := by
  intro part among
  cases reported : r.isReport with
  | true =>
      apply fit
      rw [List.splitOnP_append_cons log [] reported]
      exact List.mem_append_left _ among
  | false =>
      obtain ⟨parts, divided⟩ := History.exists_splitOnP_eq isReport log
      have before := divided [] fun _ among => absurd among List.not_mem_nil
      have after := divided [r] (List.forall_mem_singleton.mpr reported)
      rw [List.append_nil, List.append_nil] at before
      rw [before] at among
      rcases List.mem_append.mp among with earlier | last
      · exact fit part (after ▸ List.mem_append_left _ earlier)
      · have longer := fit _ (after ▸ List.mem_append_right parts (List.mem_singleton_self _))
        rw [nacks_concat] at longer
        rw [List.mem_singleton.mp last]
        omega

end TelemetryRecord

namespace Telemetry

open TelemetryRecord

/-- The answer to a call, and the figures afterwards. -/
def perform (t : Telemetry) : TelemetryCall → TelemetryAnswer × Telemetry
  | .setTimeDiff us => (.done, t.setTimeDiff us)
  | .setRtt ms => (.done, t.setRtt ms)
  | .setBandwidth bps => (.done, t.setBandwidth bps)
  | .addNacks count => (.done, t.addNacks count)
  | .setLossRate rate => (.done, t.setLossRate rate)
  | .suggestBitrate cap => (.suggested (t.suggestedBitrate cap), t)
  | .takeReport => (.reported t.takeReport.1, t.takeReport.2)

/-- Calls with their answers, in order. -/
def log (t : Telemetry) : List TelemetryCall → List TelemetryRecord
  | [] => []
  | c :: calls => ⟨c, (t.perform c).1⟩ :: (t.perform c).2.log calls

/-- The figures after some calls. -/
def performAll (t : Telemetry) (calls : List TelemetryCall) : Telemetry :=
  calls.foldl (fun t c => (t.perform c).2) t

variable {t t' : Telemetry} {past : List TelemetryRecord}

/-- What the figures have kept of the past. -/
structure Recalls (past : List TelemetryRecord) (t : Telemetry) : Prop where
  dirty : t.dirty = (History.since isReport past).any isNews
  nack : t.nack.toNat = min (nacks (History.since isReport past)) (2 ^ 32 - 1)
  bandwidth : t.bandwidth = bandwidthAfter past
  lossRate : t.lossRate = lossRateAfter past
  balanced : CountsFit past → reportedNacks past + t.nack.toNat = nacks past

/-- A fresh record recalls an empty history. -/
theorem recalls_empty : Recalls [] {} where
  dirty := rfl
  nack := rfl
  bandwidth := rfl
  lossRate := rfl
  balanced := fun _ => rfl

/-- A call that takes no report may set a figure. -/
theorem Recalls.note (recalls : Recalls past t) {r : TelemetryRecord}
    (unreported : r.report? = none) (dirty : t'.dirty = (t.dirty || r.isNews))
    (nack : t'.nack.toNat = min (t.nack.toNat + r.added) (2 ^ 32 - 1))
    (bandwidth : t'.bandwidth = r.bandwidth?.getD t.bandwidth)
    (lossRate : t'.lossRate = (r.lossRate?.map (·.clamp .zero .one)).getD t.lossRate) :
    Recalls (past ++ [r]) t' := by
  have unmarked : r.isReport = false := by rw [isReport, unreported]; rfl
  have longer := History.since_concat_of_unmarked past unmarked
  constructor
  · rw [longer, List.any_append, dirty, recalls.dirty, List.any_cons, List.any_nil, Bool.or_false]
  · rw [longer, nacks_concat, nack, recalls.nack]
    omega
  · rw [bandwidthAfter_concat, bandwidth, recalls.bandwidth]
  · rw [lossRateAfter_concat, lossRate, recalls.lossRate]
  · intro fit
    have before := recalls.balanced fit.of_concat
    have room := fit.nacks_since
    have count := recalls.nack
    rw [longer, nacks_concat] at room
    rw [reportedNacks_concat, unreported, nacks_concat, nack, Option.elim_none]
    omega

/-- Taking a report starts the count over. -/
theorem Recalls.report (recalls : Recalls past t) {r : TelemetryRecord} {stat : TransportStat}
    (reported : r.report? = some stat) (count : stat.nack = t.nack) (quiet : r.call = .takeReport) :
    Recalls (past ++ [r]) { t with nack := 0, dirty := false } := by
  have marked : r.isReport = true := by rw [isReport, reported]; rfl
  have nothing := History.since_concat_of_marked past marked
  have named : r.bandwidth? = none ∧ r.lossRate? = none ∧ r.added = 0 := by
    unfold bandwidth? lossRate? added
    rw [quiet]
    exact ⟨rfl, rfl, rfl⟩
  constructor
  · rw [nothing]
    rfl
  · rw [nothing]
    rfl
  · rw [bandwidthAfter_concat, named.1]
    exact recalls.bandwidth
  · rw [lossRateAfter_concat, named.2.1]
    exact recalls.lossRate
  · intro fit
    have before := recalls.balanced fit.of_concat
    rw [reportedNacks_concat, reported, nacks_concat, named.2.2, Option.elim_some, count, ← before]
    rfl

/-- With something to tell, the report carries the values held, and the count starts again. -/
theorem takeReport_of_dirty (dirty : t.dirty = true) :
    t.takeReport = (some ⟨t.nack, t.bandwidth, t.lossRate⟩, { t with nack := 0, dirty := false }) :=
  if_pos dirty

/-- With nothing new to tell there is no report, and nothing changes. -/
theorem takeReport_of_clean (clean : t.dirty = false) : t.takeReport = (none, t) :=
  if_neg (Bool.eq_false_iff.mp clean)

/-- One call keeps the values in step with the history. -/
theorem Recalls.perform (recalls : Recalls past t) (c : TelemetryCall) :
    Recalls (past ++ [⟨c, (t.perform c).1⟩]) (t.perform c).2 := by
  have clean : t.dirty = (t.dirty || false) := (Bool.or_false _).symm
  have news : true = (t.dirty || true) := (Bool.or_true _).symm
  have same : t.nack.toNat = min (t.nack.toNat + 0) (2 ^ 32 - 1) := by
    have bound := t.nack.toNat_lt
    omega
  cases c with
  | setTimeDiff | setRtt | suggestBitrate => exact recalls.note rfl clean same rfl rfl
  | setBandwidth bps => exact recalls.note rfl news same rfl rfl
  | addNacks count =>
      have fits : min (t.nack.toNat + count.toNat) (2 ^ 32 - 1) < UInt32.size :=
        Nat.lt_of_le_of_lt (Nat.min_le_right _ _) (by decide)
      exact recalls.note rfl news (UInt32.toNat_ofNat_of_lt' fits) rfl rfl
  | setLossRate rate => exact recalls.note rfl news same rfl rfl
  | takeReport =>
      cases dirty : t.dirty with
      | true =>
          simp only [Telemetry.perform, takeReport_of_dirty dirty]
          exact recalls.report rfl rfl rfl
      | false =>
          rw [dirty] at clean
          simp only [Telemetry.perform, takeReport_of_clean dirty]
          exact recalls.note rfl (dirty ▸ clean) same rfl rfl

/-- The values stay in step over every list of calls. -/
theorem Recalls.performAll (recalls : Recalls past t) (calls : List TelemetryCall) :
    Recalls (past ++ t.log calls) (t.performAll calls) := by
  induction calls generalizing t past with
  | nil =>
      rw [log, List.append_nil]
      exact recalls
  | cons c calls ih =>
      have later := ih (recalls.perform c)
      rw [List.append_assoc] at later
      exact later

/-- A report is taken exactly if a figure was set since the last one. -/
theorem Recalls.isSome_takeReport (recalls : Recalls past t) :
    t.takeReport.1.isSome = (History.since isReport past).any isNews := by
  rw [← recalls.dirty]
  cases dirty : t.dirty with
  | true => rw [takeReport_of_dirty dirty]; rfl
  | false => rw [takeReport_of_clean dirty]; rfl

/-- A report carries the figures as they are. -/
theorem stat_of_takeReport {stat : TransportStat} (taken : t.takeReport.1 = some stat) :
    stat = ⟨t.nack, t.bandwidth, t.lossRate⟩ := by
  cases dirty : t.dirty with
  | true =>
      rw [takeReport_of_dirty dirty] at taken
      exact (Option.some.inj taken).symm
  | false =>
      rw [takeReport_of_clean dirty] at taken
      cases taken

private theorem takeReport_snd_of_none (unreported : t.takeReport.1 = none) :
    t.takeReport.2 = t := by
  cases dirty : t.dirty with
  | true =>
      rw [takeReport_of_dirty dirty] at unreported
      cases unreported
  | false => rw [takeReport_of_clean dirty]

/-- **Every repeated packet is reported.** After any calls, the reports taken and the count that is
still to be reported tell of all packets that were counted, as long as the counts before the first
report, between two and after the last are counts of 32 bits. A report is due exactly if a
bandwidth, a count or a loss rate was set since the last one. It carries the bandwidth and the loss
rate set last, the latter kept between zero and one if it is a number, and the packets counted since
the last report. To ask for a bitrate changes nothing, nor does it to ask for a report that is not
due. -/
theorem every_nack_is_reported (calls : List TelemetryCall) :
    let past := ({} : Telemetry).log calls
    let t := ({} : Telemetry).performAll calls
    (CountsFit past → reportedNacks past + t.nack.toNat = nacks past) ∧
    t.takeReport.1.isSome = (History.since isReport past).any isNews ∧
    (∀ stat, t.takeReport.1 = some stat →
      stat.bandwidth = bandwidthAfter past ∧ stat.lossRate = lossRateAfter past ∧
      stat.nack.toNat = min (nacks (History.since isReport past)) (2 ^ 32 - 1)) ∧
    (∀ rate : Single, rate.isNaN = false →
      (rate.clamp .zero .one).isNaN = false ∧
      (rate.clamp .zero .one).value = max 0 (min rate.value Single.one.value)) ∧
    (∀ cap, (t.perform (.suggestBitrate cap)).2 = t) ∧
    (t.takeReport.1 = none → t.takeReport.2 = t) := by
  intro past t
  have recalls : Recalls past t := recalls_empty.performAll calls
  refine ⟨recalls.balanced, recalls.isSome_takeReport, ?_, ?_, fun _ => rfl,
    takeReport_snd_of_none⟩
  · intro stat taken
    rw [stat_of_takeReport taken]
    exact ⟨recalls.bandwidth, recalls.lossRate, recalls.nack⟩
  · intro rate number
    exact Single.value_clamp number ⟨rfl, rfl⟩ (by decide)

/-- Two full counts, each in a report of its own, and a third one that is still to be reported. -/
def twiceFull : List TelemetryCall :=
  [.addNacks 4294967295, .takeReport, .takeReport, .addNacks 4294967294, .setRtt 20, .addNacks 1,
    .takeReport, .setLossRate .half, .addNacks 3]

/-- What was reported and what is still to be reported add up to all that was counted. -/
theorem twiceFull_is_reported :
    let past := ({} : Telemetry).log twiceFull
    let t := ({} : Telemetry).performAll twiceFull
    CountsFit past ∧ reportedNacks past + t.nack.toNat = 2 * (2 ^ 32 - 1) + 3 := by
  intro past t
  have fit : CountsFit past := by decide
  obtain ⟨balanced, -⟩ := every_nack_is_reported twiceFull
  exact ⟨fit, (balanced fit).trans rfl⟩

end Telemetry

end Screencast
