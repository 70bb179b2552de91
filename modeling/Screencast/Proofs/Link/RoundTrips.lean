import Screencast.Proofs.Link.Accounts

/-! # The average round trip

Of all the round trips recorded since its last reset a link keeps one number, a moving average in
whole microseconds; zero stands for a link that has not been measured. Both shares of the average
are cut off at every step, but the losses do not add up: the average never exceeds the longest round
trip and falls short of the shortest one by less than eight microseconds
(`Screencast.LinkMeter.average_near`). What a link tells of its round trip is therefore in the
observed range, and no measured link is taken for another
(`Screencast.LinkMeter.rtt_near_observed`).
-/

namespace Screencast

/-- Something that happens to a link whose round trips are watched. -/
inductive TripEvent
  | link (e : LinkEvent)
  /-- A round trip of any length is recorded. -/
  | trip (rtt : UInt64)

namespace LinkMeter

/-- The average with one more round trip in it. -/
def smoothed (average rtt : UInt64) : UInt64 :=
  if average = 0 then rtt else average * 7 / 8 + rtt / 8

/-- The average of some round trips, in the order they were recorded. -/
def average (trips : List UInt64) : UInt64 := trips.foldl smoothed 0

/-- Seven times the average fits its 64 bits whenever another round trip goes into it. -/
def SevenfoldFits (trips : List UInt64) : Prop :=
  ∀ n < trips.length, 7 * (average (trips.take n)).toNat < 2 ^ 64

instance (trips : List UInt64) : Decidable (SevenfoldFits trips) :=
  inferInstanceAs (Decidable (∀ n < trips.length, _))

/-- The longest of some round trips. -/
def longest (trips : List UInt64) : Nat := (trips.map UInt64.toNat).max?.getD 0

/-- The shortest of some round trips. -/
def shortest (trips : List UInt64) : Nat := (trips.map UInt64.toNat).min?.getD 0

/-- A link after a message was sent and before its round trip is recorded. -/
def sent (l : LinkMeter) (now bytes : Nat) : LinkMeter :=
  ((((l.drain now).sample now bytes).loseShare (packetsFor bytes)).enqueue bytes).boundLost

/-- The round trip that a message takes, in microseconds. -/
def tripOf (l : LinkMeter) (now bytes : Nat) : UInt64 :=
  UInt64.ofNat (((l.sent now bytes).baseRtt + (l.sent now bytes).queueDelay) / 1000)

/-- What an event makes of a link. -/
def observe (l : LinkMeter) : TripEvent → LinkMeter
  | .link e => l.perform e
  | .trip rtt => l.recordRtt rtt

/-- What an event makes of the round trips recorded since the last reset. -/
def noteTrip (l : LinkMeter) (trips : List UInt64) : TripEvent → List UInt64
  | .link (.transmit now bytes) => trips ++ [l.tripOf now bytes]
  | .link .reset => []
  | .link (.report _) | .link (.drift ..) => trips
  | .trip rtt => trips ++ [rtt]

/-- What some events make of a link. -/
def observeAll (l : LinkMeter) (events : List TripEvent) : LinkMeter := events.foldl observe l

/-- What some events make of the round trips recorded since the last reset. -/
def noteTrips : LinkMeter → List UInt64 → List TripEvent → List UInt64
  | _, trips, [] => trips
  | l, trips, e :: events => noteTrips (l.observe e) (l.noteTrip trips e) events

/-- The round trips that a new link has recorded since its last reset. -/
def tripsOf (p : LinkParams) (events : List TripEvent) : List UInt64 := noteTrips (new p) [] events

variable {l : LinkMeter} {p : LinkParams} {trips : List UInt64} {lo hi : Nat}

private theorem le_longest {rtt : UInt64} (among : rtt ∈ trips) : rtt.toNat ≤ longest trips :=
  List.le_max?_getD_of_mem (List.mem_map_of_mem among)

private theorem shortest_le {rtt : UInt64} (among : rtt ∈ trips) : shortest trips ≤ rtt.toNat :=
  List.min?_getD_le_of_mem (List.mem_map_of_mem among)

private theorem average_concat (trips : List UInt64) (rtt : UInt64) :
    average (trips ++ [rtt]) = smoothed (average trips) rtt := List.foldl_concat ..

/-- Where seven times the average fits, both shares are those of the numbers. -/
theorem toNat_smoothed {a : UInt64} (fits : 7 * a.toNat < 2 ^ 64) (measured : a ≠ 0)
    (rtt : UInt64) : (smoothed a rtt).toNat = a.toNat * 7 / 8 + rtt.toNat / 8 := by
  have product : (a * 7).toNat = a.toNat * 7 := by
    rw [UInt64.toNat_mul]
    exact Nat.mod_eq_of_lt (by rwa [Nat.mul_comm])
  have small : rtt.toNat < 2 ^ 64 := rtt.toNat_lt
  rw [smoothed, if_neg measured, UInt64.toNat_add, UInt64.toNat_div, UInt64.toNat_div, product]
  apply Nat.mod_eq_of_lt
  change a.toNat * 7 / 8 + rtt.toNat / 8 < 2 ^ 64
  omega

/-- What fits with one more trip fitted before it. -/
theorem SevenfoldFits.of_concat {rtt : UInt64} (fits : SevenfoldFits (trips ++ [rtt])) :
    SevenfoldFits trips ∧ 7 * (average trips).toNat < 2 ^ 64 := by
  have length : (trips ++ [rtt]).length = trips.length + 1 := List.length_append
  constructor
  · intro n inside
    have before := fits n (by omega)
    rwa [List.take_append_of_le_length (Nat.le_of_lt inside)] at before
  · have last := fits trips.length (by omega)
    rwa [List.take_left] at last

/-- An average eight microseconds or more below the shortest round trip could only come from one
that is as far below: at `lo - 7` an eighth of the average, rounded up, is no more than what an
eighth of any round trip brings back. -/
theorem smoothed_near {a rtt : UInt64} (fits : 7 * a.toNat < 2 ^ 64)
    (near : a ≠ 0 → lo ≤ a.toNat + 7 ∧ a.toNat ≤ hi) (within : lo ≤ rtt.toNat ∧ rtt.toNat ≤ hi) :
    lo ≤ (smoothed a rtt).toNat + 7 ∧ (smoothed a rtt).toNat ≤ hi := by
  by_cases measured : a = 0
  · rw [smoothed, if_pos measured]
    omega
  · rw [toNat_smoothed fits measured]
    have before := near measured
    omega

/-- The average of round trips stays near the range they were observed in. -/
theorem average_near (measured : trips ≠ []) (fits : SevenfoldFits trips)
    (within : ∀ rtt ∈ trips, lo ≤ rtt.toNat ∧ rtt.toNat ≤ hi) :
    lo ≤ (average trips).toNat + 7 ∧ (average trips).toNat ≤ hi := by
  induction trips using List.reverseRecOn with
  | nil => exact absurd rfl measured
  | append_singleton trips rtt ih =>
      obtain ⟨earlier, last⟩ := List.forall_mem_append.mp within
      obtain ⟨fits, sevenfold⟩ := fits.of_concat
      rw [average_concat]
      refine smoothed_near sevenfold (fun begun => ih ?_ fits earlier)
        (last rtt (List.mem_singleton_self rtt))
      rintro rfl
      exact begun rfl

private theorem transmit_eq (l : LinkMeter) (now bytes : Nat) :
    l.transmit now bytes = (l.sent now bytes).recordRtt (l.tripOf now bytes) := rfl

/-- A transmission leaves both round trip times alone. -/
theorem sent_keeps (l : LinkMeter) (now bytes : Nat) :
    (l.sent now bytes).averageRtt = l.averageRtt ∧ (l.sent now bytes).baseRtt = l.baseRtt := by
  obtain ⟨_, _, same⟩ :=
    exists_enqueue_eq (((l.drain now).sample now bytes).loseShare (packetsFor bytes)) bytes
  unfold sent
  rw [same]
  exact ⟨rfl, rfl⟩

/-- What a link keeps of the round trips since its last reset. -/
structure Watches (p : LinkParams) (trips : List UInt64) (l : LinkMeter) : Prop where
  baseRtt : l.baseRtt = p.baseRttMs * 1000000
  averageRtt : l.averageRtt = average trips

private theorem watches_new (p : LinkParams) : Watches p [] (new p) := ⟨rfl, rfl⟩

/-- One more trip keeps the average and the base in step. -/
theorem Watches.record (watches : Watches p trips l) (rtt : UInt64) :
    Watches p (trips ++ [rtt]) (l.recordRtt rtt) where
  baseRtt := watches.baseRtt
  averageRtt := by
    rw [average_concat, ← watches.averageRtt]
    rfl

/-- One event of the meter keeps average and base in step with the trips. -/
theorem Watches.observe (watches : Watches p trips l) (e : TripEvent) :
    Watches p (l.noteTrip trips e) (l.observe e) := by
  cases e with
  | trip rtt => exact watches.record rtt
  | link e =>
      cases e with
      | transmit now bytes =>
          obtain ⟨averageRtt, baseRtt⟩ := l.sent_keeps now bytes
          have sent : Watches p trips (l.sent now bytes) :=
            ⟨baseRtt.trans watches.baseRtt, averageRtt.trans watches.averageRtt⟩
          change Watches p (trips ++ [l.tripOf now bytes]) (l.transmit now bytes)
          rw [transmit_eq]
          exact sent.record (l.tripOf now bytes)
      | report now => exact ⟨watches.baseRtt, watches.averageRtt⟩
      | reset => exact ⟨watches.baseRtt, rfl⟩
      | drift backlog lossCredit => exact ⟨watches.baseRtt, watches.averageRtt⟩

/-- A run of events keeps average and base in step with the trips. -/
theorem Watches.observeAll (watches : Watches p trips l) (events : List TripEvent) :
    Watches p (noteTrips l trips events) (l.observeAll events) := by
  induction events generalizing l trips with
  | nil => exact watches
  | cons e events ih => exact ih (watches.observe e)

/-- A message takes no less than the shortest round trip possible, if that can be told at all. -/
theorem Watches.baseRtt_le_tripOf (watches : Watches p trips l) {now bytes : Nat}
    (told : (l.baseRtt + (l.sent now bytes).queueDelay) / 1000 < 2 ^ 64) :
    l.baseRtt ≤ (l.tripOf now bytes).toNat * 1000 := by
  rw [tripOf, (l.sent_keeps now bytes).2, UInt64.toNat_ofNat', Nat.mod_eq_of_lt told]
  have milliseconds := watches.baseRtt
  omega

/-- **What a link tells of its round trip lies in the observed range.** Whatever happened to a link,
if it has recorded round trips since its last reset, none of them shorter than the shortest one
possible, and seven times the average always fitted: the round trip it tells of is at most the
longest of them and less than the shortest by fourteen microseconds at most, and if all took eight
microseconds or more, it is the average that is told. That no round trip is shorter than the
shortest one possible holds of every message whose round trip can be told in 64 bits. -/
theorem rtt_near_observed (p : LinkParams) (events : List TripEvent)
    (observed : tripsOf p events ≠ [])
    (possible : ∀ rtt ∈ tripsOf p events,
      ((new p).observeAll events).baseRtt ≤ rtt.toNat * 1000)
    (fits : SevenfoldFits (tripsOf p events)) :
    let l := (new p).observeAll events
    l.rtt ≤ longest (tripsOf p events) * 1000 ∧
    shortest (tripsOf p events) * 1000 ≤ l.rtt + 14 * 1000 ∧
    ((∀ rtt ∈ tripsOf p events, 8 ≤ rtt.toNat) →
      l.averageRtt ≠ 0 ∧ l.rtt = l.averageRtt.toNat * 1000) ∧
    ∀ now bytes, (l.baseRtt + (l.sent now bytes).queueDelay) / 1000 < 2 ^ 64 →
      l.baseRtt ≤ (l.tripOf now bytes).toNat * 1000 := by
  intro l
  have watches : Watches p (tripsOf p events) l := (watches_new p).observeAll events
  obtain ⟨least, most⟩ : shortest (tripsOf p events) ≤ l.averageRtt.toNat + 7 ∧
      l.averageRtt.toNat ≤ longest (tripsOf p events) := by
    rw [watches.averageRtt]
    exact average_near observed fits fun rtt among => ⟨shortest_le among, le_longest among⟩
  refine ⟨?_, ?_, ?_, fun now bytes told => watches.baseRtt_le_tripOf told⟩
  · unfold rtt
    split
    next =>
      obtain ⟨rtt, among⟩ := List.exists_mem_of_ne_nil _ observed
      exact Nat.le_trans (possible rtt among) (Nat.mul_le_mul_right 1000 (le_longest among))
    next => exact Nat.mul_le_mul_right 1000 most
  · unfold rtt
    split
    next unmeasured =>
      -- An average of zero says that the shortest trip took seven microseconds at most.
      rw [unmeasured, UInt64.toNat_zero] at least
      omega
    next => omega
  · intro long
    have positive : 8 ≤ l.averageRtt.toNat + 7 := by
      rw [watches.averageRtt]
      exact (average_near observed fits fun rtt among => ⟨long rtt among, le_longest among⟩).1
    have measured : l.averageRtt ≠ 0 := by
      intro zero
      rw [zero, UInt64.toNat_zero] at positive
      omega
    exact ⟨measured, if_neg measured⟩

/-- A link without any delay of its own; what came before the reset is forgotten. -/
def shortTrips : List TripEvent :=
  [.trip 900000, .link .reset, .trip 15, .link (.drift 8e3 0.5), .trip 22, .trip 15,
    .link (.report 7), .trip 15, .trip 15, .trip 15, .trip 15, .trip 15, .trip 15, .trip 15]

/-- The average settles at eight microseconds, seven below the shortest trip. -/
theorem shortTrips_near_observed :
    tripsOf ⟨1000000, 0, .zero, 100⟩ shortTrips = [15, 22, 15, 15, 15, 15, 15, 15, 15, 15] ∧
      ((new ⟨1000000, 0, .zero, 100⟩).observeAll shortTrips).rtt = 8 * 1000 ∧
      ((new ⟨1000000, 0, .zero, 100⟩).observeAll shortTrips).rtt ≤ 22 * 1000 ∧
      15 * 1000 ≤ ((new ⟨1000000, 0, .zero, 100⟩).observeAll shortTrips).rtt + 14 * 1000 := by
  have trips : tripsOf ⟨1000000, 0, .zero, 100⟩ shortTrips =
      [15, 22, 15, 15, 15, 15, 15, 15, 15, 15] := rfl
  obtain ⟨most, least, told, -⟩ := rtt_near_observed ⟨1000000, 0, .zero, 100⟩ shortTrips
    (by rw [trips]; exact List.cons_ne_nil _ _)
    (fun rtt _ => Nat.zero_le (rtt.toNat * 1000))
    (by rw [trips]; decide)
  rw [trips] at most least told
  have average : ((new ⟨1000000, 0, .zero, 100⟩).observeAll shortTrips).averageRtt = 8 := by
    rfl
  have long : 8 ≤ shortest [15, 22, 15, 15, 15, 15, 15, 15, 15, 15] := by
    decide
  refine ⟨trips, ?_, most, least⟩
  rw [(told fun rtt among => Nat.le_trans long (shortest_le among)).2, average]
  rfl

end LinkMeter

end Screencast
