import Mathlib.Algebra.GroupWithZero.Nat
import Screencast.Link.Meter
import Screencast.Proofs.History

/-! # The accounts of a link

A metered link keeps sums instead of the messages that they are sums of. Told by what happened to
it, the link holds the messages of the last second with their exact size, the size of all messages,
and the packets since the last report, of which no more are lost than were sent. None of this
depends on what the queue and the loss that is due come to
(`Screencast.LinkMeter.accounts_balance`).
-/

namespace Screencast

/-- Something that happens to a metered link. -/
inductive LinkEvent
  | transmit (now bytes : Nat)
  | report (now : Nat)
  | reset
  /-- The queue and the loss that is due become anything. -/
  | drift (backlog lossCredit : Float)

namespace LinkEvent

/-- Whether the meter is emptied. -/
def isReset : LinkEvent → Bool
  | .reset => true
  | _ => false

/-- Whether a report is taken. -/
def isReport : LinkEvent → Bool
  | .report _ => true
  | _ => false

/-- The counts of packets start over. -/
def startsCounts (e : LinkEvent) : Bool := e.isReport || e.isReset

/-- The moment and the size of a message that is sent. -/
def transmission? : LinkEvent → Option (Nat × Nat)
  | .transmit now bytes => some (now, bytes)
  | _ => none

/-- The messages that were sent, in order. -/
def transmissions (past : List LinkEvent) : List (Nat × Nat) := past.filterMap transmission?

private theorem transmissions_concat (past : List LinkEvent) (e : LinkEvent) :
    transmissions (past ++ [e]) = transmissions past ++ e.transmission?.toList :=
  History.filterMap_concat transmission? past e

private theorem transmissions_concat_of_none (past : List LinkEvent) {e : LinkEvent}
    (unsent : e.transmission? = none) : transmissions (past ++ [e]) = transmissions past := by
  rw [transmissions_concat, unsent]
  exact List.append_nil _

end LinkEvent

namespace LinkMeter

open LinkEvent

/-- The size of some messages. -/
def totalBytes (sent : List (Nat × Nat)) : Nat := (sent.map (·.2)).sum

/-- The packets that some messages need. -/
def totalPackets (sent : List (Nat × Nat)) : Nat := (sent.map fun s => packetsFor s.2).sum

/-- The moment of the last message. -/
def newest (sent : List (Nat × Nat)) : Nat := (sent.getLast?.map (·.1)).getD 0

/-- The messages that were sent a second before the last one or later. -/
def recent (sent : List (Nat × Nat)) : List (Nat × Nat) :=
  sent.filter fun s => decide (newest sent ≤ s.1 + window)

/-- Whether a message was sent more than a second before `now`. -/
def isOld (now : Nat) (s : Nat × Nat) : Bool := decide (window < now - s.1)

/-- While old messages are dropped, none is larger than the number of bytes that is left. -/
def EvictsExactly (now : Nat) : List (Nat × Nat) → Nat → Prop
  | [], _ => True
  | (time, size) :: rest, bytes =>
    window < now - time → size ≤ bytes ∧ EvictsExactly now rest (bytes - size)

/-- Messages are sent in order of time. -/
def InOrder (events : List LinkEvent) : Prop :=
  (transmissions events).Pairwise fun earlier later => earlier.1 ≤ later.1

instance (events : List LinkEvent) : Decidable (InOrder events) :=
  inferInstanceAs (Decidable ((transmissions events).Pairwise _))

/-- What an event makes of a link. -/
def perform (l : LinkMeter) : LinkEvent → LinkMeter
  | .transmit now bytes => l.transmit now bytes
  | .report now => (l.report now).2
  | .reset => l.reset
  | .drift backlog lossCredit => { l with backlog, lossCredit }

/-- What some events make of a link. -/
def performAll (l : LinkMeter) (events : List LinkEvent) : LinkMeter := events.foldl perform l

variable {l : LinkMeter} {p : LinkParams} {sent : List (Nat × Nat)} {past : List LinkEvent}

private theorem totalBytes_append (sent later : List (Nat × Nat)) :
    totalBytes (sent ++ later) = totalBytes sent + totalBytes later := by
  unfold totalBytes
  rw [List.map_append, List.sum_append]

private theorem totalBytes_cons (s : Nat × Nat) (sent : List (Nat × Nat)) :
    totalBytes (s :: sent) = s.2 + totalBytes sent := List.sum_cons

private theorem totalPackets_append (sent later : List (Nat × Nat)) :
    totalPackets (sent ++ later) = totalPackets sent + totalPackets later := by
  unfold totalPackets
  rw [List.map_append, List.sum_append]

private theorem newest_concat (sent : List (Nat × Nat)) (s : Nat × Nat) :
    newest (sent ++ [s]) = s.1 := by
  unfold newest
  rw [List.getLast?_concat]
  rfl

/-- Evicting drops the old messages at the front, and their bytes. -/
theorem evict_totalBytes (now : Nat) (sent : List (Nat × Nat)) :
    evict now sent (totalBytes sent) =
      (sent.dropWhile (isOld now), totalBytes (sent.dropWhile (isOld now))) := by
  induction sent with
  | nil => rfl
  | cons s sent ih =>
      unfold evict
      by_cases old : window < now - s.1
      · have dropped : isOld now s = true := decide_eq_true old
        rw [if_pos old, totalBytes_cons, Nat.add_sub_cancel_left, ih,
          List.dropWhile_cons_of_pos dropped]
      · have kept : ¬isOld now s = true := fun dropped => old (of_decide_eq_true dropped)
        rw [if_neg old, List.dropWhile_cons_of_neg kept]

private theorem evictsExactly_totalBytes (now : Nat) (sent : List (Nat × Nat)) :
    EvictsExactly now sent (totalBytes sent) := by
  induction sent with
  | nil => trivial
  | cons s sent ih =>
      intro _
      rw [totalBytes_cons, Nat.add_sub_cancel_left]
      exact ⟨Nat.le_add_right _ _, ih⟩

/-- In order of time, dropping the old messages from the front leaves the recent ones. -/
theorem dropWhile_isOld_newest (ordered : sent.Pairwise fun a b => a.1 ≤ b.1) :
    sent.dropWhile (isOld (newest sent)) = recent sent := by
  rw [History.dropWhile_eq_filter]
  · apply List.filter_congr
    intro s _
    unfold isOld
    rw [← decide_not]
    exact decide_eq_decide.mpr (by omega)
  · refine ordered.imp fun {a b} before => ?_
    unfold isOld
    simp only [decide_eq_true_eq]
    omega

/-- Queueing a message changes the backlog and the loss only. -/
theorem exists_enqueue_eq (l : LinkMeter) (bytes : Nat) :
    ∃ backlog lost, l.enqueue bytes = { l with backlog, lost } := by
  simp only [enqueue]
  split
  · exact ⟨_, _, rfl⟩
  · exact ⟨_, _, rfl⟩

/-- Sending a message, the queue and the losses aside. -/
theorem exists_transmit_eq (l : LinkMeter) (now bytes : Nat) :
    ∃ backlog lastDrain averageRtt lossCredit lost, l.transmit now bytes =
      { l with
        samples := (evict now (l.samples ++ [(now, bytes)]) (l.windowBytes + bytes)).1
        windowBytes := (evict now (l.samples ++ [(now, bytes)]) (l.windowBytes + bytes)).2
        bytesSent := l.bytesSent + bytes
        packets := l.packets + packetsFor bytes
        lost := min lost (l.packets + packetsFor bytes)
        backlog, lastDrain, averageRtt, lossCredit } := by
  obtain ⟨_, _, same⟩ :=
    exists_enqueue_eq (((l.drain now).sample now bytes).loseShare (packetsFor bytes)) bytes
  unfold transmit
  rw [same]
  exact ⟨_, _, _, _, _, rfl⟩

/-- A link never tells of more than its capacity, nor of nothing at all. -/
theorem bandwidth_bounds (l : LinkMeter) (capable : 1 ≤ l.capacity) :
    1 ≤ l.bandwidth ∧ l.bandwidth ≤ l.capacity := by
  unfold bandwidth
  split
  · omega
  · omega

/-- What a link keeps of its past. -/
structure Balanced (p : LinkParams) (past : List LinkEvent) (l : LinkMeter) : Prop where
  capacity : l.capacity = max p.capacity 1
  -- Not told as the recent ones: what the last message drops, a later one would drop as well.
  samples : l.samples = (transmissions (History.since isReset past)).dropWhile
    (isOld (newest (transmissions (History.since isReset past))))
  windowBytes : l.windowBytes = totalBytes l.samples
  bytesSent : l.bytesSent = totalBytes (transmissions past)
  packets : l.packets = totalPackets (transmissions (History.since startsCounts past))
  lost : l.lost ≤ l.packets

/-- A new meter balances an empty history. -/
theorem balanced_new (p : LinkParams) : Balanced p [] (new p) where
  capacity := rfl
  samples := rfl
  windowBytes := rfl
  bytesSent := rfl
  packets := rfl
  lost := Nat.le_refl 0

/-- A transmission that is not older than the others keeps the accounts. -/
theorem Balanced.transmit (balanced : Balanced p past l) {now : Nat} (bytes : Nat)
    (latest : newest (transmissions (History.since isReset past)) ≤ now) :
    Balanced p (past ++ [.transmit now bytes]) (l.transmit now bytes) := by
  obtain ⟨_, _, _, _, _, same⟩ := exists_transmit_eq l now bytes
  have sum : l.windowBytes + bytes = totalBytes (l.samples ++ [(now, bytes)]) := by
    rw [totalBytes_append, balanced.windowBytes]
    rfl
  -- What was old before is old now, so evicting twice is evicting once.
  have older : ∀ s, isOld (newest (transmissions (History.since isReset past))) s = true →
      isOld now s = true := by
    intro s old
    unfold isOld at old ⊢
    simp only [decide_eq_true_eq] at old ⊢
    omega
  -- The bytes taken off are those of the evicted messages, and the difference is exact.
  rw [sum, evict_totalBytes] at same
  rw [same]
  constructor
  · exact balanced.capacity
  · rw [History.since_concat_of_unmarked _ rfl, transmissions_concat]
    simp only [transmission?, Option.toList_some]
    rw [newest_concat, balanced.samples]
    exact History.dropWhile_append_dropWhile older _ _
  · rfl
  · rw [transmissions_concat, totalBytes_append, ← balanced.bytesSent]
    rfl
  · rw [History.since_concat_of_unmarked _ rfl, transmissions_concat, totalPackets_append,
      ← balanced.packets]
    rfl
  · exact Nat.min_le_right _ _

/-- A report keeps the accounts. -/
theorem Balanced.report (balanced : Balanced p past l) (now : Nat) :
    Balanced p (past ++ [.report now]) (l.report now).2 := by
  constructor
  · exact balanced.capacity
  · rw [History.since_concat_of_unmarked _ rfl, transmissions_concat_of_none _ rfl]
    exact balanced.samples
  · exact balanced.windowBytes
  · rw [transmissions_concat_of_none _ rfl]
    exact balanced.bytesSent
  · rw [History.since_concat_of_marked _ rfl]
    rfl
  · exact Nat.le_refl 0

/-- A reset empties them. -/
theorem Balanced.reset (balanced : Balanced p past l) : Balanced p (past ++ [.reset]) l.reset := by
  constructor
  · exact balanced.capacity
  · rw [History.since_concat_of_marked _ rfl]
    rfl
  · rfl
  · rw [transmissions_concat_of_none _ rfl]
    exact balanced.bytesSent
  · rw [History.since_concat_of_marked _ rfl]
    rfl
  · exact Nat.le_refl 0

/-- The backlog and the fraction of a lost packet are no part of the accounts. -/
theorem Balanced.drift (balanced : Balanced p past l) (backlog lossCredit : Float) :
    Balanced p (past ++ [.drift backlog lossCredit]) { l with backlog, lossCredit } := by
  constructor
  · exact balanced.capacity
  · rw [History.since_concat_of_unmarked _ rfl, transmissions_concat_of_none _ rfl]
    exact balanced.samples
  · exact balanced.windowBytes
  · rw [transmissions_concat_of_none _ rfl]
    exact balanced.bytesSent
  · rw [History.since_concat_of_unmarked _ rfl, transmissions_concat_of_none _ rfl]
    exact balanced.packets
  · exact balanced.lost

private theorem newest_le_of_pairwise {s : Nat × Nat}
    (ordered : (sent ++ [s]).Pairwise fun earlier later => earlier.1 ≤ later.1) :
    newest sent ≤ s.1 := by
  cases sent using List.reverseRecOn with
  | nil => exact Nat.zero_le _
  | append_singleton sent last =>
      have among : last ∈ sent ++ [last] := List.mem_append_right sent List.mem_cons_self
      rw [newest_concat]
      exact (List.pairwise_append.mp ordered).2.2 last among s List.mem_cons_self

private theorem transmissions_since_sublist (mark : LinkEvent → Bool) (past : List LinkEvent) :
    (transmissions (History.since mark past)).Sublist (transmissions past) :=
  (History.since_suffix mark past).sublist.filterMap transmission?

/-- Each beginning of a history in order is in order. -/
theorem InOrder.of_concat {e : LinkEvent} (ordered : InOrder (past ++ [e])) : InOrder past := by
  unfold InOrder at ordered
  rw [transmissions_concat] at ordered
  exact (List.pairwise_append.mp ordered).1

/-- The last stretch of a history in order is in order. -/
theorem InOrder.since (ordered : InOrder past) (mark : LinkEvent → Bool) :
    InOrder (History.since mark past) := ordered.sublist (transmissions_since_sublist mark past)

private theorem InOrder.newest_le {now bytes : Nat}
    (ordered : InOrder (past ++ [.transmit now bytes])) :
    newest (transmissions (History.since isReset past)) ≤ now := by
  have recent := ordered.since isReset
  unfold InOrder at recent
  rw [History.since_concat_of_unmarked _ rfl, transmissions_concat] at recent
  exact newest_le_of_pairwise recent

/-- The accounts balance after every history in order. -/
theorem balanced_performAll (p : LinkParams) {events : List LinkEvent} (ordered : InOrder events) :
    Balanced p events ((new p).performAll events) := by
  induction events using List.reverseRecOn with
  | nil => exact balanced_new p
  | append_singleton events e ih =>
      have balanced := ih ordered.of_concat
      unfold performAll at balanced ⊢
      rw [List.foldl_append]
      cases e with
      | transmit now bytes => exact balanced.transmit bytes ordered.newest_le
      | report now => exact balanced.report now
      | reset => exact balanced.reset
      | drift backlog lossCredit => exact balanced.drift backlog lossCredit

/-- What was sent since the counts of packets started over was sent since the last report. -/
theorem totalPackets_since_le (past : List LinkEvent) :
    totalPackets (transmissions (History.since startsCounts past)) ≤
      totalPackets (transmissions (History.since isReport past)) := by
  have also : ∀ e, isReport e = true → startsCounts e = true := by
    intro e report
    rw [startsCounts, report, Bool.true_or]
  obtain ⟨earlier, same⟩ := History.since_suffix_since also past
  unfold transmissions
  rw [← same, List.filterMap_append, totalPackets_append]
  exact Nat.le_add_left _ _

/-- **The accounts of a link balance.** Whatever was sent in order of time, reported and reset, and
whatever the queue and the loss that is due came to: the messages kept are those since the last
reset that were sent a second before the newest one or later, and the number of bytes kept with them
is their size, so that nothing is ever cut off where an old message is subtracted. The number of
bytes sent is that of all messages, resets and reports or not. No more packets are lost than were
sent since the counts started over. A report tells of no more lost packets than were sent since the
report before it, and of a bandwidth between one and the capacity. -/
theorem accounts_balance (p : LinkParams) (events : List LinkEvent) (ordered : InOrder events) :
    let l := (new p).performAll events
    l.samples = recent (transmissions (History.since isReset events)) ∧
    l.windowBytes = totalBytes l.samples ∧
    (∀ now size, EvictsExactly now (l.samples ++ [(now, size)]) (l.windowBytes + size)) ∧
    l.bytesSent = totalBytes (transmissions events) ∧
    l.packets = totalPackets (transmissions (History.since startsCounts events)) ∧
    l.lost ≤ l.packets ∧
    ∀ now,
      (l.report now).1.nack ≤ totalPackets (transmissions (History.since isReport events)) ∧
      1 ≤ (l.report now).1.bandwidth ∧ (l.report now).1.bandwidth ≤ max p.capacity 1 := by
  intro l
  have balanced : Balanced p events l := balanced_performAll p ordered
  refine ⟨balanced.samples.trans (dropWhile_isOld_newest (ordered.since isReset)),
    balanced.windowBytes, ?_, balanced.bytesSent, balanced.packets, balanced.lost, ?_⟩
  · intro now size
    have evicted := evictsExactly_totalBytes now (l.samples ++ [(now, size)])
    rw [totalBytes_append, ← balanced.windowBytes] at evicted
    exact evicted
  · intro now
    constructor
    · calc (l.report now).1.nack
        _ ≤ l.lost := Nat.min_le_left _ _
        _ ≤ l.packets := balanced.lost
        _ = totalPackets (transmissions (History.since startsCounts events)) := balanced.packets
        _ ≤ totalPackets (transmissions (History.since isReport events)) :=
          totalPackets_since_le events
    · have capacity : (l.drain now).capacity = max p.capacity 1 := balanced.capacity
      rw [← capacity]
      exact bandwidth_bounds (l.drain now) (capacity ▸ Nat.le_max_right _ _)

/-- Messages before and after a reset; the first of the latter is forgotten when the last is
sent. -/
def busySecond : List LinkEvent :=
  [.transmit 0 5000, .reset, .transmit 1000 2400, .report 2000, .transmit 500000000 1201,
    .drift 1e12 0.75, .transmit 1000001001 1]

/-- The messages of the last second are kept, and the bytes of all of them are counted. -/
theorem busySecond_balances :
    let l := (new ⟨0, 4, .half, 100⟩).performAll busySecond
    InOrder busySecond ∧ l.samples = [(500000000, 1201), (1000001001, 1)] ∧
      l.bytesSent = 8602 ∧ l.packets = 3 ∧ ∀ now, (l.report now).1.bandwidth = 1 := by
  have ordered : InOrder busySecond := by decide
  obtain ⟨samples, -, -, bytesSent, packets, -, reports⟩ :=
    accounts_balance ⟨0, 4, .half, 100⟩ busySecond ordered
  exact ⟨ordered, samples, bytesSent, packets,
    fun now => Nat.le_antisymm (reports now).2.2 (reports now).2.1⟩

end LinkMeter

end Screencast
