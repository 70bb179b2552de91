import Screencast.Proofs.Client.DisplayThreads
import Screencast.Proofs.History

/-! # The picture that waits

The slot between decoding and rendering holds one picture, and counts. Told by the calls that it has
had and their answers, it holds the picture put in last, unless that one has been taken out, and
every picture put in was replaced, was taken out or still waits. So pictures come out in the order
in which they were put in, each at most once, and the render thread takes the newest one as soon as
it has arrived (`Screencast.Smoother.newest_waits_until_taken`).
-/

namespace Screencast

/-- A call of the slot. -/
inductive SmootherCall
  | push (f : WaitingFrame)
  | get (time : UInt64)
  | pop
deriving DecidableEq, Repr

/-- A call and the picture that it gave. -/
structure SmootherRecord where
  call : SmootherCall
  answer : Option WaitingFrame
deriving DecidableEq, Repr

namespace SmootherRecord

/-- The picture that a call put in. -/
def push? (r : SmootherRecord) : Option WaitingFrame :=
  match r.call with
  | .push f => some f
  | _ => none

/-- The picture that a call took out. -/
def pop? (r : SmootherRecord) : Option WaitingFrame :=
  match r.call with
  | .pop => r.answer
  | _ => none

/-- The pictures put in, the oldest first. -/
def putIn (log : List SmootherRecord) : List WaitingFrame := log.filterMap push?

/-- The pictures taken out, in order. -/
def takenOut (log : List SmootherRecord) : List WaitingFrame := log.filterMap pop?

/-- The picture put in last, unless it has been taken out. -/
def newest? (log : List SmootherRecord) : Option WaitingFrame :=
  if takenOut (History.since (·.push?.isSome) log) = [] then (putIn log).getLast? else none

variable {log : List SmootherRecord} {r : SmootherRecord} {f : WaitingFrame}

private theorem putIn_concat (log : List SmootherRecord) (r : SmootherRecord) :
    putIn (log ++ [r]) = putIn log ++ r.push?.toList := History.filterMap_concat push? log r

private theorem takenOut_concat (log : List SmootherRecord) (r : SmootherRecord) :
    takenOut (log ++ [r]) = takenOut log ++ r.pop?.toList := History.filterMap_concat pop? log r

private theorem newest?_concat_of_push (pushes : r.push? = some f) :
    newest? (log ++ [r]) = some f := by
  have marked : r.push?.isSome = true := by rw [pushes]; rfl
  rw [newest?, History.since_concat_of_marked log marked, putIn_concat, pushes]
  exact List.getLast?_concat

/-- A call that puts nothing in may take the picture out that waits. -/
theorem newest?_concat_of_no_push (keeps : r.push? = none) :
    newest? (log ++ [r]) = if r.pop? = none then newest? log else none := by
  have unmarked : r.push?.isSome = false := by rw [keeps]; rfl
  rw [newest?, History.since_concat_of_unmarked log unmarked, takenOut_concat, putIn_concat, keeps]
  cases r.pop? with
  | none => rw [Option.toList_none, List.append_nil, List.append_nil, if_pos rfl, newest?]
  | some f =>
      have nonempty : takenOut (History.since (·.push?.isSome) log) ++ (some f).toList ≠ [] :=
        List.append_ne_nil_of_right_ne_nil _ (List.cons_ne_nil f [])
      rw [if_neg nonempty, if_neg (Option.some_ne_none f)]

private theorem pop?_isSome (taken : r.pop?.isSome = true) :
    r.call = .pop ∧ r.answer.isSome = true := by
  unfold pop? at taken
  cases call : r.call with
  | pop =>
      rw [call] at taken
      exact ⟨rfl, taken⟩
  | push | get =>
      rw [call] at taken
      cases taken

/-- What was taken out is gone until something is put in. -/
theorem newest?_of_taken {between : List SmootherRecord} (taken : r.pop?.isSome = true)
    (unmarked : ∀ b ∈ between, b.push?.isSome = false) : newest? (log ++ r :: between) = none := by
  obtain ⟨f, popped⟩ := Option.isSome_iff_exists.mp taken
  have keeps : r.push?.isSome = false := by rw [push?, (pop?_isSome taken).1]; rfl
  have whole : ∀ b ∈ r :: between, b.push?.isSome = false :=
    List.forall_mem_cons.mpr ⟨keeps, unmarked⟩
  have removed : f ∈ takenOut (History.since (·.push?.isSome) (log ++ r :: between)) := by
    rw [History.since_append_of_unmarked log whole]
    exact List.mem_filterMap.mpr ⟨r, List.mem_append_cons_self, popped⟩
  exact if_neg (List.ne_nil_of_mem removed)

end SmootherRecord

namespace Smoother

open SmootherRecord

/-- The answer to a call, and the slot afterwards. -/
def perform (s : Smoother) : SmootherCall → Option WaitingFrame × Smoother
  | .push f => (none, s.push f)
  | .get time => (s.get time, s)
  | .pop => s.pop

/-- Calls with their answers, in order. -/
def log (s : Smoother) : List SmootherCall → List SmootherRecord
  | [] => []
  | c :: calls => ⟨c, (s.perform c).1⟩ :: (s.perform c).2.log calls

/-- The slot after some calls. -/
def performAll (s : Smoother) (calls : List SmootherCall) : Smoother :=
  calls.foldl (fun s c => (s.perform c).2) s

variable {s : Smoother} {past : List SmootherRecord}

/-- At most one picture waits. -/
theorem size_le_one (s : Smoother) : s.size ≤ 1 := by
  unfold size
  split
  · exact Nat.le_refl 1
  · exact Nat.zero_le 1

/-- What the slot holds and counts is what was put in and not taken out. -/
structure Recalls (past : List SmootherRecord) (s : Smoother) : Prop where
  slot : s.slot = newest? past
  counted : s.pushed = (putIn past).length
  balanced : s.pushed = s.dropped + (takenOut past).length + s.size
  ordered : (takenOut past ++ s.slot.toList).Sublist (putIn past)

/-- A fresh slot recalls an empty history. -/
theorem recalls_empty : Recalls [] {} where
  slot := rfl
  counted := rfl
  balanced := rfl
  ordered := .slnil

/-- A pushed picture takes the place of the one that waited. -/
theorem Recalls.push (recalls : Recalls past s) (f : WaitingFrame) :
    Recalls (past ++ [⟨.push f, none⟩]) (s.push f) where
  slot := (newest?_concat_of_push rfl).symm
  counted := by
    rw [putIn_concat, List.length_append, ← recalls.counted]
    rfl
  balanced := by
    have balanced := recalls.balanced
    have same : takenOut (past ++ [⟨.push f, none⟩]) = takenOut past := by
      rw [takenOut_concat]
      exact List.append_nil _
    rw [same]
    change s.pushed + 1 = s.dropped + s.size + (takenOut past).length + 1
    omega
  ordered := by
    have before := (List.sublist_append_left _ _).trans recalls.ordered
    rw [takenOut_concat, putIn_concat]
    change ((takenOut past ++ []) ++ [f]).Sublist (putIn past ++ [f])
    rw [List.append_nil]
    exact before.append (.refl [f])

/-- A call that neither puts in a picture nor takes one out leaves no trace. -/
theorem Recalls.idle (recalls : Recalls past s) {r : SmootherRecord} (push : r.push? = none)
    (pop : r.pop? = none) : Recalls (past ++ [r]) s := by
  have samePut : putIn (past ++ [r]) = putIn past := by
    rw [putIn_concat, push]
    exact List.append_nil _
  have sameTaken : takenOut (past ++ [r]) = takenOut past := by
    rw [takenOut_concat, pop]
    exact List.append_nil _
  constructor
  · rw [newest?_concat_of_no_push push, if_pos pop]
    exact recalls.slot
  · rw [samePut]
    exact recalls.counted
  · rw [sameTaken]
    exact recalls.balanced
  · rw [sameTaken, samePut]
    exact recalls.ordered

/-- A pop hands out what waited and leaves nothing. -/
theorem Recalls.pop (recalls : Recalls past s) :
    Recalls (past ++ [⟨.pop, s.slot⟩]) { s with slot := none } := by
  cases waiting : s.slot with
  | none =>
      have same : { s with slot := none } = s := by rw [← waiting]
      rw [same]
      exact recalls.idle rfl rfl
  | some f =>
      have taken : takenOut (past ++ [⟨.pop, some f⟩]) = takenOut past ++ [f] := takenOut_concat _ _
      have kept : putIn (past ++ [⟨.pop, some f⟩]) = putIn past := by
        rw [putIn_concat]
        exact List.append_nil _
      have ordered := recalls.ordered
      have balanced := recalls.balanced
      rw [waiting] at ordered
      have one : s.size = 1 := by rw [size, waiting]; rfl
      constructor
      · exact (@newest?_concat_of_no_push past ⟨.pop, some f⟩ rfl).symm
      · rw [kept]
        exact recalls.counted
      · rw [taken, List.length_append]
        change s.pushed = s.dropped + ((takenOut past).length + 1) + 0
        omega
      · rw [taken, kept]
        change (takenOut past ++ [f] ++ []).Sublist (putIn past)
        rw [List.append_nil]
        exact ordered

/-- One call keeps the slot in step with the history. -/
theorem Recalls.perform (recalls : Recalls past s) (c : SmootherCall) :
    Recalls (past ++ [⟨c, (s.perform c).1⟩]) (s.perform c).2 := by
  cases c with
  | push f => exact recalls.push f
  | get time => exact recalls.idle rfl rfl
  | pop => exact recalls.pop

/-- The slot stays in step over every list of calls. -/
theorem Recalls.performAll (recalls : Recalls past s) (calls : List SmootherCall) :
    Recalls (past ++ s.log calls) (s.performAll calls) := by
  induction calls generalizing s past with
  | nil =>
      rw [log, List.append_nil]
      exact recalls
  | cons c calls ih =>
      have later := ih (recalls.perform c)
      rw [List.append_assoc] at later
      exact later

/-- A record belongs to a call, and to the slot that the calls before have left. -/
theorem exists_call_of_log {calls : List SmootherCall} {earlier later : List SmootherRecord}
    {r : SmootherRecord} (split : s.log calls = earlier ++ r :: later) :
    ∃ before, earlier = s.log before ∧ r.answer = ((s.performAll before).perform r.call).1 := by
  induction calls generalizing s earlier with
  | nil => exact absurd split.symm (List.append_ne_nil_of_right_ne_nil _ (List.cons_ne_nil _ _))
  | cons c calls ih =>
      cases earlier with
      | nil =>
          obtain ⟨rfl, -⟩ := List.cons.inj split
          exact ⟨[], rfl, rfl⟩
      | cons first earlier =>
          obtain ⟨rfl, rest⟩ := List.cons.inj split
          obtain ⟨before, rfl, answer⟩ := ih rest
          exact ⟨c :: before, rfl, answer⟩

/-- Each time something is taken out, it is what was put in last. -/
theorem answer_of_pop {calls : List SmootherCall} {earlier later : List SmootherRecord}
    {r : SmootherRecord} (split : ({} : Smoother).log calls = earlier ++ r :: later)
    (pops : r.call = .pop) : r.answer = newest? earlier := by
  obtain ⟨before, rfl, answer⟩ := exists_call_of_log split
  rw [answer, pops]
  exact (recalls_empty.performAll before).slot

/-- A picture whose time has come is read, and is gone from the slot. -/
theorem read_of_arrived (slot : RenderSlot) {now : UInt64} {f : WaitingFrame}
    (waiting : slot.smoother.slot = some f) (arrived : f.arrivalTime ≤ now) :
    (slot.read now).1.frame = some f ∧ (slot.read now).2.smoother = slot.smoother.pop.2 := by
  rcases slot.read_cases now with ⟨f', waiting', -, frame, smoother⟩ | ⟨early, -, -⟩
  · cases waiting.symm.trans waiting'
    exact ⟨frame, smoother⟩
  · exact absurd arrived (UInt64.not_le.mpr (early f waiting))

/-- A picture that is early stays, and the read gives none. -/
theorem read_of_not_arrived (slot : RenderSlot) {now : UInt64}
    (early : ∀ f, slot.smoother.slot = some f → now < f.arrivalTime) :
    (slot.read now).1.frame = none ∧ (slot.read now).2.smoother = slot.smoother := by
  rcases slot.read_cases now with ⟨f, waiting, arrived, -, -⟩ | ⟨-, frame, smoother⟩
  · exact absurd arrived (UInt64.not_le.mpr (early f waiting))
  · exact ⟨frame, smoother⟩

/-- **The newest picture waits until it is taken.** After any calls, the pictures put in are those
that were replaced, those that were taken out and the one that waits, if there is one. What is taken
out is the picture put in last, unless it has been taken out before. So pictures come out in the
order in which they were put in, and none a second time: one is put in between two that are taken
out. The render thread takes the picture put in last if it has not been taken and has arrived by
now, and leaves the slot as it is otherwise. -/
theorem newest_waits_until_taken (calls : List SmootherCall) :
    let past := ({} : Smoother).log calls
    let s := ({} : Smoother).performAll calls
    s.pushed = (putIn past).length ∧
    s.pushed = s.dropped + (takenOut past).length + s.size ∧ s.size ≤ 1 ∧
    (∀ earlier r later, past = earlier ++ r :: later → r.call = .pop →
      r.answer = newest? earlier) ∧
    (takenOut past).Sublist (putIn past) ∧
    (∀ earlier first between second later,
      past = earlier ++ first :: (between ++ second :: later) →
      first.pop?.isSome = true → second.pop?.isSome = true →
        ∃ r ∈ between, r.push?.isSome = true) ∧
    ∀ (slot : RenderSlot) (now : UInt64),
      let read := { slot with smoother := s }.read now
      (∀ f, newest? past = some f → f.arrivalTime ≤ now →
        read.1.frame = some f ∧ read.2.smoother = s.pop.2) ∧
      ((∀ f, newest? past = some f → now < f.arrivalTime) →
        read.1.frame = none ∧ read.2.smoother = s) := by
  intro past s
  have recalls : Recalls past s := recalls_empty.performAll calls
  refine ⟨recalls.counted, recalls.balanced, s.size_le_one,
    fun earlier r later split pops => answer_of_pop split pops,
    (List.sublist_append_left _ _).trans recalls.ordered, ?_, fun slot now => ?_⟩
  · intro earlier first between second later split taken again
    by_contra untouched
    have unmarked : ∀ r ∈ between, r.push?.isSome = false := fun r among =>
      Bool.eq_false_iff.mpr fun pushes => untouched ⟨r, among, pushes⟩
    rw [← List.cons_append, ← List.append_assoc] at split
    obtain ⟨pops, answer⟩ := pop?_isSome again
    rw [answer_of_pop split pops, newest?_of_taken taken unmarked] at answer
    cases answer
  · rw [← recalls.slot]
    exact ⟨fun f => read_of_arrived { slot with smoother := s },
      read_of_not_arrived { slot with smoother := s }⟩

end Smoother

end Screencast
