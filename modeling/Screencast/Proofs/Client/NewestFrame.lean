import Screencast.Proofs.Client.DisplayThreads

/-! # What a successful pass draws

A pass of the render thread takes the newest picture out of the slot before it knows how drawing
ends, and only a successful pass remembers what it drew. So a picture is drawn by every successful
pass from its publication to that of the next one, unless a pass that took it did not succeed:
then it is lost, and the picture shown before it is drawn again
(`Screencast.DisplayThreads.newest_is_drawn`).
-/

namespace Screencast

/-- A frame that is decoded before a look at the slot has arrived by then. -/
def DisplayStep.InTime : DisplayStep → DisplayStep → Prop
  | decode f, look p => f.arrivalTime ≤ p.now
  | _, _ => True

instance : DecidableRel DisplayStep.InTime := fun before after =>
  match before, after with
  | .decode f, .look p => inferInstanceAs (Decidable (f.arrivalTime ≤ p.now))
  | .decode _, .decode _ | .decode _, .publish | .decode _, .draw | .decode _, .call _ =>
    inferInstanceAs (Decidable True)
  | .publish, _ | .look _, _ | .draw, _ | .call _, _ => inferInstanceAs (Decidable True)

variable {δ : Type}

/-- A pass took the newest of `n` published pictures, and did not succeed. -/
def LostAt (earlier : List (ScreenPass δ)) (n : Nat) : Prop :=
  ∃ pass ∈ earlier, pass.pushed = n ∧ pass.taken ≠ none ∧ pass.succeeds = false

instance (earlier : List (ScreenPass δ)) (n : Nat) : Decidable (LostAt earlier n) :=
  inferInstanceAs (Decidable (∃ pass ∈ earlier,
    pass.pushed = n ∧ pass.taken ≠ none ∧ pass.succeeds = false))

/-- What the last successful pass drew. -/
def lastShown (earlier : List (ScreenPass δ)) : Option Resource :=
  (earlier.filter (·.succeeds)).getLast?.bind (·.resource?)

private theorem lostAt_append_singleton (earlier : List (ScreenPass δ)) (pass : ScreenPass δ)
    (n : Nat) :
    LostAt (earlier ++ [pass]) n ↔
      LostAt earlier n ∨ pass.pushed = n ∧ pass.taken ≠ none ∧ pass.succeeds = false := by
  simp [LostAt, or_and_right, exists_or]

private theorem lastShown_append_singleton (earlier : List (ScreenPass δ)) (pass : ScreenPass δ) :
    lastShown (earlier ++ [pass]) =
      if pass.succeeds then pass.resource? else lastShown earlier := by
  cases succeeds : pass.succeeds with
  | true => simp [lastShown, succeeds]
  | false => simp [lastShown, succeeds]

/-- There is nothing to be drawn after `n` publications but `r?`. -/
structure Due (earlier : List (ScreenPass δ)) (published : List Resource) (n : Nat)
    (r? : Option Resource) : Prop where
  newest : ¬ LostAt earlier n → r? = (published.take n).getLast?
  lost : LostAt earlier n → r? = lastShown earlier

variable {earlier : List (ScreenPass δ)} {published : List Resource} {n : Nat}
  {r? : Option Resource}

/-- A later publication does not change what was due at an earlier look. -/
theorem Due.publish (due : Due earlier published n r?) (bound : n ≤ published.length)
    (r : Resource) : Due earlier (published ++ [r]) n r? where
  newest := by
    rw [List.take_append_of_le_length bound]
    exact due.newest
  lost := due.lost

/-- A pass that shows what is due leaves it due. -/
theorem Due.succeeded (due : Due earlier published n r?) {pass : ScreenPass δ}
    (succeeds : pass.succeeds = true) (drawn : pass.resource? = r?) :
    Due (earlier ++ [pass]) published n r? where
  newest := by
    intro kept
    exact due.newest fun lost => kept ((lostAt_append_singleton earlier pass n).mpr (.inl lost))
  lost := by
    intro _
    rw [lastShown_append_singleton, if_pos succeeds, drawn]

/-- A pass that does not succeed leaves the picture shown last, whatever it has taken. -/
theorem Due.lose (due : Due earlier published n r?) {pass : ScreenPass δ}
    (fails : pass.succeeds = false) (pushed : pass.pushed = n)
    (untaken : pass.taken = none → r? = lastShown earlier) :
    Due (earlier ++ [pass]) published n (lastShown earlier) where
  newest := by
    intro kept
    have before : ¬ LostAt earlier n := fun lost =>
      kept ((lostAt_append_singleton earlier pass n).mpr (.inl lost))
    cases taken : pass.taken with
    | none => exact (untaken taken).symm.trans (due.newest before)
    | some w =>
        refine absurd ((lostAt_append_singleton earlier pass n).mpr (.inr ⟨pushed, ?_, fails⟩)) kept
        rw [taken]
        exact Option.some_ne_none w
  lost := by
    intro _
    rw [lastShown_append_singleton, fails]
    rfl

namespace PictureFlow

open DisplayObservation

/-- The pictures on their way have arrived whenever the render thread will look. -/
structure Arrived (v : PictureFlow δ) (steps : List DisplayStep) : Prop where
  ordered : steps.Pairwise DisplayStep.InTime
  waiting : ∀ w p, v.smoother.slot = some w → .look p ∈ steps → w.arrivalTime ≤ p.now
  unpublished : ∀ f r p, v.unpublished = some (f, r) → .look p ∈ steps → f.arrivalTime ≤ p.now

/-- What the render thread has drawn, and what it is to draw next. -/
structure DrawsNewest (v : PictureFlow δ) (published : List Resource)
    (passed : List (ScreenPass δ)) : Prop where
  counted : v.smoother.pushed = published.length
  last : v.last = lastShown passed
  behind : ∀ pass ∈ passed, pass.pushed ≤ published.length
  /-- A picture waits for the first pass that looks after its publication. -/
  waiting : ∀ w, v.smoother.slot = some w →
    published.getLast? = some w.resource ∧ ∀ pass ∈ passed, pass.pushed < published.length
  next : v.glance = none → v.smoother.slot = none → Due passed published published.length v.last
  looking : ∀ g, v.glance = some g → g.pushed ≤ published.length ∧
    (v.smoother.slot = none → g.pushed = published.length) ∧
    (v.smoother.slot ≠ none → g.pushed < published.length) ∧
    Due passed published g.pushed ((g.reading.frame.map (·.resource)).or v.last)
  drawn : ∀ earlier pass later, passed = earlier ++ pass :: later → pass.succeeds = true →
    pass.resource? ≠ none ∧ Due earlier published pass.pushed pass.resource?

variable {decode : δ → EncodedFrame → DecodedFrame × δ} {v v' : PictureFlow δ} {x : DisplayStep}
  {steps : List DisplayStep} {seen new : List (DisplayObservation δ)}
  {published : List Resource} {passed : List (ScreenPass δ)}

/-- After a step, the pictures on their way have still arrived before every later look. -/
theorem Arrived.shift (arrived : v.Arrived (x :: steps)) (shift : v.Shift decode x new v') :
    v'.Arrived steps := by
  obtain ⟨soon, ordered⟩ := List.pairwise_cons.mp arrived.ordered
  have waiting : ∀ w p, v.smoother.slot = some w → .look p ∈ steps → w.arrivalTime ≤ p.now :=
    fun w p slot later => arrived.waiting w p slot (List.mem_cons_of_mem x later)
  have unpublished : ∀ f r p, v.unpublished = some (f, r) → .look p ∈ steps →
      f.arrivalTime ≤ p.now :=
    fun f r p held later => arrived.unpublished f r p held (List.mem_cons_of_mem x later)
  cases shift with
  | still => exact ⟨ordered, waiting, unpublished⟩
  | @decoded f free answer decoder answered =>
      refine ⟨ordered, waiting, ?_⟩
      intro g r p held later
      obtain ⟨_, -, same⟩ := Option.map_eq_some_iff.mp held
      obtain rfl : f = g := congrArg Prod.fst same
      exact soon _ later
  | @published f r held =>
      refine ⟨ordered, ?_, ?_⟩
      · intro w p slot later
        obtain rfl := Option.some.inj slot
        exact unpublished f r p held later
      · intro _ _ _ nothing
        cases nothing
  | took =>
      refine ⟨ordered, ?_, unpublished⟩
      intro _ _ nothing
      cases nothing
  | missed | passed => exact ⟨ordered, waiting, unpublished⟩

/-- A picture put into the slot becomes the newest, and takes the place of one not yet read. -/
theorem DrawsNewest.publish (newest : v.DrawsNewest published passed) (w : WaitingFrame)
    (unpublished : Option (QueuedFrame × Resource)) :
    DrawsNewest { v with smoother := v.smoother.push w, unpublished }
      (published ++ [w.resource]) passed := by
  have longer : (published ++ [w.resource]).length = published.length + 1 :=
    List.length_append
  constructor
  case counted => rw [longer, ← newest.counted]; rfl
  case last => exact newest.last
  case behind =>
    intro pass among
    have before := newest.behind pass among
    omega
  case waiting =>
    intro w' slot
    obtain rfl := Option.some.inj slot
    refine ⟨List.getLast?_concat, fun pass among => ?_⟩
    have before := newest.behind pass among
    omega
  case next =>
    intro _ empty
    cases empty
  case looking =>
    intro g glance
    obtain ⟨bound, -, -, due⟩ := newest.looking g glance
    refine ⟨by omega, ?_, fun _ => by omega, due.publish bound _⟩
    intro empty
    cases empty
  case drawn =>
    intro earlier pass later split succeeds
    have among : pass ∈ passed := by
      rw [split]
      exact List.mem_append_cons_self
    obtain ⟨drawn, due⟩ := newest.drawn earlier pass later split succeeds
    exact ⟨drawn, due.publish (newest.behind pass among) _⟩

/-- The look takes what waits, so nothing newer than the glance is left behind. -/
theorem DrawsNewest.look (newest : v.DrawsNewest published passed) (idle : v.glance = none)
    (p : RenderPass) {reading : SlotReading} (frame : reading.frame = v.smoother.slot) :
    DrawsNewest
      { v with
        smoother := { v.smoother with slot := none }
        glance := some ⟨p, reading, v.smoother.pushed⟩ } published passed := by
  constructor
  case counted => exact newest.counted
  case last => exact newest.last
  case behind => exact newest.behind
  case waiting =>
    intro w empty
    cases empty
  case next =>
    intro nothing
    cases nothing
  case looking =>
    intro g glance
    obtain rfl := Option.some.inj glance
    refine ⟨Nat.le_of_eq newest.counted, fun _ => newest.counted, fun full => absurd rfl full, ?_⟩
    change Due passed published v.smoother.pushed ((reading.frame.map (·.resource)).or v.last)
    rw [newest.counted, frame]
    cases slot : v.smoother.slot with
    | none => exact newest.next idle slot
    | some w =>
        obtain ⟨last, before⟩ := newest.waiting w slot
        constructor
        case newest =>
          intro _
          rw [List.take_length]
          exact last.symm
        case lost =>
          rintro ⟨pass, among, pushed, -⟩
          exact absurd pushed (Nat.ne_of_lt (before pass among))
  case drawn => exact newest.drawn

/-- A pass draws what its glance holds; it becomes the last picture only when the pass succeeds. -/
theorem DrawsNewest.pass (newest : v.DrawsNewest published passed) {g : Glance}
    (glance : v.glance = some g) {pass : ScreenPass δ} (pushed : pass.pushed = g.pushed)
    (taken : pass.taken = g.reading.frame)
    (drawn : pass.resource? ≠ none →
      pass.resource? = (g.reading.frame.map (·.resource)).or v.last)
    (shown : pass.succeeds = true → pass.resource? ≠ none) :
    DrawsNewest
      { v with last := if pass.succeeds then pass.resource? else v.last, glance := none }
      published (passed ++ [pass]) := by
  obtain ⟨bound, empty, full, due⟩ := newest.looking g glance
  constructor
  case counted => exact newest.counted
  case last =>
    rw [lastShown_append_singleton, newest.last]
  case behind =>
    intro other among
    rcases List.mem_append.mp among with before | this
    · exact newest.behind other before
    · rw [List.mem_singleton.mp this, pushed]
      exact bound
  case waiting =>
    intro w slot
    obtain ⟨last, before⟩ := newest.waiting w slot
    refine ⟨last, fun other among => ?_⟩
    rcases List.mem_append.mp among with earlier | this
    · exact before other earlier
    · rw [List.mem_singleton.mp this, pushed]
      apply full
      rw [slot]
      exact Option.some_ne_none w
  case next =>
    intro _ slot
    rw [← empty slot]
    cases succeeds : pass.succeeds with
    | true =>
        rw [if_pos rfl, drawn (shown succeeds)]
        exact due.succeeded succeeds (drawn (shown succeeds))
    | false =>
        rw [if_neg Bool.false_ne_true, newest.last]
        refine due.lose succeeds pushed fun untaken => ?_
        rw [← taken, untaken]
        exact newest.last
  case looking =>
    intro _ nothing
    cases nothing
  case drawn =>
    intro earlier other later split succeeds
    -- Of all passes only the latest is new.
    rcases List.eq_nil_or_concat later with rfl | ⟨between, latest, rfl⟩
    · obtain ⟨rfl, same⟩ := List.append_inj' split rfl
      obtain rfl : pass = other := List.singleton_inj.mp same
      refine ⟨shown succeeds, ?_⟩
      rw [pushed, drawn (shown succeeds)]
      exact due
    · rw [List.concat_eq_append, ← List.cons_append, ← List.append_assoc] at split
      exact newest.drawn earlier other between (List.append_inj' split rfl).1 succeeds

/-- Every step of the two threads keeps the account of what is to be drawn. -/
theorem DrawsNewest.shift (newest : v.DrawsNewest (publications seen) (passes seen))
    (arrived : v.Arrived (x :: steps)) (shift : v.Shift decode x new v') :
    v'.DrawsNewest (publications (seen ++ new)) (passes (seen ++ new)) := by
  rw [publications_append, passes_append]
  have unseen : v.DrawsNewest (publications seen ++ []) (passes seen ++ []) := by
    rwa [List.append_nil, List.append_nil]
  cases shift with
  | still => exact unseen
  | decoded =>
      exact ⟨unseen.counted, unseen.last, unseen.behind, unseen.waiting, unseen.next,
        unseen.looking, unseen.drawn⟩
  | @published f r held =>
      have published := newest.publish ⟨r, f.frame.captureTime, f.arrivalTime⟩ none
      rwa [← List.append_nil (passes seen)] at published
  | took p idle waiting frame =>
      apply unseen.look idle p
      rw [frame, waiting]
  | @missed p idle reading early frame =>
      have slot : v.smoother.slot = none := by
        apply Option.eq_none_iff_forall_ne_some.mpr
        intro w waiting
        have late := arrived.waiting w p waiting List.mem_cons_self
        exact absurd (early w waiting) (UInt64.not_lt.mpr late)
      have looked := unseen.look idle p (frame.trans slot.symm)
      rwa [← slot] at looked
  | passed glance pushed taken decoder drawn shown =>
      have passed := newest.pass glance pushed taken drawn shown
      rwa [← List.append_nil (publications seen)] at passed

end PictureFlow

namespace DisplayThreads

open DisplayObservation

private theorem arrived_started (instanceId : Nat) (n : Negotiated) (decoder : δ)
    {steps : List DisplayStep} (inTime : steps.Pairwise DisplayStep.InTime) :
    (started instanceId n decoder).flow.Arrived steps where
  ordered := inTime
  waiting := by
    intro _ _ nothing
    cases nothing
  unpublished := by
    intro _ _ _ nothing
    cases nothing

private theorem drawsNewest_started (instanceId : Nat) (n : Negotiated) (decoder : δ) :
    (started instanceId n decoder).flow.DrawsNewest [] [] where
  counted := rfl
  last := rfl
  behind := by
    intro _ nothing
    cases nothing
  waiting := by
    intro _ nothing
    cases nothing
  next := fun _ _ => ⟨fun _ => rfl, fun _ => rfl⟩
  looking := by
    intro _ nothing
    cases nothing
  drawn := by
    intro earlier _ _ split
    exact absurd split.symm (List.append_ne_nil_of_right_ne_nil earlier (List.cons_ne_nil _ _))

/-- **A successful pass draws the newest picture, unless it was lost.** However the steps of the
decode thread, of the render thread and of the owner follow each other, and whatever decoder,
renderer and overlays answer, a pass whose picture was drawn and presented drew the picture
published last before it looked at the slot; only if an earlier pass has taken that picture and did
not succeed, it drew again what the last successful pass had drawn. Frames are taken to have arrived
before any look at the slot that follows their decoding. -/
theorem newest_is_drawn (decode : δ → EncodedFrame → DecodedFrame × δ) (instanceId : Nat)
    (n : Negotiated) (decoder : δ) (steps : List DisplayStep)
    (inTime : steps.Pairwise DisplayStep.InTime) {earlier later : List (ScreenPass δ)}
    {pass : ScreenPass δ}
    (split : passes ((started instanceId n decoder).run decode steps).1 = earlier ++ pass :: later)
    (succeeds : pass.succeeds = true) :
    let published := publications ((started instanceId n decoder).run decode steps).1
    ∃ r, pass.resource? = some r ∧
      (¬ LostAt earlier pass.pushed → (published.take pass.pushed).getLast? = some r) ∧
      (LostAt earlier pass.pushed → lastShown earlier = some r) := by
  obtain ⟨-, newest⟩ := @holds_after_run δ decode
    (fun steps v seen => v.Arrived steps ∧ v.DrawsNewest (publications seen) (passes seen))
    (fun kept shift => ⟨kept.1.shift shift, kept.2.shift kept.1 shift⟩) _ steps []
    ⟨arrived_started instanceId n decoder inTime, drawsNewest_started instanceId n decoder⟩
  obtain ⟨drawn, due⟩ := newest.drawn earlier pass later split succeeds
  obtain ⟨r, drew⟩ := Option.ne_none_iff_exists'.mp drawn
  rw [drew] at due
  exact ⟨r, drew, fun kept => (due.newest kept).symm, fun lost => (due.lost lost).symm⟩

/-- A decoder that answers every frame with the next one of three textures. -/
def inTurn (count : Nat) (_ : EncodedFrame) : DecodedFrame × Nat := (.shown (count % 3), count + 1)

/-- Three pictures. The pass that takes the second one ends in a reset, and another pass follows
before the third one. -/
def resetOnce : List DisplayStep :=
  [.decode default, .publish, .look {}, .draw, .decode default, .publish,
    .look { present := .reset }, .draw, .look {}, .draw, .decode default, .publish, .look {}, .draw]

/-- The pass after the reset draws the first picture once more, and the next one the third. -/
theorem resetOnce_draws :
    let passed := passes ((started 0 default 0).run inTurn resetOnce).1
    ∃ first lost again third, passed = [first, lost, again, third] ∧
      again.resource? = first.resource? ∧ third.resource? = some 2 := by
  intro passed
  have all : passed = [passed.get ⟨0, by decide⟩, passed.get ⟨1, by decide⟩] ++
      passed.get ⟨2, by decide⟩ :: [passed.get ⟨3, by decide⟩] := rfl
  have inTime : resetOnce.Pairwise DisplayStep.InTime := by decide
  obtain ⟨r, again, -, repeated⟩ := newest_is_drawn inTurn 0 default 0 resetOnce inTime all rfl
  obtain ⟨r', third, newest, -⟩ := newest_is_drawn inTurn 0 default 0 resetOnce inTime
    (all.trans (List.append_cons _ _ _)) rfl
  refine ⟨_, _, _, _, all, ?_, ?_⟩
  · rw [again, ← repeated (by decide)]
    rfl
  · rw [third, ← newest (by decide)]
    rfl

/-- A picture whose pass ended in a reset is not drawn by the next successful one. -/
theorem not_always_newest :
    ¬ ∀ steps : List DisplayStep, steps.Pairwise DisplayStep.InTime →
      ∀ earlier pass later,
        passes ((started 0 default 0).run inTurn steps).1 = earlier ++ pass :: later →
        pass.succeeds = true →
          pass.resource? = ((publications ((started 0 default 0).run inTurn steps).1).take
            pass.pushed).getLast? := by
  intro always
  let passed := passes ((started 0 default 0).run inTurn resetOnce).1
  have again := always resetOnce (by decide)
    [passed.get ⟨0, by decide⟩, passed.get ⟨1, by decide⟩] (passed.get ⟨2, by decide⟩)
    [passed.get ⟨3, by decide⟩] rfl rfl
  exact absurd again (by decide)

end DisplayThreads

end Screencast
