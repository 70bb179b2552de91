import Mathlib.Data.List.Chain
import Screencast.Proofs.Client.DisplayThreads
import Screencast.Proofs.History
import Screencast.Proofs.Lossless.TextureRing

/-! # The order of the pictures on the screen

The lossless decoder writes a picture into a texture before the picture is published, and uses a
texture again after two others. So a texture may hold a newer picture than the one that its reader
was told of. The pictures on the screen come in the order of their decoding but for two cases: a
pass has drawn a picture that was not published yet when the next pass looked at the slot, or a pass
that took a picture did not succeed and the next one found nothing new
(`Screencast.DisplayThreads.pictures_nearly_in_order`).
-/

namespace Screencast

namespace LosslessDecoder

/-- The number, in the order of decoding, of the picture written last into a texture. -/
def pictureIn (d : LosslessDecoder) (r : Resource) : Nat :=
  r + textureRing * ((d.decoded - 1 - r) / textureRing)

variable {d : LosslessDecoder} {r : Nat}

private theorem pictureIn_lt (written : r < d.decoded) : d.pictureIn r < d.decoded := by
  unfold pictureIn textureRing
  omega

private theorem decoded_le_pictureIn (d : LosslessDecoder) (r : Nat) :
    d.decoded ≤ d.pictureIn r + textureRing := by
  unfold pictureIn textureRing
  omega

private theorem pictureIn_mod (d : LosslessDecoder) (small : r < textureRing) :
    d.pictureIn r % textureRing = r := by
  unfold pictureIn
  rw [Nat.add_mul_mod_self_left, Nat.mod_eq_of_lt small]

/-- No picture written later is in the texture. -/
theorem le_pictureIn {k : Nat} (recent : k < d.decoded) :
    k ≤ d.pictureIn (k % textureRing) := by
  unfold pictureIn textureRing
  omega

private theorem pictureIn_mono {later : LosslessDecoder} (order : d.decoded ≤ later.decoded)
    (r : Nat) : d.pictureIn r ≤ later.pictureIn r := by
  unfold pictureIn textureRing
  omega

variable {pictures : List Bytes}

/-- A texture that has been written holds the last picture written to it. -/
theorem Holds.texture? (holds : d.Holds pictures) (written : r < d.decoded)
    (small : r < textureRing) : d.texture? r = pictures[d.pictureIn r]? := by
  rw [← holds.recent _ (pictureIn_lt written) (d.decoded_le_pictureIn r),
    d.pictureIn_mod small]

end LosslessDecoder

namespace ScreenPass

/-- The number, in the order of decoding, of the picture that a pass draws. -/
def picture (pass : ScreenPass LosslessDecoder) : Nat :=
  pass.decoder.pictureIn (pass.resource?.getD 0)

private theorem picture_of_drawn {pass : ScreenPass LosslessDecoder} {r : Resource}
    (drawn : pass.resource? = some r) : pass.picture = pass.decoder.pictureIn r := by
  rw [picture, drawn]
  rfl

/-- The bytes that a pass draws. -/
def read? (pass : ScreenPass LosslessDecoder) : Option Bytes :=
  pass.resource?.bind pass.decoder.texture?

/-- A pass draws an older picture than the one before it only if that one drew a picture which was
yet to be published when this one looked, or took a picture and did not succeed while this one found
no other. -/
structure Follows (first second : ScreenPass LosslessDecoder) : Prop where
  near : first.picture ≤ second.picture + 2
  back : second.picture < first.picture → second.pushed ≤ first.picture ∨
    first.taken ≠ none ∧ first.succeeds = false ∧ second.taken = none

end ScreenPass

/-- The passes that draw. -/
def draws {δ : Type} (passed : List (ScreenPass δ)) : List (ScreenPass δ) :=
  passed.filter (·.resource?.isSome)

private theorem draws_append_of_idle {δ : Type} (passed : List (ScreenPass δ)) {pass : ScreenPass δ}
    (idle : pass.resource? = none) : draws (passed ++ [pass]) = draws passed := by
  simp [draws, idle]

private theorem draws_append_of_drawn {δ : Type} (passed : List (ScreenPass δ))
    {pass : ScreenPass δ}
    {r : Resource} (drawn : pass.resource? = some r) :
    draws (passed ++ [pass]) = draws passed ++ [pass] := by
  simp [draws, drawn]

/-- The picture that was rebuilt, if one was. -/
def ClientPipeline.Decoded.picture? (d : ClientPipeline.Decoded LosslessDecoder) : Option Bytes :=
  if d.answer.status = .ok then d.decoder.reference else none

/-- All pictures that were rebuilt. -/
def decodedPictures (seen : List (DisplayObservation LosslessDecoder)) : List Bytes :=
  (DisplayObservation.decodedFrames seen).filterMap (·.picture?)

private theorem decodedPictures_append (first second : List (DisplayObservation LosslessDecoder)) :
    decodedPictures (first ++ second) = decodedPictures first ++ decodedPictures second := by
  rw [decodedPictures, DisplayObservation.decodedFrames_append, List.filterMap_append]
  rfl

private theorem decodedPictures_decoded (d : ClientPipeline.Decoded LosslessDecoder) :
    decodedPictures [.decoded d] = d.picture?.toList :=
  History.filterMap_singleton ClientPipeline.Decoded.picture? d

namespace PictureFlow

open LosslessDecoder DisplayObservation

/-- The pictures rotate through the textures, and were drawn from there. -/
structure Rotates (v : PictureFlow LosslessDecoder) (pictures : List Bytes)
    (passed : List (ScreenPass LosslessDecoder)) : Prop where
  holds : v.decoder.Holds pictures
  decoded : v.decoder.decoded = v.smoother.pushed + v.unpublished.toList.length
  unpublished : ∀ f r, v.unpublished = some (f, r) → r = v.smoother.pushed % textureRing
  waiting : ∀ w, v.smoother.slot = some w →
    ∃ k, k + 1 = v.smoother.pushed ∧ w.resource = k % textureRing
  looking : ∀ g, v.glance = some g → g.pushed ≤ v.smoother.pushed ∧
    ∀ w, g.reading.frame = some w → ∃ k, k + 1 = g.pushed ∧ w.resource = k % textureRing
  last : ∀ r, v.last = some r → r < textureRing ∧ r < v.smoother.pushed
  latest : ∀ pass ∈ (draws passed).getLast?,
    pass.decoder.decoded ≤ v.decoder.decoded ∧
      (∀ r, pass.resource? = some r → r < pass.decoder.decoded) ∧
      (v.last = pass.resource? ∨ pass.taken ≠ none ∧ pass.succeeds = false)
  read : ∀ pass ∈ draws passed,
    pass.picture < pictures.length ∧ pass.read? = pictures[pass.picture]?
  chain : (draws passed).IsChain ScreenPass.Follows

variable {z : Compression} {v v' : PictureFlow LosslessDecoder} {x : DisplayStep}
  {seen new : List (DisplayObservation LosslessDecoder)} {pictures : List Bytes}
  {passed : List (ScreenPass LosslessDecoder)}

/-- A decode that fails touches no texture. -/
theorem Rotates.fail (rotates : v.Rotates pictures passed) :
    Rotates { v with decoder := v.decoder.fail } pictures passed :=
  ⟨rotates.holds.fail, rotates.decoded, rotates.unpublished, rotates.waiting, rotates.looking,
    rotates.last, rotates.latest, rotates.read, rotates.chain⟩

/-- A picture goes into the texture after the newest one. What has been drawn stays as it was. -/
theorem Rotates.accept (rotates : v.Rotates pictures passed) (free : v.unpublished = none)
    (f : QueuedFrame) (picture : Bytes) :
    Rotates
      { v with
        decoder := v.decoder.accept picture, unpublished := some (f, v.decoder.next) }
      (pictures ++ [picture]) passed := by
  have decoded : v.decoder.decoded = v.smoother.pushed := by
    have counted := rotates.decoded
    rwa [free] at counted
  constructor
  case holds => exact rotates.holds.accept picture
  case decoded => exact congrArg (· + 1) decoded
  case unpublished =>
    intro _ _ held
    cases held
    rw [rotates.holds.next, decoded]
  case waiting => exact rotates.waiting
  case looking => exact rotates.looking
  case last => exact rotates.last
  case latest =>
    intro pass latest
    obtain ⟨order, written, last⟩ := rotates.latest pass latest
    exact ⟨Nat.le_succ_of_le order, written, last⟩
  case read =>
    intro pass among
    obtain ⟨old, read⟩ := rotates.read pass among
    refine ⟨?_, ?_⟩
    · rw [List.length_append]
      exact Nat.lt_add_right _ old
    · rw [read, List.getElem?_append_left old]
  case chain => exact rotates.chain

/-- Publishing hands the newest texture over to the slot. -/
theorem Rotates.publish (rotates : v.Rotates pictures passed) {f : QueuedFrame} {r : Resource}
    (held : v.unpublished = some (f, r)) (captureTime arrivalTime : UInt64) :
    Rotates
      { v with smoother := v.smoother.push ⟨r, captureTime, arrivalTime⟩, unpublished := none }
      pictures passed := by
  constructor
  case holds => exact rotates.holds
  case decoded =>
    have decoded := rotates.decoded
    rwa [held] at decoded
  case unpublished =>
    intro _ _ nothing
    cases nothing
  case waiting =>
    intro w slot
    cases slot
    exact ⟨_, rfl, rotates.unpublished f r held⟩
  case looking =>
    intro g glance
    obtain ⟨bound, taken⟩ := rotates.looking g glance
    exact ⟨Nat.le_succ_of_le bound, taken⟩
  case last =>
    intro r shown
    obtain ⟨small, published⟩ := rotates.last r shown
    exact ⟨small, Nat.lt_succ_of_lt published⟩
  case latest => exact rotates.latest
  case read => exact rotates.read
  case chain => exact rotates.chain

/-- A look moves the waiting picture to the glance, or leaves it. -/
theorem Rotates.look (rotates : v.Rotates pictures passed) (p : RenderPass) (reading : SlotReading)
    (slot : Option WaitingFrame) (rest : ∀ w, slot = some w → v.smoother.slot = some w)
    (frame : ∀ w, reading.frame = some w → v.smoother.slot = some w) :
    Rotates
      { v with
        smoother := { v.smoother with slot }
        glance := some ⟨p, reading, v.smoother.pushed⟩ } pictures passed := by
  constructor
  case holds => exact rotates.holds
  case decoded => exact rotates.decoded
  case unpublished => exact rotates.unpublished
  case waiting => exact fun w slot => rotates.waiting w (rest w slot)
  case looking =>
    intro g glance
    obtain rfl := Option.some.inj glance
    exact ⟨Nat.le_refl _, fun w taken => rotates.waiting w (frame w taken)⟩
  case last => exact rotates.last
  case latest => exact rotates.latest
  case read => exact rotates.read
  case chain => exact rotates.chain

private theorem Rotates.published_le_decoded (rotates : v.Rotates pictures passed) :
    v.smoother.pushed ≤ v.decoder.decoded := by
  rw [rotates.decoded]
  exact Nat.le_add_right _ _

/-- A texture that a pass may draw has been published. -/
theorem Rotates.drawable (rotates : v.Rotates pictures passed) {g : Glance}
    (glance : v.glance = some g) {r : Resource}
    (drawn : (g.reading.frame.map (·.resource)).or v.last = some r) :
    r < textureRing ∧ r < v.smoother.pushed := by
  cases frame : g.reading.frame with
  | none =>
      rw [frame] at drawn
      exact rotates.last r drawn
  | some w =>
      rw [frame] at drawn
      obtain ⟨bound, taken⟩ := rotates.looking g glance
      obtain ⟨k, count, resource⟩ := taken w frame
      obtain rfl : w.resource = r := Option.some.inj drawn
      rw [resource]
      exact ⟨Nat.mod_lt k (by decide), Nat.lt_of_le_of_lt (Nat.mod_le k _) (by omega)⟩

/-- A drawing pass follows the one that drew before it. -/
theorem Rotates.follows (rotates : v.Rotates pictures passed) {g : Glance}
    (glance : v.glance = some g) {first pass : ScreenPass LosslessDecoder}
    (latest : first ∈ (draws passed).getLast?) (pushed : pass.pushed = g.pushed)
    (taken : pass.taken = g.reading.frame) (decoder : pass.decoder = v.decoder) {r : Resource}
    (drew : pass.resource? = some r)
    (drawn : (g.reading.frame.map (·.resource)).or v.last = some r) : first.Follows pass := by
  obtain ⟨order, written, last⟩ := rotates.latest first latest
  have drawing : first ∈ draws passed := List.mem_of_getLast? latest
  obtain ⟨r₁, drew₁⟩ := Option.isSome_iff_exists.mp (List.mem_filter.mp drawing).2
  have picture₁ : first.picture = first.decoder.pictureIn r₁ := ScreenPass.picture_of_drawn drew₁
  have picture : pass.picture = v.decoder.pictureIn r := by
    rw [ScreenPass.picture_of_drawn drew, decoder]
  constructor
  case near =>
    have old := pictureIn_lt (written r₁ drew₁)
    have recent := v.decoder.decoded_le_pictureIn r
    unfold textureRing at recent
    omega
  case back =>
    intro back
    rw [picture, picture₁] at back
    rw [pushed, taken, picture₁]
    cases frame : g.reading.frame with
    | some w =>
        left
        rw [frame] at drawn
        obtain ⟨bound, origin⟩ := rotates.looking g glance
        obtain ⟨k, count, resource⟩ := origin w frame
        obtain rfl : w.resource = r := Option.some.inj drawn
        have published := rotates.published_le_decoded
        have newer := @le_pictureIn v.decoder k (by omega)
        rw [resource] at back
        omega
    | none =>
        right
        rw [frame] at drawn
        rcases last with shown | ⟨taken, fails⟩
        · have again : r₁ = r := Option.some.inj (drew₁.symm.trans (shown.symm.trans drawn))
          rw [← again] at back
          exact absurd (pictureIn_mono order r₁) (Nat.not_le_of_lt back)
        · exact ⟨taken, fails, rfl⟩

/-- A pass that draws nothing gives its glance up. -/
theorem Rotates.idle (rotates : v.Rotates pictures passed) {pass : ScreenPass LosslessDecoder}
    (idle : pass.resource? = none) :
    Rotates { v with glance := none } pictures (passed ++ [pass]) := by
  have same := draws_append_of_idle passed idle
  constructor
  case holds => exact rotates.holds
  case decoded => exact rotates.decoded
  case unpublished => exact rotates.unpublished
  case waiting => exact rotates.waiting
  case looking =>
    intro _ nothing
    cases nothing
  case last => exact rotates.last
  case latest =>
    rw [same]
    exact rotates.latest
  case read =>
    rw [same]
    exact rotates.read
  case chain =>
    rw [same]
    exact rotates.chain

/-- A pass that draws shows the picture of its glance, or else the last one again. -/
theorem Rotates.draw (rotates : v.Rotates pictures passed) {g : Glance}
    (glance : v.glance = some g) {pass : ScreenPass LosslessDecoder}
    (pushed : pass.pushed = g.pushed) (taken : pass.taken = g.reading.frame)
    (decoder : pass.decoder = v.decoder) {r : Resource} (drew : pass.resource? = some r)
    (drawn : (g.reading.frame.map (·.resource)).or v.last = some r) :
    Rotates { v with last := if pass.succeeds then some r else v.last, glance := none } pictures
      (passed ++ [pass]) := by
  obtain ⟨small, published⟩ := rotates.drawable glance drawn
  have written : r < v.decoder.decoded := Nat.lt_of_lt_of_le published rotates.published_le_decoded
  have longer := draws_append_of_drawn passed drew
  constructor
  case holds => exact rotates.holds
  case decoded => exact rotates.decoded
  case unpublished => exact rotates.unpublished
  case waiting => exact rotates.waiting
  case looking =>
    intro _ nothing
    cases nothing
  case last =>
    intro r' shown
    cases succeeds : pass.succeeds with
    | true =>
        rw [succeeds] at shown
        obtain rfl := Option.some.inj shown
        exact ⟨small, published⟩
    | false =>
        rw [succeeds] at shown
        exact rotates.last r' shown
  -- A pass that fails has drawn a picture out of the slot, or the last one, which stays.
  case latest =>
    rw [longer, List.getLast?_concat]
    intro this same
    obtain rfl := Option.some.inj same
    rw [decoder, drew]
    refine ⟨Nat.le_refl _, fun r' again => Option.some.inj again ▸ written, ?_⟩
    cases succeeds : pass.succeeds with
    | true => exact .inl rfl
    | false =>
        cases frame : g.reading.frame with
        | none =>
            left
            rw [frame] at drawn
            exact drawn
        | some w =>
            right
            rw [taken, frame]
            exact ⟨Option.some_ne_none w, rfl⟩
  -- What is drawn is the newest picture written to the texture, older ones being gone.
  case read =>
    rw [longer]
    intro this among
    rcases List.mem_append.mp among with before | this
    · exact rotates.read _ before
    · rw [List.mem_singleton.mp this, ScreenPass.picture_of_drawn drew, ScreenPass.read?, drew,
        decoder, rotates.holds.decoded]
      exact ⟨pictureIn_lt written, rotates.holds.texture? written small⟩
  case chain =>
    rw [longer]
    apply rotates.chain.append (List.isChain_singleton pass)
    intro first latest this same
    obtain rfl := Option.some.inj same
    exact rotates.follows glance latest pushed taken decoder drew drawn

/-- A call to the decoder fails or accepts one picture; either way the rotation goes on. -/
theorem Rotates.decode (rotates : v.Rotates pictures passed) (free : v.unpublished = none)
    (f : QueuedFrame) {answer : DecodedFrame} {decoder : LosslessDecoder}
    (answered : v.decoder.decode z f.frame = (answer, decoder)) :
    Rotates { v with decoder, unpublished := answer.picture?.map (f, ·) }
      (pictures ++ (ClientPipeline.Decoded.picture? ⟨f.frame, answer, decoder⟩).toList) passed := by
  cases rebuilt : v.decoder.rebuild? z f.frame with
  | none =>
      obtain ⟨rfl, rfl⟩ := Prod.mk.inj (answered.symm.trans (decode_of_not_rebuild rebuilt))
      have failed := rotates.fail
      rw [free, ← List.append_nil pictures] at failed
      exact failed
  | some picture =>
      obtain ⟨rfl, rfl⟩ := Prod.mk.inj (answered.symm.trans (decode_of_rebuild rebuilt))
      exact rotates.accept free f picture

/-- Every step of the two threads keeps the textures in rotation. -/
theorem Rotates.shift (rotates : v.Rotates (decodedPictures seen) (passes seen))
    (shift : v.Shift (LosslessDecoder.decode z) x new v') :
    v'.Rotates (decodedPictures (seen ++ new)) (passes (seen ++ new)) := by
  rw [decodedPictures_append, passes_append]
  have unseen : v.Rotates (decodedPictures seen ++ []) (passes seen ++ []) := by
    rwa [List.append_nil, List.append_nil]
  cases shift with
  | still => exact unseen
  | @decoded f free answer decoder answered =>
      have decoded := rotates.decode free f answered
      rw [← decodedPictures_decoded, ← List.append_nil (passes seen)] at decoded
      exact decoded
  | published held => exact unseen.publish held _ _
  | took p idle waiting frame =>
      apply unseen.look p _ none
      · intro _ nothing
        cases nothing
      · intro w taken
        rw [waiting, ← frame, taken]
  | missed p idle early frame =>
      apply unseen.look p _ v.smoother.slot
      · exact fun _ slot => slot
      · intro w taken
        cases frame.symm.trans taken
  | @passed g glance pass pushed taken decoder drawn shown =>
      rw [← List.append_nil (decodedPictures seen)] at rotates
      cases drew : pass.resource? with
      | none =>
          have fails : pass.succeeds = false :=
            Bool.eq_false_iff.mpr fun succeeds => shown succeeds drew
          rw [fails]
          exact rotates.idle drew
      | some r =>
          have source := (drawn (drew ▸ Option.some_ne_none r)).symm.trans drew
          exact rotates.draw glance pushed taken decoder drew source

end PictureFlow

namespace DisplayThreads

open DisplayObservation

private theorem rotates_started (instanceId : Nat) (n : Negotiated) (width height : UInt32) :
    (started instanceId n (LosslessDecoder.new width height)).flow.Rotates [] [] where
  holds := LosslessDecoder.holds_new width height
  decoded := rfl
  unpublished := by
    intro _ _ nothing
    cases nothing
  waiting := by
    intro _ nothing
    cases nothing
  looking := by
    intro _ nothing
    cases nothing
  last := by
    intro _ nothing
    cases nothing
  latest := by
    intro _ nothing
    cases nothing
  read := by
    intro _ nothing
    cases nothing
  chain := .nil

/-- **Pictures come in order, but for two cases.** However the steps of the two threads and of the
owner follow each other, and whatever is decoded, a pass draws one of the pictures decoded so far,
and follows the pass that drew before it: what it draws is older only if the picture drawn before
was yet to be published when it looked at the slot, or if it found nothing new and the pass before
did not succeed with a picture that it took; and it is never more than two pictures older. -/
theorem pictures_nearly_in_order (z : Compression) (instanceId : Nat) (n : Negotiated)
    (width height : UInt32) (steps : List DisplayStep) :
    let seen := ((started instanceId n (LosslessDecoder.new width height)).run
      (LosslessDecoder.decode z) steps).1
    (∀ pass ∈ draws (passes seen), pass.picture < (decodedPictures seen).length ∧
      pass.read? = (decodedPictures seen)[pass.picture]?) ∧
    (draws (passes seen)).IsChain ScreenPass.Follows := by
  have rotates := @holds_after_run _ (LosslessDecoder.decode z)
    (fun _ v seen => v.Rotates (decodedPictures seen) (passes seen))
    (fun kept shift => kept.shift shift) _ steps [] (rotates_started instanceId n width height)
  exact ⟨rotates.read, rotates.chain⟩

/-- A keyframe of one pixel. -/
def pixelFrame (shade : UInt8) : QueuedFrame :=
  ⟨⟨.zstd, 1, 1, true, 0, 0, 0, 0, Compression.stored.compress 1 [shade, 0, 0, 0]⟩, 0⟩

/-- Three pictures are decoded between a look at the slot and the drawing that belongs to it. -/
def overtaken : List DisplayStep :=
  [.decode (pixelFrame 0), .publish, .look {}, .decode (pixelFrame 1), .publish,
    .decode (pixelFrame 2), .publish, .decode (pixelFrame 3), .draw, .look {}, .draw]

/-- The pass that takes the second picture ends in a reset. -/
def takenBack : List DisplayStep :=
  [.decode (pixelFrame 0), .publish, .look {}, .draw, .decode (pixelFrame 1), .publish,
    .look { present := .reset }, .draw, .look {}, .draw]

/-- Pictures go back although every pass succeeds, and although every picture is drawn before the
next one is decoded. -/
theorem not_always_in_order :
    (¬ ∀ steps : List DisplayStep,
      let seen := ((started 0 default (LosslessDecoder.new 1 1)).run
        (LosslessDecoder.decode .stored) steps).1
      (∀ d ∈ decodedFrames seen, d.answer.status = .ok) →
      (∀ pass ∈ passes seen, pass.succeeds = true) →
      (draws (passes seen)).IsChain fun first second => first.picture ≤ second.picture) ∧
    ¬ ∀ steps : List DisplayStep,
      let seen := ((started 0 default (LosslessDecoder.new 1 1)).run
        (LosslessDecoder.decode .stored) steps).1
      (∀ d ∈ decodedFrames seen, d.answer.status = .ok) →
      (∀ pass ∈ passes seen, pass.pushed = pass.decoder.decoded) →
      (draws (passes seen)).IsChain fun first second => first.picture ≤ second.picture := by
  constructor
  · intro always
    exact absurd (always overtaken (by decide) (by decide)) (by decide)
  · intro always
    exact absurd (always takenBack (by decide) (by decide)) (by decide)

end DisplayThreads

end Screencast
