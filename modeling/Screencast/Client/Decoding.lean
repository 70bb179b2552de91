import Screencast.Client.Pipeline

/-! # The decode thread

The thread takes frames in the order of their submission, one after the other. What becomes of the
pipeline depends on how decoding ends: a picture goes to the render thread, a failure makes the
next submission ask for a keyframe, and a decoder beyond repair ends the thread.
-/

namespace Screencast

namespace ClientPipeline

/-- Takes the next frame, as long as the thread is in its loop. -/
def takeNext (c : ClientPipeline) : Option QueuedFrame × ClientPipeline :=
  if c.running && c.decoding then (c.queue.head?, { c with queue := c.queue.drop 1 }) else (none, c)

/-- A picture goes to the render thread. -/
def publish (c : ClientPipeline) (f : QueuedFrame) (r : Resource) : ClientPipeline :=
  { c with
    stats := c.stats.recordDecoded
    slot := c.slot.pushFrame ⟨r, f.frame.captureTime, f.arrivalTime⟩ }

/-- The decoder is dead: nothing more is taken, and the thread ends. -/
def abandon (c : ClientPipeline) (status : DecodeStatus) : List ClientEvent × ClientPipeline :=
  (c.emit (.resetRequested c.instanceId (.decodeFatal status)),
    { c with closed := true, queue := [], decoding := false })

/-- What becomes of the pipeline after a frame was decoded. -/
def react (c : ClientPipeline) (f : QueuedFrame) (d : DecodedFrame) :
    List ClientEvent × ClientPipeline :=
  match d.status, d.resource with
  | .ok, some r => ([], c.publish f r)
  | .ok, none => ([], c)
  | .failed, _ => ([], { c with keyframeNeeded := true })
  | .eAgain, _ => c.abandon .eAgain
  | .needReset, _ => c.abandon .needReset

variable {δ : Type}

/-- A decoded frame and the decoder's state right after it. -/
structure Decoded (δ : Type) where
  frame : EncodedFrame
  answer : DecodedFrame
  decoder : δ

/-- Decodes until nothing waits or the thread has ended. `decode` is the decoder and `fuel` bounds
the number of frames; `decodeAll` gives the bound. -/
def decodeUpTo (decode : δ → EncodedFrame → DecodedFrame × δ) :
    Nat → ClientPipeline → δ → List (Decoded δ) × List ClientEvent × ClientPipeline × δ
  | 0, c, d => ([], [], c, d)
  | fuel + 1, c, d =>
    match c.takeNext with
    | (none, c) => ([], [], c, d)
    | (some f, c) =>
      let (answer, d) := decode d f.frame
      let (events, c) := c.react f answer
      let (decoded, more, c, d') := decodeUpTo decode fuel c d
      (⟨f.frame, answer, d⟩ :: decoded, events ++ more, c, d')

/-- Decodes all that waits. -/
def decodeAll (decode : δ → EncodedFrame → DecodedFrame × δ) (c : ClientPipeline) (d : δ) :
    List (Decoded δ) × List ClientEvent × ClientPipeline × δ :=
  decodeUpTo decode c.queue.length c d

end ClientPipeline

end Screencast
