import Screencast.Client.Decoding
import Screencast.Client.Rendering
import Screencast.Render.Headless

/-! # Playing commands to the client's pipeline

The owner gives one command at a time, and before the next one the decode thread decodes all that
waits. The render thread makes one pass whenever it is told to. So each reply shows everything that
the commands before it have caused.
-/

namespace Screencast

/-- A command of the pipeline's owner, or the word for a pass of the render thread. -/
inductive ClientCommand
  | start
  | submit (frames : List QueuedFrame)
  | render
  | update (figures : TransportFigures)
  | suggestBitrate (cap : Nat)
  | requestBitrate (bps : UInt64)
  | enableAutoBitrate
  | setCursor (info : CursorInfo)
  | setMouseMode (mode : MouseMode)
  | setStretch (stretch : Bool)
  | loseTarget
  | stopListening
  | stop
deriving DecidableEq, Repr

/-- What came of a command. -/
inductive ClientReply (δ : Type)
  | started (result : Except StreamError Unit) (decoded : List (ClientPipeline.Decoded δ))
      (actions : List RenderAction)
  | submitted (answers : List SubmitAction) (decoded : List (ClientPipeline.Decoded δ))
  /-- The render thread made a pass; `left` tells whether it has ended in it. -/
  | passed (actions : List RenderAction) (left : Bool)
  /-- The render thread had ended before. -/
  | exited
  /-- There is no render thread. -/
  | idle
  | suggested (bps : Option Nat)
  | sent (result : Except StreamError Unit)
  | done

/-- What the render thread did. -/
def ClientReply.actions {δ : Type} : ClientReply δ → List RenderAction
  | .started _ _ actions | .passed actions _ => actions
  | _ => []

namespace ClientPipeline

variable {δ : Type}

/-- A pipeline with its decoder. -/
structure Play (δ : Type) where
  pipeline : ClientPipeline
  decoder : δ

/-- Submits frames one after the other. -/
def submitAll (c : ClientPipeline) : List QueuedFrame → List SubmitAction × ClientPipeline
  | [] => ([], c)
  | f :: fs =>
    let (action, c) := c.submit f
    let (actions, c) := c.submitAll fs
    (action :: actions, c)

/-- A new render thread looks at once whether its target is lost. -/
def firstLook (c : ClientPipeline) (p : RenderPass) :
    List RenderAction × List ClientEvent × ClientPipeline :=
  if c.running && c.rendering then c.restoreTarget p else ([], [], c)

/-- Carries out a command. `p` holds what the renderer answers meanwhile. -/
def Play.step (decode : δ → EncodedFrame → DecodedFrame × δ) (s : Play δ) (p : RenderPass) :
    ClientCommand → ClientReply δ × List ClientEvent × Play δ
  | .start =>
    match s.pipeline.start with
    | (.error e, c) => (.started (.error e) [] [], [], { s with pipeline := c })
    | (.ok (), c) =>
      let (decoded, events, c, decoder) := c.decodeAll decode s.decoder
      let (actions, more, c) := c.firstLook p
      (.started (.ok ()) decoded actions, events ++ more, ⟨c, decoder⟩)
  | .submit frames =>
    let (answers, c) := s.pipeline.submitAll frames
    let (decoded, events, c, decoder) := c.decodeAll decode s.decoder
    (.submitted answers decoded, events, ⟨c, decoder⟩)
  | .render =>
    if !s.pipeline.running then (.idle, [], s)
    else if !s.pipeline.rendering then (.exited, [], s)
    else
      let (actions, events, c) := s.pipeline.renderPass p
      (.passed actions !c.rendering, events, { s with pipeline := c })
  | .update figures =>
    quiet { s.pipeline with telemetry := s.pipeline.telemetry.update figures }
  | .suggestBitrate cap => (.suggested (s.pipeline.telemetry.suggestedBitrate cap), [], s)
  | .requestBitrate bps => sent (s.pipeline.requestBitrate bps)
  | .enableAutoBitrate => sent s.pipeline.enableAutoBitrate
  | .setCursor info => quiet (s.pipeline.setCursor info)
  | .setMouseMode mode => quiet (s.pipeline.setMouseMode mode)
  | .setStretch stretch => quiet (s.pipeline.setStretch stretch)
  | .loseTarget => quiet s.pipeline.loseTarget
  | .stopListening => quiet { s.pipeline with listening := false }
  | .stop => quiet s.pipeline.stop
where
  quiet (c : ClientPipeline) : ClientReply δ × List ClientEvent × Play δ :=
    (.done, [], { s with pipeline := c })
  sent (r : Except StreamError Unit × List ClientEvent) :
      ClientReply δ × List ClientEvent × Play δ := (.sent r.1, r.2, s)

end ClientPipeline

namespace HeadlessRenderer

/-- What an action of the render thread does to a headless renderer. -/
def observe (r : HeadlessRenderer) : RenderAction → HeadlessRenderer
  | .targetReset _ => r.resetTarget
  | .cursor state => r.updateCursor state
  | .mouseMode mouseMode => { r with mouseMode }
  | .stretch stretch => { r with stretch }
  | .rendered resource _ => (r.render resource).2
  | .presented _ => r.present.2
  | _ => r

end HeadlessRenderer

end Screencast
