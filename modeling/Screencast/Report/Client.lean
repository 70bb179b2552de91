import Screencast.Client.Script
import Screencast.Report.Parts

/-! # Reports of the client's pipeline
-/

namespace Screencast

instance : Reportable SubmitAction := ⟨fun a =>
  match a with
  | .requestKeyframe => "RequestKeyFrame"
  | .nothing => "None"⟩

/-- An event about an instance; `own` is the number of the instance that is looked at. -/
def ClientEvent.report (own : Nat) : ClientEvent → Report
  | .outbound m => Reportable.report m
  | .resetRequested id cause => failure "ResetRequested" id cause
  | .renderStopped id cause => failure "RenderStopped" id cause
where
  failure (type : String) (id : Nat) (cause : StreamError) : Report := .record
    [("type", type), ("own_instance", Reportable.report (id == own)),
      ("cause", Reportable.report cause),
      ("requires_rebuild", Reportable.report cause.requiresRebuild)]

instance : Reportable DecoderOutput := ⟨fun o => .record
  [("call", "bind"), ("textures", report o.textures), ("format", report o.format)]⟩

instance : Reportable RenderAction := ⟨fun a => .record <| match a with
  | .targetReset ok => [("call", "reset_target"), ("ok", report ok)]
  | .cursor state => [("call", "cursor"), ("state", report state)]
  | .mouseMode mode => [("call", "mouse_mode"), ("mode", report mode)]
  | .stretch stretch => [("call", "stretch"), ("stretch", report stretch)]
  | .rendered r outcome =>
    [("call", "render"), ("resource", report r), ("outcome", report outcome)]
  | .presented outcome => [("call", "present"), ("outcome", report outcome)]
  | .overlayRendered index stats outcome =>
    [("call", "overlay_render"), ("index", report index), ("stats", stats.timelessReport),
      ("outcome", report outcome)]
  | .overlayReset index => [("call", "overlay_reset"), ("index", report index)]⟩

instance : Reportable ClientPipeline := ⟨fun c => .record
  [("state", report c.state), ("smoother", report c.slot.smoother.size),
    ("stats", c.renderStats.timelessReport)]⟩

/-- A decoded frame; `texture` tells what it left in the decoder. -/
def ClientPipeline.Decoded.report {δ : Type}
    (texture : δ → DecodedFrame → List (String × Report)) (d : Decoded δ) : Report :=
  (Reportable.report d.answer).add
    (("picture_id", Reportable.report d.frame.pictureId) :: texture d.decoder d.answer)

/-- What came of a command. -/
def ClientReply.fields {δ : Type} (texture : δ → DecodedFrame → List (String × Report)) :
    ClientReply δ → List (String × Report)
  | .started result decoded actions =>
    [("start", report result), ("decoded", .list (decoded.map (·.report texture))),
      ("calls", report actions)]
  | .submitted answers decoded =>
    [("actions", report answers), ("decoded", .list (decoded.map (·.report texture)))]
  | .passed actions left => [("calls", report actions), ("exited", report left)]
  | .exited => [("exited", .flag true)]
  | .idle => [("idle", .flag true)]
  | .suggested bps => [("suggested", report bps)]
  | .sent result => [("sent", report result)]
  | .done => []

end Screencast
