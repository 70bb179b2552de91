import Screencast.Media.Picture
import Screencast.Text.Elapsed

/-! # Failures of a stream

What can go wrong while a stream is set up or runs, the wording of each failure, and which of
them leave a codec or a renderer in an unknown state.
-/

namespace Screencast

/-- A failure of a stream. -/
inductive StreamError
  /-- The sender offers no codec of the receiver's list. -/
  | negotiationFailure (preferred : List Codec)
  /-- No backend would create an encoder. -/
  | encoderCreateFailure (detail : String)
  /-- One picture could not be decoded. -/
  | decodeFailure (pictureId : Nat)
  /-- The decoder is beyond repair. -/
  | decodeFatal (status : DecodeStatus)
  /-- The render target could not be made again. -/
  | renderDeviceLost
  /-- The renderer failed for good. -/
  | renderFatal
  /-- The display is no longer in the negotiated mode. -/
  | resolutionChanged (width height refreshRate : UInt32)
  /-- A pipeline was asked for with parameters that make no sense. -/
  | invalidParams (reason : String)
  /-- An operation came in the wrong phase of a pipeline's life. -/
  | invalidState (reason : String)
  /-- The capturer would not start. -/
  | captureStart (detail : String)
  /-- A message could not be read. -/
  | encoding (detail : String)
  | io (detail : String)
  /-- Nobody listens to a channel any more. -/
  | channelClosed
  | timeout (span : Span)
  | other (text : String)
deriving DecidableEq, Repr

namespace StreamError

/-- The wording of a failure. -/
def message : StreamError → String
  | negotiationFailure preferred =>
    "capability negotiation failed: sender offers none of " ++ Codec.listLabel preferred
  | encoderCreateFailure detail => "encoder creation failed: " ++ detail
  | decodeFailure pictureId => "decode failed for picture " ++ toString pictureId
  | decodeFatal status => "decoder needs a pipeline rebuild (" ++ status.label ++ ")"
  | renderDeviceLost => "render device lost"
  | renderFatal => "render failed"
  | resolutionChanged width height refreshRate =>
    "display mode changed to " ++ (DisplayMode.mk width height refreshRate .deg0).text
  | invalidParams reason => "invalid pipeline parameters: " ++ reason
  | invalidState reason => "invalid state: " ++ reason
  | captureStart detail => "capture failed to start: " ++ detail
  | encoding detail => "encoding error: " ++ detail
  | io detail => "io error: " ++ detail
  | channelClosed => "channel closed"
  | timeout span => "timeout after " ++ span.text
  | other text => text

/-- The name of the kind of failure. -/
def kind : StreamError → String
  | negotiationFailure _ => "NegotiationFailure"
  | encoderCreateFailure _ => "EncoderCreateFailure"
  | decodeFailure _ => "DecodeFailure"
  | decodeFatal _ => "DecodeFatal"
  | renderDeviceLost => "RenderDeviceLost"
  | renderFatal => "RenderFatal"
  | resolutionChanged .. => "ResolutionChanged"
  | invalidParams _ => "InvalidParams"
  | invalidState _ => "InvalidState"
  | captureStart _ => "CaptureStart"
  | encoding _ => "Encoding"
  | io _ => "Io"
  | channelClosed => "ChannelClosed"
  | timeout _ => "Timeout"
  | other _ => "Other"

/-- Whether a codec or a renderer is left in an unknown state, so that the owner has to build a new
instance instead of going on. -/
def requiresRebuild : StreamError → Bool
  | decodeFatal _ | resolutionChanged .. | renderDeviceLost => true
  | _ => false

end StreamError

end Screencast
