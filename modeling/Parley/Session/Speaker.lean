import Parley.Text.Basic

/-!
# Speakers

A speaker is the player or the agent if the name of the one or the other keyword occurs in it.
-/

namespace Parley

/-- Who says a line. -/
inductive SpeakerType where
  | player
  | self
  | other
  deriving DecidableEq, Repr

namespace SpeakerType

/-- Who a speaker is, by the name. -/
def ofSpeaker (speaker : Text) : SpeakerType :=
  if Text.includes "player".toList speaker then .player
  else if Text.includes "self".toList speaker then .self
  else .other

/-- The name of a kind of speaker. -/
def name : SpeakerType → String
  | .player => "PLAYER"
  | .self => "SELF"
  | .other => "OTHER"

end SpeakerType

end Parley
