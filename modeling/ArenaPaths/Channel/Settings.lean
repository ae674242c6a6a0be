import ArenaPaths.Backing.Device
import ArenaPaths.Channel.Registers

/-!
# Settings from the environment

Three environment variables change what is used when the command line asks for nothing:
the device of the channel, the limit of polls and the name of the buffer.
-/

namespace ArenaPaths

open Text

/-- What is known of the environment: a variable that is not set is absent. -/
structure Environment where
  /-- `SSSP_CHANNEL_DEVICE` -/
  channelDevice : Option String := none
  /-- `SSSP_POLL_LIMIT` -/
  pollLimit : Option String := none
  /-- `SSSP_UDMABUF` -/
  bufferName : Option String := none
  deriving DecidableEq, Repr

namespace Environment

/-- Name of the variable with the device of the channel. -/
def channelDeviceName : String := "SSSP_CHANNEL_DEVICE"

/-- Name of the variable with the limit of polls. -/
def pollLimitName : String := "SSSP_POLL_LIMIT"

/-- Name of the variable with the name of the buffer. -/
def bufferNameName : String := "SSSP_UDMABUF"

/-- The environment in which variables have the values that a look-up gives. -/
def ofLookup (value? : String → Option String) : Environment where
  channelDevice := value? channelDeviceName
  pollLimit := value? pollLimitName
  bufferName := value? bufferNameName

end Environment

/-- The limit of polls that a text asks for: `unbounded` and `0` ask for none, other
texts have to be numerals. -/
def parsePollLimit (text : String) : Option (Option Nat) :=
  let text := trim text
  if text = "unbounded" ∨ text = "0" then some none
  else
    match Numeral.decimal64 text with
    | .ok limit => some (some limit)
    | .error _ => none

/-- How a channel over registers is set up. -/
structure ChannelSettings where
  device : String
  guard : Guard
  polling : Polling
  deriving DecidableEq, Repr

namespace ChannelSettings

/-- Device of the channel when none is asked for. -/
def defaultDevice : String := "/dev/uio1"

/-- Settings when nothing is asked for. -/
def default : ChannelSettings := ⟨defaultDevice, .guarded, .default⟩

/-- The settings with another limit of polls. -/
def withLimit (settings : ChannelSettings) (limit : Option Nat) : ChannelSettings :=
  { settings with polling := { settings.polling with limit } }

/-- Settings that the environment asks for. A limit that cannot be read is passed
over. -/
def ofEnvironment (environment : Environment) : ChannelSettings :=
  let settings :=
    { default with device := environment.channelDevice.getD defaultDevice }
  match environment.pollLimit.bind parsePollLimit with
  | some limit => settings.withLimit limit
  | none => settings

end ChannelSettings

end ArenaPaths
