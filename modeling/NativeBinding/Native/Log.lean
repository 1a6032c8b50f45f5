/-! Severities of diagnostics, and the handler that may receive them. -/
namespace NativeBinding

inductive LogLevel where
  | error
  | warning
  | info
  | debug
  deriving DecidableEq

namespace LogLevel

/-- The short name that handlers print. -/
def name : LogLevel → String
  | error => "ERR"
  | warning => "WARN"
  | info => "INFO"
  | debug => "DEBUG"

/-- The name that the default sink prints. -/
def sinkName : LogLevel → String
  | error => "ERROR"
  | warning => "WARN"
  | info => "INFO"
  | debug => "DEBUG"

/-- The place in the order from the most severe to the least. -/
def rank : LogLevel → Nat
  | error => 0
  | warning => 1
  | info => 2
  | debug => 3

end LogLevel

/-- An installed receiver of messages. One that breaks off does so after it has taken the message,
and what broke off is not felt outside the call. -/
structure Handler where
  name : String
  breaksOff : Bool := false
  deriving DecidableEq

/-- How the receiver of a message came out of taking it. -/
inductive Reception where
  | completed
  | brokenOff
  deriving DecidableEq

end NativeBinding
