import CardTable.Command
import CardTable.Text.Quoted

namespace CardTable

/-!
# Errors

Everything that can be refused, with the code under which it is logged and the
sentence in which it is told.
-/

/-- The stable codes of the log. -/
inductive ErrorCode where
  | tokenize
  | unknownCommand
  | tooManyArguments
  | badIndex
  | malformedFrame
  | invalidConfig
  | unsupportedVersion
  | channelClosed
  | internal
  deriving DecidableEq, Repr

namespace ErrorCode

def label : ErrorCode -> String
  | tokenize => "TOKENIZE"
  | unknownCommand => "UNKNOWN_COMMAND"
  | tooManyArguments => "TOO_MANY_ARGS"
  | badIndex => "BAD_INDEX"
  | malformedFrame => "MALFORMED_INBOUND"
  | invalidConfig => "INVALID_CONFIG"
  | unsupportedVersion => "UNSUPPORTED_VERSION"
  | channelClosed => "CHANNEL_CLOSED"
  | internal => "INTERNAL"

end ErrorCode

/-- A refusal together with its cause. -/
inductive Error where
  /-- A quoted span of a typed line is empty. -/
  | tokenize (span : String)
  /-- The first word of a line is no command. -/
  | unknownCommand (word : String)
  /-- A command with a fixed number of arguments got more. -/
  | tooManyArguments (command : Command) (got expected : Nat)
  /-- An index argument is no number below `2 ^ 32`. -/
  | badIndex (raw : String)
  /-- A frame of the server cannot be read. -/
  | malformedFrame (detail : String)
  /-- The configuration or an identity is refused. -/
  | invalidConfig (detail : String)
  /-- The configuration is written for another version. -/
  | unsupportedVersion
  /-- The outbound queue is gone or full. -/
  | channelClosed
  | internal (detail : String)
  deriving DecidableEq, Repr

namespace Error

def code : Error -> ErrorCode
  | tokenize _ => .tokenize
  | unknownCommand _ => .unknownCommand
  | tooManyArguments _ _ _ => .tooManyArguments
  | badIndex _ => .badIndex
  | malformedFrame _ => .malformedFrame
  | invalidConfig _ => .invalidConfig
  | unsupportedVersion => .unsupportedVersion
  | channelClosed => .channelClosed
  | internal _ => .internal

def message : Error -> String
  | tokenize span => s!"invalid token: {span}"
  | unknownCommand word => s!"unknown command: {word}"
  | tooManyArguments command got expected =>
      s!"too many arguments for {command.name}: got {got}, expected {expected}"
  | badIndex raw => s!"bad index: {Text.quoted raw}"
  | malformedFrame detail => s!"malformed inbound message: {detail}"
  | invalidConfig detail => s!"invalid config: {detail}"
  | unsupportedVersion => "unsupported config version"
  | channelClosed => "outbound channel closed"
  | internal detail => s!"internal: {detail}"

end Error
end CardTable
