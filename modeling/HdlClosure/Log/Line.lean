import HdlClosure.Log.Event

namespace HdlClosure

def LogLevel.padded : LogLevel → String
  | .error => "ERROR"
  | .warn => " WARN"
  | .info => " INFO"
  | .debug => "DEBUG"
  | .trace => "TRACE"

def LogLevel.colour : LogLevel → String
  | .error => "31"
  | .warn => "33"
  | .info => "32"
  | .debug => "34"
  | .trace => "35"

namespace Event

/-- A text under a terminal code, if the line is coloured. -/
def styled (coloured : Bool) (code text : String) : String :=
  if coloured then "\x1b[" ++ code ++ "m" ++ text ++ "\x1b[0m" else text

/-- A value with its name: the name in italics, the equals sign dimmed. -/
def fieldText (coloured : Bool) (field : String × String) : String :=
  styled coloured "3" field.1 ++ styled coloured "2" "=" ++ field.2

def line (coloured : Bool) (time : String) (event : Event) : String :=
  " ".intercalate
    ([styled coloured "2" time, styled coloured event.level.colour event.level.padded,
      event.message] ++ event.fields.map (fieldText coloured))

end Event

end HdlClosure
