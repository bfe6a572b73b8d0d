namespace ScannerConfig

inductive LogLevel where
  | off
  | error
  | warn
  | info
  | debug
  | trace
  deriving DecidableEq, Repr

namespace LogLevel

def rank : LogLevel → Nat
  | off => 0
  | error => 1
  | warn => 2
  | info => 3
  | debug => 4
  | trace => 5

def name : LogLevel → String
  | off => "off"
  | error => "error"
  | warn => "warn"
  | info => "info"
  | debug => "debug"
  | trace => "trace"

def all : List LogLevel := [off, error, warn, info, debug, trace]

/-- The level that a flag asks for that was given so many times. -/
def ofCount : Nat → LogLevel
  | 0 => warn
  | 1 => info
  | 2 => debug
  | _ => trace

/-- The code of the color that a level is shown in. -/
def color : LogLevel → String
  | off => "39"
  | error => "31"
  | warn => "33"
  | info => "32"
  | debug => "34"
  | trace => "35"

/-- The name in a column of five letters, at the right of it. -/
def column (level : LogLevel) : String :=
  "".pushn ' ' (5 - level.name.length) ++ level.name.map Char.toUpper

end LogLevel

structure LogEntry where
  level : LogLevel
  /-- The part of the program that the entry belongs to: names joined by double colons. -/
  topic : String
  text : String
  /-- Names with the values they had. -/
  fields : List (String × String)
  deriving DecidableEq, Repr

namespace LogEntry

/-- A text in a style, which is taken back after it. -/
def styled (colored : Bool) (code text : String) : String :=
  if colored then "\x1b[" ++ code ++ "m" ++ text ++ "\x1b[0m" else text

/-- Names of fields are italic and the signs behind them dim where the log is colored. -/
def fieldText (colored : Bool) (field : String × String) : String :=
  " " ++ styled colored "3" field.1 ++ styled colored "2" "=" ++ field.2

def line (colored : Bool) (entry : LogEntry) : String :=
  styled colored entry.level.color entry.level.column ++ " " ++ entry.text ++
    String.join (entry.fields.map (fieldText colored)) ++ "\n"

end LogEntry

end ScannerConfig
