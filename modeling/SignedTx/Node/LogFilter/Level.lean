import SignedTx.Text.Digits

/-!
# Levels of a log

From nothing to everything; each level lets through what the ones before it do.
-/

set_option autoImplicit false

namespace SignedTx.LogFilter

inductive Level
  | off
  | error
  | warn
  | info
  | debug
  | trace
deriving DecidableEq, Repr

namespace Level

def name : Level → String
  | .off => "off"
  | .error => "error"
  | .warn => "warn"
  | .info => "info"
  | .debug => "debug"
  | .trace => "trace"

def all : List Level := [.off, .error, .warn, .info, .debug, .trace]

/-- Reads a number from 0 to 5 or a name in any case. -/
def ofText? (text : List Char) : Option Level :=
  let digits :=
    match text with
    | '+' :: rest => rest
    | _ => text
  match Digits.decimal? digits with
  | some number => all[number]?
  | none => all.find? fun level => level.name.toList = text.map Char.toLower

end Level
end SignedTx.LogFilter
