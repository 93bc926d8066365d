import KrakenUi.Encoding.Utf8
import KrakenUi.Services.Updater

namespace KrakenUi
namespace UpdateLog

open Updater (maxLogBytes)
open Utf8

/-!
# The update log

`append_log` as it works on the bytes of the log.  A log that has become too
long loses its front, up to the first character that begins where the limit
allows it.  The source falls back to an offset that may lie inside a character,
and draining up to such an offset is a panic.  Memory is taken to suffice.
-/

def truncationMarker : String := "[earlier update output truncated]\n"

def endsWith (log : String) (character : Char) : Bool :=
  log.toList.getLast? == some character

/-- The log with the message on a line of its own, before it is measured. -/
def appended (log message : String) : String :=
  let log := if !log.isEmpty && !endsWith log '\n' then log.push '\n' else log
  let log := log ++ message
  if !endsWith log '\n' then log.push '\n' else log

/-- Up to where a log that is too long is drained. -/
def boundary (log : String) : Nat :=
  let keepFrom := log.utf8ByteSize - maxLogBytes
  (indexFrom keepFrom (charIndices log.toList)).getD keepFrom

/-- Nothing for a panic. -/
def appendLog (log message : String) : Option String :=
  let log := appended log message
  if maxLogBytes < log.utf8ByteSize then
    (drain (boundary log) log.toList).map fun kept => truncationMarker ++ String.ofList kept
  else some log

/-- One call after the other; nothing if a call panics. -/
def appendAll (log : String) (messages : List String) : Option String :=
  messages.foldlM appendLog log

/-- A call that cuts the log. -/
def Truncates (log message : String) : Prop :=
  maxLogBytes < (appended log message).utf8ByteSize

instance (log message : String) : Decidable (Truncates log message) :=
  inferInstanceAs (Decidable (_ < _))

end UpdateLog
end KrakenUi
