import Std.Time.DateTime.Timestamp
import Stockroom.Dispatch
import Stockroom.Json.Text
import Stockroom.Service.Surroundings
import Stockroom.Settings.CommandLine
import Stockroom.Sweep
import Stockroom.Wire.Catalogue

/-!
# The program

Commands come in as lines of JSON, and their replies go out the same way.  A
line that is no command is dropped with a warning.  Before a command is
answered, overdue reservations are swept if the interval between two sweeps
has passed.
-/

namespace Stockroom.Main

/-- What the outside says at one moment: the time, ticks of a steady clock in milliseconds, and
a number that no one can foresee. -/
structure Moment where
  now : Instant
  ticks : Nat
  seed : Nat

structure Running where
  settings : Settings
  service : ServiceSettings
  stock : MemoryService
  nextSweep : Nat

/-- A stockroom without any stock. -/
def start (settings : Settings) (service : Settings.ForService) (moment : Moment) : Running where
  settings := settings
  service := service.service
  stock := ⟨.empty, .start (service.cacheSeconds.map (· * 1000)) moment.now Uuid.random⟩
  nextSweep := moment.ticks

/-- The clocks and the supply of ids at a moment. -/
def Running.atMoment (running : Running) (moment : Moment) : Running :=
  { running with stock := { running.stock with around := { running.stock.around with
      ticks := moment.ticks
      clock := moment.now
      wallClock := moment.now
      supply := fun position => Uuid.random (moment.seed + position) } } }

/-- Sweeps overdue reservations when it is time to. -/
def Running.sweepIfDue (running : Running) : Running :=
  let ticks := running.stock.around.ticks
  if ticks < running.nextSweep then running
  else
    let sweep := Sweep.tick running.settings.sweepBatchSize
    { running with
      stock := (Program.run MemoryService.answer sweep running.stock).2
      nextSweep := ticks + running.settings.sweepInterval * 1000 }

/-- Answers one line, unless it is no command or the answer would have no time to expire at. -/
def Running.answer (running : Running) (line : String) : Except String Reply × Running :=
  match Decoder.ofWholeText Command.decoder line with
  | .error error => (.error ("Discarding malformed command: " ++ error.message), running)
  | .ok command =>
    let (answer, stock) := running.stock.perform (Dispatch.dispatch running.service command)
    let reply := match answer with
      | .ok reply => .ok reply
      | .error (.stock error) => .error error.message
      | .error .deadlineOutOfRange => .error Settings.Fault.holdOutOfRange.message
    (reply, { running with stock := stock })

def present : IO Moment := do
  let time ← Std.Time.Timestamp.now
  let nanoseconds := time.toNanosecondsSinceUnixEpoch.val
  let bytes ← IO.getRandomBytes 12
  return {
    now := (Instant.ofOffset? 0 nanoseconds).getD .epoch
    ticks := ← IO.monoMsNow
    seed := bytes.foldl (fun number byte => number * 256 + byte.toNat) 0 }

/-- Answers the lines of the input until it ends. -/
partial def serve (input output : IO.FS.Stream) (running : Running) : IO Unit := do
  let line ← input.getLine
  if line.isEmpty then return
  let (reply, running) := ((running.atMoment (← present)).sweepIfDue).answer line
  match reply with
  | .ok reply =>
    output.putStrLn reply.toJson.text
    output.flush
  | .error warning => IO.eprintln warning
  serve input output running

/-- The environment variables that settings are read from. -/
def environmentOf : List Setting → IO (List (String × String))
  | [] => return []
  | setting :: rest => do
    let others ← environmentOf rest
    match setting.environmentName? with
    | none => return others
    | some name =>
      match ← IO.getEnv name with
      | none => return others
      | some value => return (name, value) :: others

/-- Reads the settings and serves with them; the result is the exit code. -/
def run (words : List String) : IO UInt32 := do
  let environment ← environmentOf Setting.all
  match CommandLine.read words (fun name => environment.lookup name) with
  | .error .help =>
    for setting in Setting.all do IO.println setting.usage
    return 0
  | .error refusal =>
    IO.eprintln ("error: " ++ refusal.kind ++ " " ++ refusal.argument)
    return 2
  | .ok settings =>
    match settings.forService with
    | .error fault =>
      IO.eprintln ("Error: " ++ fault.message)
      return 1
    | .ok service =>
      serve (← IO.getStdin) (← IO.getStdout) (start settings service (← present))
      return 0

end Stockroom.Main

def main (words : List String) : IO UInt32 :=
  Stockroom.Main.run words
