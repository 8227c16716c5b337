import RepoCatalog.Process.Session

/-!
# Signals

Signals by name and by number, and how processes send them to each other.
-/

namespace RepoCatalog.Signal

/-- Names of signals; the first one has number zero and stands for the end of a shell. -/
def names : List String :=
  ["EXIT", "HUP", "INT", "QUIT", "ILL", "TRAP", "ABRT", "BUS", "FPE", "KILL", "USR1", "SEGV",
    "USR2", "PIPE", "ALRM", "TERM", "STKFLT", "CHLD", "CONT", "STOP", "TSTP", "TTIN", "TTOU", "URG",
    "XCPU", "XFSZ", "VTALRM", "PROF", "WINCH", "IO", "PWR", "SYS"]

/-- Descriptions of signals, in the order of their numbers from one on. -/
def descriptions : List String :=
  ["Hangup", "Interrupt", "Quit", "Illegal instruction", "Trace/breakpoint trap", "Aborted",
    "Bus error", "Floating point exception", "Killed", "User defined signal 1",
    "Segmentation fault", "User defined signal 2", "Broken pipe", "Alarm clock", "Terminated",
    "Stack fault", "Child exited", "Continued", "Stopped (signal)", "Stopped",
    "Stopped (tty input)", "Stopped (tty output)", "Urgent I/O condition",
    "CPU time limit exceeded", "File size limit exceeded", "Virtual timer expired",
    "Profiling timer expired", "Window changed", "I/O possible", "Power failure",
    "Bad system call"]

/-- Tells that a process was killed, unless it was interrupted or had nowhere to write to. -/
def mention : Outcome → Act Unit
  | .exited _ => pure ()
  | .killed signal =>
    if signal = 2 || signal = 13 then pure ()
    else
      match descriptions[signal - 1]? with
      | some description => Act.say description
      | none => Act.say ("Unknown signal " ++ Octets.ofNat signal)

/-- Number above those of all signals. -/
def bound : Nat := 65

/-- Signal that is sent if none is named. -/
def terminate : Nat := 15

/-- Signal that no process can act on. -/
def kill : Nat := 9

/-- Signals that change nothing unless a process acts on them. -/
def harmless : List Nat := [17, 18, 23, 28]

/-- Signal that a number writes. -/
def ofNumber? (text : Octets) : Option Nat :=
  if text.isEmpty || !text.all Char.isDigit then none
  else
    match (String.ofList text).toNat? with
    | some number => if number < bound then some number else none
    | none => none

/-- Signal of a name. -/
def ofName? (text : Octets) : Option Nat :=
  names.findIdx? fun name => name.toList == text.map Char.toUpper

/-- Signal that a text names or numbers. -/
def ofText? (text : Octets) : Option Nat :=
  (ofNumber? text).or (ofName? text)

/-- Name of a signal, or else its number. -/
def name (signal : Nat) : Octets :=
  match names[signal]? with
  | some name => name
  | none => Octets.ofNat signal

/-- Whether a signal changes nothing for a process with some traps. -/
def isIgnored (signal : Nat) (traps : List (Nat × Octets)) : Bool :=
  signal = 0 || (signal ≠ kill && traps.lookup signal = some [])
    || (harmless.contains signal && (traps.lookup signal).isNone)

/-- Lets a process act on a signal as soon as it can. -/
def leaveFor (process signal : Nat) : Act Unit :=
  modify fun session => { session with signals := session.signals ++ [(process, signal)] }

/-- Sends a signal to a process, and tells whether that process exists. A process acts at once on a
signal that it sends itself, and on others after what it waits for. -/
def send (process signal : Nat) : Act Bool := do
  let session ← get
  if process = session.process.number then
    let traps := session.process.traps
    if isIgnored signal traps then return true
    else if signal ≠ kill && (traps.lookup signal).isSome then
      leaveFor process signal
      return true
    else throw (.killed process signal)
  else
    match session.ancestors.find? (·.number = process) with
    | some ancestor =>
      if !isIgnored signal ancestor.traps then leaveFor process signal
      return true
    | none =>
      match session.jobs.lookup process with
      | none => return false
      | some (.done _) => return true
      | some (.waiting ..) =>
        if signal ≠ 0 && !harmless.contains signal then
          set { session with jobs := assign process (.done (.killed signal)) session.jobs }
        return true

end RepoCatalog.Signal
