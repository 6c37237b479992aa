/-!
# Signals

The signals by their numbers, with their names and what is printed of a process that one of them
ended.
-/

namespace Regen.Posix

/-- A signal, by its number. -/
abbrev Signal := Nat

namespace Signal

/-- The names of the signals from number one on, and what is said of a process that they end. -/
def table : List (String × String) := [
  ("HUP", "Hangup"), ("INT", "Interrupt"), ("QUIT", "Quit"), ("ILL", "Illegal instruction"),
  ("TRAP", "Trace/breakpoint trap"), ("ABRT", "Aborted"), ("BUS", "Bus error"),
  ("FPE", "Floating point exception"), ("KILL", "Killed"), ("USR1", "User defined signal 1"),
  ("SEGV", "Segmentation fault"), ("USR2", "User defined signal 2"), ("PIPE", "Broken pipe"),
  ("ALRM", "Alarm clock"), ("TERM", "Terminated"), ("STKFLT", "Stack fault"),
  ("CHLD", "Child exited"), ("CONT", "Continued"), ("STOP", "Stopped (signal)"),
  ("TSTP", "Stopped"), ("TTIN", "Stopped (tty input)"), ("TTOU", "Stopped (tty output)"),
  ("URG", "Urgent I/O condition"), ("XCPU", "CPU time limit exceeded"),
  ("XFSZ", "File size limit exceeded"), ("VTALRM", "Virtual timer expired"),
  ("PROF", "Profiling timer expired"), ("WINCH", "Window changed"), ("POLL", "I/O possible"),
  ("PWR", "Power failure"), ("SYS", "Bad system call")]

def int : Signal := 2
def kill : Signal := 9
def segv : Signal := 11
def pipe : Signal := 13
def term : Signal := 15
def child : Signal := 17
def continued : Signal := 18
def stop : Signal := 19

/-- One more than the greatest number of a signal. -/
def count : Nat := 65

/-- The name of a signal. -/
def name (s : Signal) : String :=
  match table[s - 1]? with
  | some (name, _) => if s = 0 then "EXIT" else name
  | none =>
    if s = 34 then "RTMIN"
    else if s = 64 then "RTMAX"
    else if 34 < s ∧ s < 50 then s!"RTMIN+{s - 34}"
    else if 50 ≤ s ∧ s < 64 then s!"RTMAX-{64 - s}"
    else toString s

/-- The signal of a name, in letters of either case. -/
def ofName? (t : List Char) : Option Signal :=
  let wanted := String.ofList (t.map Char.toUpper)
  (List.range count).find? fun s => name s = wanted

/-- What is said of a process that the signal ended. -/
def notice (s : Signal) : String :=
  match table[s - 1]? with
  | some (_, words) => words
  | none => s!"Unknown signal {s}"

/-- The signal does nothing where no one asked for more. -/
def isHarmless (s : Signal) : Bool := s = 17 || s = 18 || s = 23 || s = 28

/-- The signal stops a process. -/
def isStop (s : Signal) : Bool := 19 ≤ s && s ≤ 22

end Signal

end Regen.Posix
