import Regen.Posix.Lookup

/-!
# Activities

What a process does, as a function of the world and of what comes after it. An activity runs until it has
to wait, or lets others go first: then it stops as a `Next`, which holds what it does when it goes
on, and `run` takes the process whose time comes first. A process that waits tells by a question to
the world whether it can go on.
-/

namespace Regen.Posix

/-- What lets a process go on. -/
structure Pause where
  /-- The time before which it does not go on. -/
  earliest : Nat
  /-- What has to be so before it goes on. -/
  ready : World → Bool := fun _ => true
  /-- The time at which it goes on in any case. -/
  latest : Option Nat := none

/-- Where the work of a process stands. -/
inductive Next
  /-- The process has ended. -/
  | ended (w : World)
  | paused (w : World) (p : Pause) (go : World → Next)
  /-- A new process starts, and the old one goes on. -/
  | forked (w : World) (child : Nat) (start : World → Next) (go : World → Next)

/-- What a process does before something else. -/
def Activity (α : Type) := World → (α → World → Next) → Next

namespace Activity

instance : Monad Activity where
  pure a := fun w k => k a w
  bind t f := fun w k => t w fun a w => f a w k

/-- An answer about the world. -/
def ask (f : World → α) : Activity α := fun w k =>
  let a := f w
  k a w

/-- Changes the world. -/
def change (f : World → World) : Activity Unit := fun w k => k () (f w)

/-- Changes the world, with an answer. -/
def update (f : World → World × α) : Activity α := fun w k =>
  let (w, a) := f w
  k a w

/-- Lets time pass, in which others can go on. -/
def spend (microseconds : Nat) : Activity Unit := fun w k =>
  .paused w { earliest := w.now + microseconds } (k ())

/-- Waits until something is so, at most up to a time. -/
def await (ready : World → Bool) (latest : Option Nat := none) : Activity Unit := fun w k =>
  if ready w then k () w
  else .paused w { earliest := w.now, ready := ready, latest := latest } (k ())

/-- Ends the process. -/
def finish (ending : Ending) : Activity α := fun w _ => .ended (w.finish w.current ending)

/-- Does nothing more, because the process has ended or will never go on. -/
def rest : Activity α := fun w _ => .paused w { earliest := w.now, ready := fun _ => false } .ended

/-! ## Times -/

/-- The microseconds that a process needs to start another one. -/
def forkTime : Nat := 120

/-- The microseconds after which a new process goes on. -/
def startDelay : Nat := 150

/-- The microseconds that a program needs to start. -/
def execTime : Nat := 600

/-- The microseconds that a command of a shell needs. -/
def commandTime : Nat := 3

/-- The microseconds after which a process that waited goes on. -/
def wakeDelay : Nat := 40

/-! ## Processes -/

/-- Adds a process like the one that runs, and gives its number. -/
def addChild (w : World) : World × Nat :=
  let p := w.self
  let w := p.files.foldl (fun w f => w.hold f.2) w
  ({ w with processes := w.processes.push { p with parent := w.current, pending := [] } },
    firstProcess + w.processes.size)

/-- Starts a process. -/
def fork (body : Activity Unit) : Activity Nat := fun w k =>
  let (w, pid) := addChild w
  .forked w pid (fun w => body w fun _ w => .ended (w.finish w.current (.exited 0))) (k pid)

/-- Sends a signal to a process. -/
def signal (pid : Nat) (s : Signal) : Activity Unit := fun w k =>
  let w := w.signal pid s
  if (w.process w.current).ending.isSome then .ended w else k () w

end Activity

/-! ## Running processes -/

/-- A process that is to go on. -/
structure Thread where
  pid : Nat
  pause : Pause
  /-- It has been found waiting. -/
  waits : Bool := false
  go : World → Next

namespace Thread

/-- What a thread waits for has come. -/
def isReady (w : World) (t : Thread) : Bool := t.pause.ready { w with current := t.pid }

/-- When a thread can go on, if it can. -/
def time? (w : World) (t : Thread) : Option Nat :=
  if (w.process t.pid).isStopped then none
  else if t.isReady w then some (max t.pause.earliest w.now)
  else t.pause.latest.map (max · w.now)

/-- The thread with the time counted at which it was found ready or waiting. -/
def look (w : World) (t : Thread) : Thread :=
  if t.isReady w then
    if t.waits then
      { t with
        waits := false
        pause := { t.pause with earliest := max t.pause.earliest (w.now + Activity.wakeDelay) } }
    else t
  else { t with waits := true }

/-- The earliest of some threads that can go on, with its time, and the others. -/
def earliest? (w : World) : List Thread → Option (Nat × Thread × List Thread)
  | [] => none
  | t :: ts =>
    match t.time? w, earliest? w ts with
    | none, none => none
    | none, some (time, u, rest) => some (time, u, t :: rest)
    | some time, none => some (time, t, ts)
    | some time, some (other, u, rest) =>
      if time ≤ other then some (time, t, ts) else some (other, u, t :: rest)

end Thread

/-- A system at rest or at work. -/
structure Machine where
  world : World
  threads : List Thread

namespace Machine

/-- Somebody can still write to the outside. -/
def isHeard (m : Machine) : Bool :=
  m.world.descriptions.any fun d =>
    d.holders ≠ 0 && match d.source with
      | .collected _ => true
      | _ => false

/-- The thread goes on. -/
def step (m : Machine) (time : Nat) (t : Thread) (others : List Thread) : Machine :=
  let w := { m.world with now := time, current := t.pid }
  let alive (w : World) (ts : List Thread) : List Thread :=
    ts.filter fun t => (w.process t.pid).ending.isNone
  match t.go w with
  | .ended w => ⟨w, (alive w others).map (·.look w)⟩
  | .paused w p go => ⟨w, (alive w (others ++ [{ pid := t.pid, pause := p, go := go }])).map (·.look w)⟩
  | .forked w child start go =>
    let mine : Thread := { pid := t.pid, pause := { earliest := w.now + Activity.forkTime }, go := go }
    let its : Thread :=
      { pid := child, pause := { earliest := w.now + Activity.startDelay }, go := start }
    ⟨w, (alive w (others ++ [mine, its])).map (·.look w)⟩

/-- Runs until no thread can go on, or the next one would go on after a time, or nobody is heard any
more. -/
def run (until? : Option Nat) (stop : Machine → Bool) : Nat → Machine → Machine
  | 0, m => m
  | fuel + 1, m =>
    if stop m then m
    else
      match Thread.earliest? m.world m.threads with
      | none => m
      | some (time, t, others) =>
        if until?.any (· < time) then m else run until? stop fuel (m.step time t others)

end Machine

end Regen.Posix
