import Regen.Posix.Mode
import Regen.Shell.Builtin.Options

/-!
# Commands about the surroundings

The commands of a shell about the working directory, the mask of new files, and limits. The working
directory is kept as it was walked, so two dots lead back over a link.
-/

namespace Regen.Shell

open Text Posix

/-- The path from the root that is meant by one from a directory. Two dots take a name away. -/
def walkedPath (here path : Text) : Text :=
  let isAbsolute := path.head? = some '/'
  let isDouble (t : Text) : Bool := (t.takeWhile (· = '/')).length = 2
  let start : List Text := if isAbsolute then [] else (splitAt (· = '/') here).filter (· ≠ [])
  let walked := (splitAt (· = '/') path).foldl (fun (p : List Text) part =>
    if part = [] ∨ part = ['.'] then p
    else if part = ['.', '.'] then p.dropLast
    else p ++ [part]) start
  let slashes := if isDouble (if isAbsolute then path else here) then ['/', '/'] else ['/']
  slashes ++ ['/'].intercalate walked

/-- Makes a directory the working directory. -/
def enterDirectory (isPhysical : Bool) (path : Text) : Run Bool := do
  let s ← get
  let target := if isPhysical then path else walkedPath s.here path
  match ← Run.call (Call.enter target) with
  | .error _ => return false
  | .ok () =>
    let here ← if isPhysical then Run.act Call.here else pure target
    setVariable "OLDPWD".toList s.here true
    modify fun s => { s with here := here, found := [] }
    setVariable "PWD".toList here true
    return true

/-- The path is looked for from the working directory only. -/
def startsWithDots : Text → Bool
  | '.' :: '.' :: '/' :: _ | ['.', '.'] | '.' :: '/' :: _ | ['.'] => true
  | _ => false

/-- Goes to a directory. -/
def changeDirectory (args : List Text) : Run Nat := do
  let (options, args) ← takeOptions "LP" args
  let isPhysical := options.getLast?.any (·.1 = 'P')
  let s ← get
  let (path, isBack) :=
    match args with
    | [] => ((s.valueOf? "HOME".toList).getD [], false)
    | ['-'] :: _ => ((s.valueOf? "OLDPWD".toList).getD [], true)
    | p :: _ => (p, false)
  let direct (path : Text) (tells : Bool) : Run Nat := do
    if ← enterDirectory isPhysical path then
      if tells then printLine (← get).here
      return 0
    else fail s!"can't cd to {str path}"
  if path.head? = some '/' ∨ startsWithDots path then direct path isBack
  else
    let path := if path = [] then ['.'] else path
    let candidates := (splitAt (· = ':') ((s.valueOf? "CDPATH".toList).getD [])).map fun d =>
      (d, if d = [] then path else d ++ '/' :: path)
    let found ← Run.see fun w =>
      candidates.find? fun (_, p) => (w.status p true).toOption.any (·.isDirectory)
    match found with
    | some (d, p) => direct p (isBack || d ≠ [])
    | none => direct path isBack

/-- Tells the working directory. -/
def tellDirectory (args : List Text) : Run Nat := do
  let (options, _) ← takeOptions "LP" args
  if options.getLast?.any (·.1 = 'P') then printLine (← Run.act Call.here)
  else printLine (← get).here
  return 0

/-- Tells or sets which rights new files do not get. -/
def changeMask (args : List Text) : Run Nat := do
  let (options, args) ← takeOptions "S" args
  let mask ← Run.see fun w => w.self.mask
  let set (mask : Nat) : Run Nat := do
    Run.act (Activity.change (·.modifySelf fun p => { p with mask := mask }))
    return 0
  match args with
  | [] => do
    if options ≠ [] then
      let own (shift : Nat) : Text := rightsText (((511 ^^^ mask) / shift) &&& 7)
      printLine ("u=".toList ++ own 64 ++ ",g=".toList ++ own 8 ++ ",o=".toList ++ own 1)
    else printLine (octalText 4 mask)
    return 0
  | a :: _ =>
    if a.head?.any Char.isDigit then
      if a.all fun c => '0' ≤ c ∧ c ≤ '7' then
        set ((a.foldl (fun n c => 8 * n + (c.toNat - 0x30)) 0) &&& 511)
      else failNumber a
    else
      match ModeChange.ofText? a with
      | some c => set (511 ^^^ (c.apply false 0 (511 ^^^ mask) &&& 511))
      | none => fail s!"Illegal mode: {str a}"

/-- Tells how much of something a process may use: as much as there is. -/
def tellLimits (args : List Text) : Run Nat := do
  if args.any (· = "-n".toList) then printLine "1048576".toList
  else if args.any (· = "-s".toList) then printLine "8192".toList
  else if args.all fun a => a.head? = some '-' then printLine "unlimited".toList
  return 0

/-- Tells how long processes worked. -/
def tellTimes (_ : List Text) : Run Nat := do
  let line := "0m0.000000s 0m0.000000s".toList
  printLine line
  printLine line
  return 0

end Regen.Shell
