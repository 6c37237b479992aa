import Regen.Text.Blank

/-!
# Paths

Paths with slashes as separators, taken apart without looking at any file. Empty parts and single
dots vanish when a path is read, two dots stay, and a path that starts with exactly two slashes
keeps both. Joining an absolute path replaces what came before. The empty path is written as a dot.
-/

namespace Regen

open Text

/-- Where a path starts. -/
inductive Anchor
  /-- At a directory that the path does not name. -/
  | relative
  /-- At the root. -/
  | root
  /-- At the root, written with two slashes. -/
  | doubleRoot
  deriving Repr, DecidableEq

/-- The slashes that a path starts with. -/
def Anchor.slashes : Anchor → Text
  | relative => []
  | root => ['/']
  | doubleRoot => ['/', '/']

/-- A path, as its parts. -/
structure Path where
  anchor : Anchor
  parts : List Text
  deriving Repr, DecidableEq

namespace Path

/-- Cuts a text at its slashes. -/
def split (t : Text) : List Text :=
  t.foldr (fun c ps =>
    if c = '/' then [] :: ps
    else match ps with
      | [] => [[c]]
      | p :: ps => (c :: p) :: ps) [[]]

/-- A part that a path keeps. -/
def isPart (p : Text) : Bool := p ≠ [] && p ≠ ['.']

/-- Reads a path. -/
def ofText (t : Text) : Path :=
  let slashes := (t.takeWhile (· = '/')).length
  { anchor := if slashes = 0 then .relative else if slashes = 2 then .doubleRoot else .root
    parts := (split t).filter isPart }

/-- Reads a path from a string. -/
def ofString (s : String) : Path := ofText s.toList

/-- The parts with slashes between them. -/
def joined : List Text → Text
  | [] => []
  | [p] => p
  | p :: ps => p ++ '/' :: joined ps

/-- Writes a path. -/
def toText (p : Path) : Text :=
  match p.anchor, p.parts with
  | .relative, [] => ['.']
  | a, ps => a.slashes ++ joined ps

/-- Writes a path as a string. -/
def toString (p : Path) : String := String.ofList p.toText

/-- No part holds a zero character, so there may be something under the path. -/
def isSpeakable (p : Path) : Bool := !p.parts.any (·.contains '\x00')

/-- The path does not hang on the working directory. -/
def isAbsolute (p : Path) : Bool := p.anchor ≠ .relative

/-- The second path, read from the first one on. -/
def join (p q : Path) : Path := if q.isAbsolute then q else { p with parts := p.parts ++ q.parts }

/-- The path to something below. -/
def child (p : Path) (t : Text) : Path := p.join (ofText t)

/-- The path without its last part. -/
def parent (p : Path) : Path := { p with parts := p.parts.dropLast }

/-- The last part. -/
def name (p : Path) : Text := p.parts.getLast?.getD []

/-- The name cut before its last dot; a dot at either end of the name does not count. -/
def splitName (name : Text) : Text × Text :=
  let ending := name.reverse.takeWhile (· ≠ '.')
  let start := name.dropLast.length - ending.length
  if ending ≠ [] ∧ ending.length < name.length ∧ start ≠ 0 then
    (name.take start, name.drop start)
  else (name, [])

/-- The name without its suffix. -/
def stem (p : Path) : Text := (splitName p.name).1

/-- The end of the name from its last dot on. -/
def suffix (p : Path) : Text := (splitName p.name).2

/-- What has to be joined to `base` to reach the path, if the path starts with `base`. -/
def relativeTo? (p base : Path) : Option Path :=
  if p.anchor = base.anchor && base.parts.isPrefixOf p.parts then
    some ⟨.relative, p.parts.drop base.parts.length⟩
  else none

/-- Walks along parts from a place below the root; two dots go up, and at the root they stay. -/
def follow (place : List Text) : List Text → List Text
  | [] => place
  | p :: ps => follow (if p = ['.', '.'] then place.dropLast else place ++ [p]) ps

/-- The path of a place below the root. -/
def ofPlace (place : List Text) : Path := ⟨.root, place⟩

example : toString (ofString "a//b/./c") = "a/b/c" := by decide
example : (toString (ofString "//a"), toString (ofString "///a")) = ("//a", "/a") := by decide
example : (splitName "main.c.j2".toList) = ("main.c".toList, ".j2".toList) := by decide
example : (splitName ".j2".toList) = (".j2".toList, []) := by decide
example : (splitName "a.".toList) = ("a.".toList, []) := by decide

/-- Joining an absolute path forgets the first path. -/
@[simp] theorem join_of_isAbsolute {p q : Path} (h : q.isAbsolute = true) : p.join q = q := by
  simp [join, h]

/-- What lies below a path is relative to it. -/
theorem relativeTo?_join {p q : Path} (h : q.isAbsolute = false) :
    (p.join q).relativeTo? p = some ⟨.relative, q.parts⟩ := by
  simp [join, h, relativeTo?]

end Path

end Regen
