import Regen.Shell.Lexeme

/-!
# The grammar of a script

How tokens make commands. A script is read one complete command at a time, so what a command does,
such as to set an alias, can count for the text after it. Each function has a bound for how deep
reading goes.
-/

namespace Regen.Shell

open Parse

/-- The names of commands that no function may have. -/
def specialBuiltins : List String :=
  [":", ".", "break", "continue", "eval", "exec", "exit", "export", "readonly", "return", "set",
    "shift", "times", "trap", "unset"]

/-- Two commands, one after the other. -/
def Command.after (second : Command) : Command → Command
  | .nothing => second
  | first => .sequence first second

/-- The command that runs while the shell goes on. -/
def Command.inBackground : Command → Command
  | .pipeline commands _ => .pipeline commands true
  | .redirected line c redirects => .background line c redirects
  | c => .background 0 c []

/-- A command with redirections. -/
def Command.withRedirects (line : Nat) (redirects : List Redirect) (c : Command) : Command :=
  match redirects, c with
  | [], c => c
  | _, .subshell line c _ => .subshell line c redirects
  | _, c => .redirected line c redirects

/-- What a simple command is made of, latest first. -/
structure Pieces where
  assignments : List Word := []
  words : List Word := []
  redirects : List Redirect := []

/-- The command of some pieces. -/
def Pieces.command (line : Nat) (p : Pieces) : Command :=
  .simple line p.assignments.reverse p.words.reverse p.redirects.reverse

mutual

/-- Reads a token, with what is looked for in it. -/
def readToken : Nat → Parse Token
  | 0 => fail "script too deep"
  | fuel + 1 => do
    let t ← tokenFor fuel (← get).checks
    modify fun r => { r with last := t }
    return t

/-- Reads a token in which something is looked for. -/
def tokenFor : Nat → Checks → Parse Token
  | 0, _ => fail "script too deep"
  | fuel + 1, checks => do
    let t ← nextLexeme fuel
    let t ← if checks.newlines then skipNewlines fuel t else pure t
    let checks := checks.or (← get).checks
    expectNext {}
    let r ← get
    if t ≠ .word ∨ r.wasQuoted then return t
    match literal? r.word with
    | none => return t
    | some text =>
      if checks.keywords ∧ keywords.contains (String.ofList text) then
        return .keyword (String.ofList text)
      else if checks.aliases ∧ !r.layers.any (·.aliasName = text) then
        match r.aliases.get? text with
        | none => return t
        | some [] => tokenFor fuel checks
        | some value => do
          let endsBlank := value.getLast?.any fun c => c = ' ' || c = '\t'
          modify fun r => { r with layers := ⟨value, text, endsBlank⟩ :: r.layers }
          tokenFor fuel checks
      else return t

/-- The last token once more, or the next one. -/
def nextLexeme : Nat → Parse Token
  | 0 => fail "script too deep"
  | fuel + 1 => do
    let r ← get
    if r.isPushedBack then
      set { r with isPushedBack := false }
      return r.last
    else readLexeme (inner fuel) scriptLimit

/-- Skips the ends of lines, with the here-documents after them. -/
def skipNewlines : Nat → Token → Parse Token
  | 0, _ => fail "script too deep"
  | fuel + 1, t => do
    if t = .newline then
      readDocuments (inner fuel)
      expectNext {}
      skipNewlines fuel (← nextLexeme fuel)
    else return t

/-- What the grammar reads inside a word. Here-documents that did not come before the end of a command
in parentheses are empty. -/
def inner : Nat → Inner
  | 0 => ⟨fail "script too deep", fail "script too deep"⟩
  | fuel + 1 =>
    { closed := do
        let r ← get
        set { r with awaited := [] }
        let c ← readList fuel false true
        if (← readToken fuel) ≠ .closeParen then unexpected (some .closeParen)
        modify fun s => { s with awaited := r.awaited }
        return c
      whole := readList fuel false true }

/-- Reads commands. On a single line they end with it; otherwise they end where no command can
start, which the first command may do only if the list may be empty. -/
def readList : Nat → Bool → Bool → Parse Command
  | 0, _, _ => fail "script too deep"
  | fuel + 1, isLine, mayBeEmpty => do readMore fuel isLine mayBeEmpty .nothing

/-- Reads commands after others. -/
def readMore : Nat → Bool → Bool → Command → Parse Command
  | 0, _, _, _ => fail "script too deep"
  | fuel + 1, isLine, canEnd, first => do
    expectNext { Checks.command with newlines := !isLine }
    let t ← readToken fuel
    if t = .newline then
      readDocuments (inner fuel)
      return first
    else if t = .endOfFile then
      readDocuments (inner fuel)
      pushBack
      modify fun r => { r with last := .endOfFile }
      return first
    else
      pushBack
      if !isLine ∧ canEnd ∧ t.endsList then return first
      let c ← readAndOr fuel
      let t ← readToken fuel
      let all := Command.after (if t = .ampersand then c.inBackground else c) first
      match t with
      | .endOfFile =>
        readDocuments (inner fuel)
        pushBack
        modify fun r => { r with last := .endOfFile }
        return all
      | .newline => do
        pushBack
        readMore fuel isLine true all
      | .ampersand | .semicolon => readMore fuel isLine true all
      | _ => do
        if isLine then unexpected none
        pushBack
        return all

/-- Reads commands with conditions between them. -/
def readAndOr : Nat → Parse Command
  | 0 => fail "script too deep"
  | fuel + 1 => do
    let c ← readPipeline fuel
    readOthers fuel c

/-- Reads the conditions after a command. -/
def readOthers : Nat → Command → Parse Command
  | 0, _ => fail "script too deep"
  | fuel + 1, first => do
    let t ← readToken fuel
    if t = .andIf ∨ t = .orIf then
      expectNext .command
      let second ← readPipeline fuel
      readOthers fuel (if t = .andIf then .both first second else .either first second)
    else
      pushBack
      return first

/-- Reads commands with pipes between them, and what turns their status around. -/
def readPipeline : Nat → Parse Command
  | 0 => fail "script too deep"
  | fuel + 1 => do
    let isNegated := (← readToken fuel) = .keyword "!"
    if isNegated then expectNext { keywords := true, aliases := true } else pushBack
    let c ← readCommand fuel
    let rest ← readPipes fuel
    let c := if rest.isEmpty then c else .pipeline (c :: rest) false
    return if isNegated then .negation c else c

/-- Reads the commands after pipes. -/
def readPipes : Nat → Parse (List Command)
  | 0 => fail "script too deep"
  | fuel + 1 => do
    if (← readToken fuel) = .bar then
      expectNext .command
      let c ← readCommand fuel
      return c :: (← readPipes fuel)
    else
      pushBack
      return []

/-- Reads a command. -/
def readCommand : Nat → Parse Command
  | 0 => fail "script too deep"
  | fuel + 1 => do
    let line := (← get).line
    let t ← readToken fuel
    let closed (c : Command) (wanted : Token) : Parse Command := do
      if (← readToken fuel) ≠ wanted then unexpected (some wanted)
      return c
    let wanted (name : String) : Parse Unit := do
      if (← readToken fuel) ≠ .keyword name then unexpected (some (.keyword name))
    let compound (c : Command) : Parse Command := do
      expectNext { keywords := true, aliases := true }
      return c.withRedirects line (← readRedirects fuel)
    match t with
    | .word | .redirection => do
      pushBack
      readSimple fuel line {} true
    | .openParen => do
      let c ← readList fuel false false
      compound (← closed (.subshell line c []) .closeParen)
    | .keyword "if" => do
      let test ← readList fuel false false
      wanted "then"
      let first ← readList fuel false false
      let second ← readElse fuel
      compound (← closed (.choice test first second) (.keyword "fi"))
    | .keyword "while" | .keyword "until" => do
      let test ← readList fuel false false
      wanted "do"
      let body ← readList fuel false false
      compound (← closed (.loop (t = .keyword "until") test body) (.keyword "done"))
    | .keyword "for" => do
      let t ← readToken fuel
      let r ← get
      let name := ((literal? r.word).filter isName).getD []
      if t ≠ .word ∨ r.wasQuoted ∨ name = [] then fail "Bad for loop variable"
      expectNext .command
      let t ← readToken fuel
      let words ←
        if t = .keyword "in" then do
          let words ← readWords fuel
          let last := (← get).last
          if last ≠ .newline ∧ last ≠ .semicolon then unexpected none
          pure words
        else do
          if t ≠ .semicolon then pushBack
          pure [allArguments]
      expectNext .command
      wanted "do"
      let body ← readList fuel false false
      compound (← closed (.forEach line name words body) (.keyword "done"))
    | .keyword "case" => do
      if (← readToken fuel) ≠ .word then unexpected (some .word)
      let word := (← get).word
      expectNext .command
      wanted "in"
      let branches ← readBranches fuel
      compound (.select line word branches)
    | .keyword "\x7b" => do
      let c ← readList fuel false false
      compound (← closed c (.keyword "\x7d"))
    | _ => unexpected none

/-- Reads what is done if a test fails. -/
def readElse : Nat → Parse Command
  | 0 => fail "script too deep"
  | fuel + 1 => do
    match ← readToken fuel with
    | .keyword "elif" => do
      let test ← readList fuel false false
      if (← readToken fuel) ≠ .keyword "then" then unexpected (some (.keyword "then"))
      let first ← readList fuel false false
      return .choice test first (← readElse fuel)
    | .keyword "else" => readList fuel false false
    | _ => do
      pushBack
      return .nothing

/-- Reads words as long as there are any. -/
def readWords : Nat → Parse (List Word)
  | 0 => fail "script too deep"
  | fuel + 1 => do
    if (← readToken fuel) = .word then
      let w := (← get).word
      return w :: (← readWords fuel)
    else return []

/-- Reads the branches of a selection, up to its end. -/
def readBranches : Nat → Parse (List Branch)
  | 0 => fail "script too deep"
  | fuel + 1 => do
    expectNext { newlines := true, keywords := true }
    let t ← readToken fuel
    if t = .keyword "esac" then return []
    if t = .openParen then discard (readToken fuel)
    let patterns ← readPatterns fuel
    if (← get).last ≠ .closeParen then unexpected (some .closeParen)
    let body ← readList fuel false true
    expectNext { newlines := true, keywords := true }
    let t ← readToken fuel
    if t = .keyword "esac" then return [.mk patterns body]
    else if t ≠ .endOfBranch then unexpected (some .endOfBranch)
    else return .mk patterns body :: (← readBranches fuel)

/-- Reads the patterns of a branch, the first of which was read already. -/
def readPatterns : Nat → Parse (List Word)
  | 0 => fail "script too deep"
  | fuel + 1 => do
    let w := (← get).word
    if (← readToken fuel) = .bar then
      discard (readToken fuel)
      return w :: (← readPatterns fuel)
    else return [w]

/-- Reads redirections. -/
def readRedirects : Nat → Parse (List Redirect)
  | 0 => fail "script too deep"
  | fuel + 1 => do
    if (← readToken fuel) = .redirection then
      let r ← readTarget fuel
      return r :: (← readRedirects fuel)
    else
      pushBack
      return []

/-- Reads the word of a redirection after its arrow. -/
def readTarget : Nat → Parse Redirect
  | 0 => fail "script too deep"
  | fuel + 1 => do
    let r ← get
    if let .document _ := r.arrow then expectNext { isEndMark := true }
    if (← readToken fuel) ≠ .word then unexpected none
    let s ← get
    match r.arrow with
    | .file direction => return .file r.number direction s.word
    | .copy => return .copy r.number s.word
    | .document stripsTabs => do
      let id := s.documents.size
      let a : Awaited := ⟨id, unquoted s.word, stripsTabs, !s.wasQuoted⟩
      set { s with awaited := s.awaited ++ [a], documents := s.documents.push ⟨[], false⟩ }
      return .document r.number id

/-- Reads a simple command, or a function. Up to its first word, words can be assignments and
aliases. -/
def readSimple : Nat → Nat → Pieces → Bool → Parse Command
  | 0, _, _, _ => fail "script too deep"
  | fuel + 1, line, p, isStart => do
    expectNext { aliases := isStart }
    let done : Parse Command := do
      pushBack
      return p.command line
    match ← readToken fuel with
    | .word => do
      let w := (← get).word
      if isStart && isAssignment w then
        readSimple fuel line { p with assignments := w :: p.assignments } true
      else readSimple fuel line { p with words := w :: p.words } false
    | .redirection => do
      let r ← readTarget fuel
      readSimple fuel line { p with redirects := r :: p.redirects } isStart
    | .openParen =>
      match p with
      | ⟨[], [w], []⟩ => do
        if (← readToken fuel) ≠ .closeParen then unexpected (some .closeParen)
        let name := ((literal? w).filter isName).getD []
        if name = [] ∨ specialBuiltins.contains (String.ofList name) then fail "Bad function name"
        expectNext .command
        let line := (← get).line
        return .define line name (← readCommand fuel)
      | _ => done
    | _ => done

end

/-- The bound for how deep reading goes. -/
def depthLimit : Nat := 1000000000000

/-- Reads the next complete command; there is none at the end of the text. -/
def Parse.command? : Parse (Option Command) := do
  modify fun r => { r with isPushedBack := false, checks := {}, awaited := [] }
  let c ← readList depthLimit true false
  let r ← get
  match c with
  | .nothing => return if r.isPushedBack ∧ r.last = .endOfFile then none else some .nothing
  | c => return some c

end Regen.Shell
