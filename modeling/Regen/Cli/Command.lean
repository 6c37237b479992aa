import Regen.Cli.Console
import Regen.Cli.Host
import Regen.Cli.Invocation
import Regen.Generation.Registry
import Regen.Generation.Script
import Regen.Template.Merge

/-!
# Commands

What each invocation does: which templates it reads, what it writes, and what it tells the user.
-/

namespace Regen.Cli

open Generation Template Text

/-- The version of the program. -/
def programVersion : String := "0.1.0"

/-- A text as a string. -/
def str (t : Text) : String := String.ofList t

/-- The digits of a number. -/
def digits (n : Nat) : Text := Nat.toDigits 10 n

/-- Names with commas between them, or a dash. -/
def namesOrDash (names : List Text) : Text :=
  match (commaJoined names).toList with
  | [] => ['-']
  | t => t

/-- The project of the working directory. -/
def currentProject? : Console (Option Project) :=
  Console.probe fun d => do Project.find? d (← d.workingDirectory)

/-- The backends that can be asked for. -/
def backends : Registry BuiltIn := (Registry.withBuiltIn builtInBackends).settle.2

variable [Host]

/-! ## Projects and templates -/

/-- The configuration of the project, or the default one where there is no project. -/
def currentConfig (project : Option Project) : Act Config :=
  match project with
  | some p => Config.load p.configPath
  | none => return {}

/-- The text of a file. -/
def readText (p : Path) : Console Text := do
  match ← Console.ask (·.read p) with
  | .error f =>
    if f.reason = .unspeakable then throw (.escaped (.fault f))
    Console.stop s!"Cannot read {p.toString}: {f.message}"
  | .ok b =>
    match decode? b with
    | some t => return t
    | none => Console.stop s!"Cannot read {p.toString}: {Cause.notText.message}"

/-- The line that tells what is wrong with a template. -/
def warningLine (template : Path) (w : Warning) : String :=
  "[yellow]" ++ str template.name ++ s!":{w.line}:[/yellow] " ++ w.message

/-- The line that tells which sections had user code and are gone. -/
def droppedLine (ids : List Text) : String :=
  "[yellow]Dropped user code for removed section(s):[/yellow] " ++ commaJoined ids

/-- The table of a template, with the user code of an existing file. -/
def loadTable (template : Path) (existing : Option Path) : Console Template.Table := do
  let table := Table.ofText (← readText template)
  table.warnings.forM fun w => Console.say (warningLine template w)
  match existing with
  | none => return table
  | some p =>
    if !(← Console.probe (·.has p)) then return table
    let merged := table.merge (← readText p)
    let orphaned := merged.report.orphaned
    if orphaned ≠ [] then Console.say (droppedLine orphaned)
    return merged.table

/-- Lifts a result of a table. -/
def sectionResult (r : Except SectionError α) : Console α :=
  Console.settle (r.mapError Failure.template)

/-- Writes the text of a table to a file. -/
def writeText (output : Path) (t : Text) : Console Unit := do
  let write : Disk.Change Unit := do
    Disk.makeDirectories output.parent
    Disk.overwrite output (encode t)
  match ← Console.attempt (Act.change .fault write) with
  | .ok () => return ()
  | .error (.fault f) =>
    if f.reason = .unspeakable then throw (.escaped (.fault f))
    Console.stop s!"Cannot write {output.toString}: {f.message}"
  | .error f => throw (.escaped f)

/-- The line that tells why an output is not recorded. -/
def unrecordedLine (words : String) : String := "[yellow]Manifest not updated:[/yellow] " ++ words

/-- The line that tells which output was written. -/
def wroteLine (output : Path) : String := "[green]Wrote[/green] " ++ output.toString

/-- Writes a table to a file and records it in the manifest of the project, if there is one. -/
def writeOutput (now : Text) (output : Path) (table : Template.Table) (template : Path) :
    Console Unit := do
  writeText output table.render
  if let some project ← currentProject? then
    let place ← Console.probe (·.resolve output)
    let record := Record.ofText now place table.render template.toText
      ((table.list true).length : Nat) table.modified (some project.root)
    match ← Console.attempt (project.record record) with
    | .ok () => pure ()
    | .error f =>
      match f.message? with
      | some words => Console.say (unrecordedLine words)
      | none => throw (.escaped f)
  Console.say (wroteLine output)

/-! ## Commands on projects -/

/-- Sets up a project in the working directory. -/
def setUp (setup : Setup) : Console Unit := do
  let project : Project := ⟨← Console.probe (·.workingDirectory)⟩
  match ← Console.attempt (project.init setup) with
  | .ok () => pure ()
  | .error f =>
    let words? : Option String :=
      match f with
      | .fault g => if g.reason = .unspeakable then none else some g.message
      | f => f.message?
    match words? with
    | some words => Console.stop s!"Failed to initialize project: {words}"
    | none => throw (.escaped f)
  Console.say s!"[green]Initialized azcfg project[/green] at {project.stateDirectory.toString}"
  Console.say "\nCreated:"
  Console.say s!"  {project.configPath.toString}"
  Console.say s!"  {project.manifestPath.toString}"
  Console.say "\nNext steps:"
  Console.say "  azcfg catalog                    List series, boards and applications"
  Console.say "  azcfg sections <template>        Show USER CODE sections of a template"

/-- Tells about a setting that is filled. -/
def saySetting (label : String) (v : Value) : Console Unit := do
  if v.isFilled then
    if v.hasLongNumber then throw (.escaped (.misfit .longNumeral))
    Console.say s!"  {label}: {v.toString}"

/-- Tells the state of a project, or that there is none. -/
def sayStatus : Option Status → Console Unit
  | none => do
    Console.say "[yellow]No azcfg project found.[/yellow] Run [bold]azcfg init[/bold] first."
    throw .told
  | some s => do
    Console.say s!"[bold]azcfg project:[/bold] {str s.root.name}"
    saySetting "Pack root" s.config.project.packRoot
    saySetting "Series" s.config.defaults.series
    saySetting "Board" s.config.defaults.board
    Console.print (.frameless [["Generated files".toList, digits s.fileCount],
      ["Edited sections".toList, digits s.modifiedSectionCount]])
    for path in s.drifted do
      Console.say s!"  [yellow]Changed on disk since generation:[/yellow] {str path}"
    if s.fileCount = 0 then
      Console.say ("\n[dim]No files generated yet. Run [bold]azcfg merge[/bold] or " ++
        "[bold]azcfg set[/bold] to write one.[/dim]")

/-- Tells the state of the project of the working directory. -/
def showStatus : Console Unit := do
  match ← currentProject? with
  | some project => sayStatus (← Console.act project.status)
  | none => sayStatus none

/-! ## Commands on the catalog -/

/-- Tells what the tree holds. -/
def saySummary (c : Catalog) : Browse Unit := do
  let s ← Browse.look c.summary
  if s.missing ≠ [] then
    Console.say
      ("[yellow]Incomplete AutoGen project, missing:[/yellow] " ++ commaJoined s.missing)
  Console.print (.frameless [["Series".toList, namesOrDash s.series],
    ["Boards".toList, namesOrDash s.boards],
    ["Middleware".toList, namesOrDash s.middleware],
    ["Applications".toList, digits s.applications.length]])

/-- Tells the boards of a series. -/
def sayBoards (c : Catalog) (series : Text) : Browse Unit := do
  Console.say s!"[bold]Boards for {str series}:[/bold]"
  for name in ← Browse.look (c.boardsOfSeries series) do
    Console.say s!"  {str name}"

/-- A description in a cell. There is a cell for code points that are no text, but none that could be
shown. -/
def descriptionCell : Value → Except Failure (Option Text)
  | .null => .ok (some [])
  | .text t => .ok (some t)
  | .broken _ => .ok none
  | _ => .error (.misfit .notShown)

/-- The row of an application, if it can be shown. -/
def applicationRow (c : Catalog) (board middleware application : Text) :
    Browse (Option (List Text)) := do
  let details ← Browse.look (c.details board application)
  let templates ← Browse.look (c.templates middleware application)
  let description? ← Console.settle (descriptionCell details.description)
  return description?.map fun description =>
    [middleware, application, description, digits templates.length]

/-- The rows of the applications of some middleware. -/
def applicationRows (c : Catalog) (board : Text) : List Text → Browse (List (Option (List Text)))
  | [] => return []
  | middleware :: rest => do
    let applications ← Browse.look (c.applicationsOf board middleware)
    let rows ← applications.mapM (applicationRow c board middleware)
    return rows ++ (← applicationRows c board rest)

/-- The columns of the table of a board. -/
def boardColumns : List Column :=
  [⟨"Middleware".toList, false⟩, ⟨"Application".toList, false⟩, ⟨"Description".toList, false⟩,
    ⟨"Templates".toList, true⟩]

/-- Rows, if all of them can be shown. -/
def shownRows (rows : List (Option (List Text))) : Except Failure (List (List Text)) :=
  match rows.mapM id with
  | some rows => .ok rows
  | none => .error (.misfit .notEncodable)

/-- Tells the middleware and the applications of a board. -/
def sayBoard (c : Catalog) (board middleware : Text) : Browse Unit := do
  let names ← if middleware ≠ [] then pure [middleware] else Browse.look (c.middleware board)
  if names = [] then Console.say s!"[yellow]No applications found for {str board}.[/yellow]"
  else
    let rows ← Console.settle (shownRows (← applicationRows c board names))
    Console.print (.framed board boardColumns rows)

/-- Browses the tree of the generator. -/
def browse (series board middleware : Text) (root : Option Path) : Console Unit := do
  let root ← match root with
    | some p => pure p
    | none => do
      let project? ← currentProject?
      let project ← match project? with
        | some project => pure project
        | none => Project.mk <$> Console.probe (·.workingDirectory)
      Console.act do project.packRoot (← currentConfig project?)
  let catalog : Catalog := ⟨root⟩
  let view : Browse Unit :=
    if board ≠ [] then sayBoard catalog board middleware
    else if series ≠ [] then sayBoards catalog series
    else saySummary catalog
  discard (view.run [])

/-! ## Commands on templates -/

/-- The row of a section. The user would not be told that the table has no entry of the id. -/
def sectionRow (table : Template.Table) (id : Text) : Console (List Text) := do
  let entry ← Console.settleSilently ((table.get id).mapError Failure.template)
  let isModified ← Console.settleSilently ((table.isModified id).mapError Failure.template)
  let (kind, first, last) : String × Nat × Nat :=
    match entry with
    | .region r => ("user code", r.first, r.last)
    | .filler _ _ first last => ("template", first, last)
    | .blank _ first last => ("template", first, last)
  return [id, kind.toList, digits (first + 1) ++ '-' :: digits last,
    if isModified then "[yellow]yes[/yellow]".toList else []]

/-- The columns of the table of a template. -/
def sectionColumns : List Column :=
  [⟨"Section".toList, false⟩, ⟨"Kind".toList, false⟩, ⟨"Lines".toList, true⟩,
    ⟨"Modified".toList, false⟩]

/-- Lists the sections of a template. -/
def listSections (template : Path) (withFillers : Bool) (existing : Option Path) :
    Console Unit := do
  let table ← loadTable template existing
  let rows ← (table.list (!withFillers)).mapM (sectionRow table)
  Console.print (.framed template.name sectionColumns rows)

/-- Prints the content of a section. -/
def printSection (template : Path) (id : Text) (existing : Option Path) : Console Unit := do
  let table ← loadTable template existing
  let content ← sectionResult (table.read id)
  Console.print (.output (content ++ ['\n']))

/-- A file that is opened for what has no encoding is left empty. -/
def spoil (output : Path) : Console Unit := do
  writeText output []
  throw (.escaped (.misfit .notEncodable))

/-- Replaces a section and writes the result. -/
def replaceSection (now : Text) (template : Path) (id : Text) (output : Path) (text : Option Body)
    (source : Option Path) : Console Unit := do
  let body ← match text, source with
    | some b, none => pure b
    | none, some p => Body.text <$> readText p
    | _, _ => Console.stop "Give exactly one of --text or --from-file"
  let table ← loadTable template (some output)
  let table ← sectionResult (table.update id body.toText)
  match body with
  | .text _ => writeOutput now output table template
  | .broken => spoil output

/-- Restores a section and writes the result. -/
def restoreSection (now : Text) (template generated : Path) (id : Text) (output : Option Path) :
    Console Unit := do
  let table ← loadTable template (some generated)
  let table ← sectionResult (table.reset id)
  writeOutput now (output.getD generated) table template

/-- Writes a template without edits, to a file or to the console. -/
def render (now : Text) (template : Path) (output : Option Path) : Console Unit := do
  let table ← loadTable template none
  match output with
  | none => Console.print (.output table.render)
  | some p => writeOutput now p table template

/-- The line that tells of how many sections the user code was kept. -/
def keptLine (n : Nat) : String := s!"Kept user code in {n} section(s)"

/-- Writes a file anew from a template with the user code that is in it. -/
def merge (now : Text) (template existing : Path) (output : Option Path) : Console Unit := do
  if !(← Console.probe (·.has existing)) then
    Console.stop s!"File not found: {existing.toString}"
  let table ← loadTable template (some existing)
  Console.say (keptLine table.modified.length)
  writeOutput now (output.getD existing) table template

/-! ## Commands on backends -/

/-- Lists the backends. -/
def listBackends : Console Unit := do
  let project? ← currentProject?
  let config ← Console.actSilently (currentConfig project?)
  let row (e : Text × Text) : List Text :=
    let isConfigured := config.generation.backend.text? = some e.1
    [e.1, e.2, if isConfigured then "[green]configured[/green]".toList else []]
  Console.print (.frameless (backends.describe.map row))

/-- The backend of a name. A name that is no text has none, and a list or a table is no name. -/
def backendOf (name : Value) : Except Failure BuiltIn :=
  match name with
  | .text t => (backends.find t).mapError .registry
  | .list _ | .table _ => .error (.misfit .notName)
  | v =>
    if v.hasLongNumber then .error (.misfit .longNumeral)
    else .error (.registry (.unknown v.toText backends.names))

/-- The configuration with the tree of the generator found from the project. -/
def configFor (project? : Option Project) : Act Config := do
  let config ← currentConfig project?
  match project? with
  | some project =>
    if !config.project.packRoot.isFilled then return config
    let root ← project.packRoot config
    return { config with project := { config.project with packRoot := .text root.toText } }
  | none => return config

/-- What comes of a call, if anything does. A result that cannot be told is a failure. -/
def endingResult : Ending → Except Failure (Option Result)
  | .result r => .ok (some r)
  | .waiting => .ok none
  | .untellable => .error (.misfit .longNumeral)

/-- Runs a request on a backend. -/
def runRequest (config : Config) (b : BuiltIn) (limit : Option Limit) (r : Request Value) :
    Console (Option Result) := do
  let own := Limit.ofValue? config.generation.limit
  match b with
  | .dryRun => Console.settle (endingResult (Service.run dryRun own limit r []).1.ending)
  | .script => do
    let path ← Console.settle (Project.pathSetting config.project.packRoot)
    let settings : ScriptSettings :=
      { interpreter := config.generation.interpreter, script := config.generation.script
        directory := ← Console.probe (·.resolve path) }
    let s ← get
    let (outcome, disk) := Service.run (scriptBackend settings) own limit r s.disk
    set { s with disk := disk }
    Console.settle (endingResult outcome.ending)

/-- Tells what came of a request. -/
def sayResult (r : Result) : Console Unit := do
  if r.success then
    Console.say s!"[green]{r.message}[/green]"
    if r.outputPath ≠ "" then Console.say s!"  Output: {r.outputPath}"
  else
    Console.say (Console.stopLine r.message)
    if r.error ≠ "" then Console.print (.plain r.error)
    throw .told

/-- Generates what the arguments ask for. -/
def generate (a : GenerationArguments) : Console Unit := do
  let project? ← currentProject?
  let (config, b) ← Console.act do
    let config ← configFor project?
    let name := if a.backend ≠ [] then .text a.backend else config.generation.backend
    return (config, ← Act.ofExcept id (backendOf name))
  let request := Request.ofConfig a.kind config {
    series := .text a.series
    board := .text a.board
    application := .text a.application
    middleware := a.middleware
    toolchain := .text a.toolchain
    outputDirectory := .text a.outputDirectory
    firmwareDirectory := .text a.firmwareDirectory }
  if let some r ← runRequest config b (a.limit.map .double) request then sayResult r

/-! ## All of them -/

/-- Does what an invocation asks for, at a time. -/
def perform (now : Text) : Invocation → Console Unit
  | .version => Console.say s!"azcfg {programVersion}"
  | .setUp setup => setUp setup
  | .showStatus => showStatus
  | .browse series board middleware root => browse series board middleware root
  | .listSections template withFillers existing => listSections template withFillers existing
  | .printSection template id existing => printSection template id existing
  | .replaceSection template id output text source =>
    replaceSection now template id output text source
  | .restoreSection template generated id output =>
    restoreSection now template generated id output
  | .render template output => render now template output
  | .merge template existing output => merge now template existing output
  | .listBackends => listBackends
  | .generate a => generate a

/-- How a command line ended. -/
structure Finish where
  exitCode : Nat
  printed : Text
  /-- The failure that the user was not told about. -/
  escaped : Option Failure
  /-- What the terminal said of what it did not show. -/
  refused : Option Refusal := none
  disk : Disk

/-- How a command ends that comes to something. -/
def Finish.ofResult (r : Except Stop Unit) (s : Session) : Finish :=
  let printed := s.printed.reverse.flatten
  match r with
  | .ok () => { exitCode := 0, printed := printed, escaped := none, disk := s.disk }
  | .error .told => { exitCode := 1, printed := printed, escaped := none, disk := s.disk }
  | .error (.escaped f) => { exitCode := 1, printed := printed, escaped := some f, disk := s.disk }
  | .error (.refused q) =>
    { exitCode := 1, printed := printed, escaped := none, refused := some q, disk := s.disk }

/-- How that ends what was asked for on a disk, at a time. -/
def finishOf (now : Text) (asked : Except Misuse Invocation) (disk : Disk) : Finish :=
  match asked with
  | .error .usage => { exitCode := 2, printed := [], escaped := none, disk := disk }
  | .error (.path p) =>
    { exitCode := 1, printed := [], escaped := some (.fault ⟨.unspeakable, p⟩), disk := disk }
  | .ok invocation =>
    let (r, s) := (ExceptT.run (perform now invocation)).run { disk := disk }
    .ofResult r s

/-- Runs a command line on a disk, at a time. -/
def runCommandLine (now : Text) (args : List Text) (disk : Disk) : Finish :=
  finishOf now (Invocation.ofArguments args) disk

end Regen.Cli
