import CallSites.Program.Site
import CallSites.SiteFile

/-!
# The report

Site files are resolved one after the other on one platform, each in a container of its own.  The
report has a section for every file, with the outcome of each site and the totals of the file, and
a closing section with the callable types synthesized for each unit.

An operation that the platform does not support is reported and skipped.  Any other failure ends
the run: the report then stops where it had come to, and says why.
-/

namespace CallSites

/-! ## Lines -/

/-- A line of a report. -/
inductive Line where
  /-- The container and the unit of a file. -/
  | container (name unit : String)
  /-- A site whose operation the platform does not support. -/
  | unsupported (index : Nat) (reason : String)
  /-- The cell that such a site leaves behind. -/
  | stranded (cell type : String)
  /-- The cell of a resolved site. -/
  | site (cell type : String)
  | shape (text : String)
  /-- The positions of the parameters passed by reference. -/
  | byRef (positions : List Nat)
  | callable (type : String)
  | cells (allocated resolved : Nat)
  | tally (t : Tally)
  /-- The heading of the static initializer. -/
  | initializer
  | instr (text : String)
  /-- The numbers of callable types and instances of a unit. -/
  | unit (name : String) (types instances : Nat)
  /-- A callable type synthesized for a unit. -/
  | definition (name : String)
deriving DecidableEq

/-- The line as it is written. -/
def Line.text : Line → String
  | .container name owner => "container " ++ name ++ " (unit " ++ owner ++ ")"
  | .unsupported i reason =>
    "  site " ++ toString i ++ ": unsupported dynamic operation: " ++ reason
  | .stranded cell type => "    cell " ++ cell ++ " left with type " ++ type
  | .site cell type => "  " ++ cell ++ " " ++ type
  | .shape text => "    shape: " ++ text
  | .byRef positions => "    by ref: [" ++ Text.joinWith toString " " positions ++ "]"
  | .callable type => "    callable: " ++ type
  | .cells allocated resolved =>
    "  cells: " ++ toString allocated ++ " allocated, " ++ toString resolved ++ " resolved"
  | .tally t =>
    "  resolved: " ++ toString t.fastPath ++ " fast path, " ++ toString t.synthesized ++
      " synthesized, " ++ toString t.reused ++ " reused"
  | .initializer => "  static initializer:"
  | .instr text => "    " ++ text
  | .unit name types instances =>
    "unit " ++ name ++ ": " ++ toString types ++ " synthesized types, " ++ toString instances ++
      " instances"
  | .definition name => "  " ++ name

/-! ## Writing while resolving -/

/-- What has been resolved and written so far. -/
structure Progress where
  store : Store
  /-- The lines written, oldest first. -/
  lines : List Line := []

/-- Operations that resolve sites and write lines.  What has been written before a failure
stays. -/
abbrev ReportM := ExceptT Failure (StateM Progress)

namespace ReportM

/-- Writes lines. -/
def write (lines : List Line) : ReportM Unit := modify fun p => { p with lines := p.lines ++ lines }

/-- Runs an operation on the store and answers with its outcome. -/
def attempt {α : Type} (x : StoreM α) : ReportM (Except Failure α) := do
  let p ← get
  let (r, s) := x.run p.store
  set { p with store := s }
  pure r

/-- Runs an operation on the store; its failure ends the run. -/
def perform {α : Type} (x : StoreM α) : ReportM α := do
  match ← attempt x with
  | .ok a => pure a
  | .error f => throw f

/-- The store. -/
def store : ReportM Store := do pure (← get).store

end ReportM

/-- The failure says that the platform does not support the operation. -/
def Failure.isUnsupported : Failure → Bool
  | .error e => e.isUnsupported
  | _ => false

namespace Report

open ReportM

/-- The lines of a resolved site. -/
def siteLines (site : Site) (s : Store) : List Line :=
  [.site site.cell.name (typeText (s.fieldType site.place)), .shape site.shape.text] ++
  (if site.shape.hasByRef then [.byRef site.shape.byRefs.indices] else []) ++
  [.callable site.callable.text]

/-- Creates the cell of a site in the static initializer. -/
def bootstrapSite (p : Platform) (site : Site) : ReportM Unit := do
  match p.binder with
  | .error e => throw (.error e)
  | .ok binder => perform (site.bootstrap (some binder))

/-- Resolves a site whose cell has been allocated. -/
def resolveBuilder (p : Platform) (i : Nat) (spec : SiteSpec) (b : SiteBuilder) (ops : Operands) :
    ReportM Unit := do
  match ← attempt (b.resolveOperands ops) with
  | .error f =>
    if f.isUnsupported then
      let s ← store
      write [.unsupported i f.message, .stranded b.cell.name (typeText (s.fieldType b.cell.field))]
    else throw f
  | .ok site =>
    write (siteLines site (← store))
    if spec.bootstrap then bootstrapSite p site

/-- Resolves the site at a position of its file. -/
def resolveSite (p : Platform) (factory : SiteFactory) (i : Nat) (spec : SiteSpec) :
    ReportM Unit := do
  match spec.operands p.lookup with
  | .error e => throw (.error (.context ("site " ++ toString i ++ ": ") e))
  | .ok ops =>
    match ← attempt (factory.beginSite spec.hint) with
    | .error f => if f.isUnsupported then write [.unsupported i f.message] else throw f
    | .ok b => resolveBuilder p i spec b ops

/-- Resolves sites in order, the first of them standing at a given position. -/
def resolveSites (p : Platform) (factory : SiteFactory) : Nat → List SiteSpec → ReportM Unit
  | _, [] => pure ()
  | i, spec :: specs => do
    resolveSite p factory i spec
    resolveSites p factory (i + 1) specs

/-- The totals of a file. -/
def totals (factory : SiteFactory) (s : Store) : List Line :=
  let code := s.initializer factory.container
  [.cells (s.allocated factory.cells) (s.factorySites factory).length,
   .tally (s.tally factory.synthesizer)] ++
  (if code.isEmpty then [] else .initializer :: code.map fun i => .instr i.text)

/-- Resolves all sites of a file. -/
def resolveFile (p : Platform) (units : UnitTable) (file : SiteFile) : ReportM Unit := do
  let (ns, name) := file.containerName
  let container ← perform (TypeM.newContainer ns name).toStoreM
  let registry ← perform (units.forUnit file.unit)
  let factory ← perform (SiteFactory.new (some (.ofPlatform p)) (some container) (some registry))
  write [.container container.text file.unit]
  resolveSites p factory 0 file.sites
  write (totals factory (← store))

/-- The lines about a unit. -/
def unitLines (registry : Registry) (s : Store) : List Line :=
  .unit registry.unit (registry.size s) (registry.numInstances s) ::
    (registry.names s).map .definition

/-- The closing section: the units in increasing order. -/
def closingLines (units : UnitTable) (s : Store) : List Line :=
  (units.unitNames s).flatMap fun name =>
    match (s.unitRegistries units).find? name with
    | some registry => unitLines registry s
    | none => []

end Report

/-! ## Runs -/

/-- What a run has written, and how it has failed if it has. -/
structure Report where
  /-- A section for each file that was resolved, the last one perhaps cut short. -/
  sections : List (List Line) := []
  closing : List Line := []
  failure : Option Failure := none

namespace Report

/-- The text of a report. -/
def text (r : Report) : String :=
  String.join ((r.sections.flatten ++ r.closing).map fun l => l.text ++ "\n")

/-- Reads a file by its path. -/
abbrev FileReader := String → Except ReadFault String

/-- Where a run takes its profile and its site files from. -/
structure Sources where
  read : FileReader
  profile : Decoder Profile
  sites : Decoder SiteFile

/-- A file of a given description. -/
def readFile (read : FileReader) (what path : String) : Except Error String :=
  match read path with
  | .ok text => pure text
  | .error fault =>
    throw (.context ("reading " ++ what ++ " " ++ path ++ ": ") (.cause (.unreadable path fault)))

/-- The platform of the profile at a path; the common one if the path is empty. -/
def loadPlatform (src : Sources) (path : String) : Except Error Platform := do
  if path = "" then pure .standard
  else
    let text ← readFile src.read "profile" path
    Platform.ofProfile (← Profile.parse src.profile text path)

/-- The site file at a path. -/
def loadSites (src : Sources) (path : String) : Except Error SiteFile := do
  SiteFile.parse src.sites (← readFile src.read "site file" path) path

/-- Resolves the files at the given paths in order, after those of the sections so far. -/
def resolvePaths (src : Sources) (p : Platform) (units : UnitTable) :
    List String → Store → List (List Line) → Report
  | [], s, sections => { sections, closing := closingLines units s }
  | path :: paths, s, sections =>
    match loadSites src path with
    | .error e => { sections, failure := some (.error e) }
    | .ok file =>
      let (r, progress) := (resolveFile p units file).run { store := s }
      let sections := sections ++ [progress.lines]
      match r with
      | .error f => { sections, failure := some (f.mapError (.context (path ++ ": "))) }
      | .ok () => resolvePaths src p units paths progress.store sections

/-- Resolves the site files at the given paths for the profile at a given path. -/
def run (src : Sources) (profile : String) (paths : List String) : Report :=
  match loadPlatform src profile with
  | .error e => { failure := some (.error e) }
  | .ok p =>
    let units : UnitTable := ⟨0⟩
    resolvePaths src p units paths { Store.initial p with next := 1 } []

end Report

end CallSites
