import ApiCatalog.Command
import ApiCatalog.Proofs.Loading.Success

/-!
# Commands that fail

A command acts on a world: the files, the text printed so far, and the session of its load. Its actions come in a
fixed order. It settles the corrections, then reads the manifest and all that the manifest leads to, and only then
prints or writes. `execute` is these actions one after the other, and `run_eq_execute` says that `run` does what
they do.

Up to its last action a command only reads (`performed_readAll`), so when it fails before, the world is as it was but
for the requests. A load needs a file of corrections and a manifest that can be read, and definitions that are
loadable; what lacks any of these makes the command fail in this way (`failure_leaves_no_trace`).
-/

namespace ApiCatalog

/-! ## Actions -/

/-- What a command acts on. -/
structure World where
  files : FileTree
  printed : String := ""
  session : Session := {}

abbrev Action := ExceptT CommandError (StateM World)

namespace Action
variable {α : Type}

/-- A step of a load, on the session of the world. -/
def load (step : Load α) : Action α :=
  ExceptT.mk fun world =>
    let done := step.perform world.session
    (done.1.mapError CommandError.load, { world with session := done.2 })

def print (text : String) : Action Unit := modify fun world => { world with printed := world.printed ++ text }

def write (path text : String) : Action Unit :=
  ExceptT.mk fun world =>
    let done := performed (FileTree.write path text) world.files
    (done.1.mapError fun fault => .file fault.message, { world with files := done.2 })

@[simp] theorem performed_lift (result : Except CommandError α) (world : World) :
    performed (liftM result : Action α) world = (result, world) := rfl

@[simp] theorem performed_throw (e : CommandError) (world : World) :
    performed (throw e : Action α) world = (.error e, world) := rfl

@[simp] theorem performed_load (step : Load α) (world : World) :
    performed (load step) world =
      ((step.perform world.session).1.mapError CommandError.load,
        { world with session := (step.perform world.session).2 }) := rfl

@[simp] theorem performed_print (text : String) (world : World) :
    performed (print text) world = (.ok (), { world with printed := world.printed ++ text }) := rfl

@[simp] theorem performed_write (path text : String) (world : World) :
    performed (write path text) world =
      ((performed (FileTree.write path text) world.files).1.mapError fun fault => .file fault.message,
        { world with files := (performed (FileTree.write path text) world.files).2 }) := rfl

@[simp] theorem performed_get (world : World) : performed (get : Action World) world = (.ok world, world) := rfl

end Action

/-! ## What is read -/

theorem mapError_eq_ok {α ε δ : Type} {result : Except ε α} {f : ε → δ} {a : α} :
    result.mapError f = .ok a ↔ result = .ok a := by
  cases result with
  | error e => exact ⟨nofun, nofun⟩
  | ok b => rw [Except.mapError, Except.ok.injEq, Except.ok.injEq]

theorem SchemaPatch.decodeList_error {location body : String} {e : LoadError}
    (h : decodeList location body = .error e) : ∃ message, e = .decode location message := by
  unfold decodeList at h
  split at h
  · cases h
  · cases h
    exact ⟨_, rfl⟩

theorem FileTree.read_of_walk {tree : FileTree} {text : String} {path : FilePath} {location : FileLocation}
    (hpath : FilePath.ofText text = .ok path) (hwalk : tree.walk path.start path.components = .ok location) :
    tree.read text =
      match tree.find? location with
      | none => .error .notFound
      | some .directory => .error .isDirectory
      | some (.file content) => if path.ending = .plain then content else .error .notDirectory := by
  unfold read
  rw [hpath]
  show (tree.walk path.start path.components >>= _) = _
  rw [hwalk]
  rfl

theorem Library.loadable_of_loadManifest {library : Library} {patches : List SchemaPatch} {location body : String}
    {s t : Session} {loaded : Loaded} (hfresh : s.cache = {})
    (h : Load.perform (library.loadManifest patches location body) s = (.ok loaded, t)) :
    ∃ definitions, decodeManifest location body = .ok definitions ∧ library.Loadable patches definitions := by
  obtain ⟨definitions, u, hlift, hload⟩ := Load.bind_ok.1 h
  obtain ⟨hdecode, rfl⟩ := Load.lift_ok.1 hlift
  exact ⟨definitions, hdecode, loadable_of_fresh hfresh hload⟩

/-! ## Commands as actions -/

namespace LoadArguments
variable {arguments : LoadArguments} {library : Library} {files : FileTree} {read : FileReader} {e : CommandError}

def settleCorrections (arguments : LoadArguments) : Action (List SchemaPatch) := do
  let world ← get
  arguments.corrections world.files.read

def loadManifest (arguments : LoadArguments) (library : Library) (patches : List SchemaPatch) : Action Loaded := do
  if arguments.isRemote then Action.load (library.loadRemoteManifest patches arguments.manifest)
  else
    let world ← get
    match world.files.read arguments.manifest with
    | .ok body => Action.load (library.loadManifest patches arguments.manifest body)
    | .error fault =>
      if fault.isFoundInReading then Action.load (throw (.transport arguments.manifest fault.message))
      else throw (.file fault.message)

/-- All that a command does before it prints or writes. -/
def readAll (arguments : LoadArguments) (library : Library) : Action Loaded := do
  let patches ← arguments.settleCorrections
  arguments.loadManifest library patches

/-- **Reading leaves no trace** but the requests, whether it succeeds or fails. -/
theorem performed_readAll (arguments : LoadArguments) (library : Library) (files : FileTree) (printed : String) :
    performed (arguments.readAll library) { files, printed } =
      ((arguments.perform library files.read).1,
        { files, printed, session := (arguments.perform library files.read).2 }) := by
  unfold readAll settleCorrections LoadArguments.perform
  simp only [performed_bind, Action.performed_get, Action.performed_lift]
  cases arguments.corrections files.read with
  | error e => rfl
  | ok patches =>
    unfold loadManifest
    by_cases hremote : arguments.isRemote = true
    · simp only [if_pos hremote, Action.performed_load]
    · simp only [if_neg hremote, performed_bind, Action.performed_get]
      cases files.read arguments.manifest with
      | ok body => simp only [Action.performed_load]
      | error fault =>
        by_cases hopened : fault.isFoundInReading = true
        · simp only [if_pos hopened, Action.performed_load]
        · simp only [if_neg hopened, Action.performed_throw]

/-! ## What a load needs -/

/-- The file of corrections cannot be used, for the reason that an error gives. -/
inductive BadPatches (arguments : LoadArguments) (read : FileReader) : CommandError → Prop
  /-- It cannot be read. -/
  | unreadable {path : String} {fault : FileFault} (hpath : arguments.patches = some path)
    (hread : read path = .error fault) : BadPatches arguments read (.file fault.message)
  /-- It is no list of corrections. -/
  | undecodable {path body message : String} (hpath : arguments.patches = some path) (hread : read path = .ok body)
    (hdecode : SchemaPatch.decodeList path body = .error (.decode path message)) :
    BadPatches arguments read (.load (.decode path message))

theorem corrections_error_iff : arguments.corrections read = .error e ↔ arguments.BadPatches read e := by
  constructor
  · intro h
    unfold corrections at h
    cases hpath : arguments.patches with
    | none =>
      rw [hpath] at h
      cases h
    | some path =>
      cases hread : read path with
      | error fault =>
        simp only [hpath, hread] at h
        cases h
        exact .unreadable hpath hread
      | ok body =>
        cases hdecode : SchemaPatch.decodeList path body with
        | error error =>
          simp only [hpath, hread, hdecode] at h
          cases h
          obtain ⟨message, rfl⟩ := SchemaPatch.decodeList_error hdecode
          exact .undecodable hpath hread hdecode
        | ok patches =>
          simp only [hpath, hread, hdecode] at h
          cases h
  · rintro (⟨hpath, hread⟩ | ⟨hpath, hread, hdecode⟩)
    · simp only [corrections, hpath, hread]
    · simp only [corrections, hpath, hread, hdecode]

/-- The text of the manifest, be it fetched or read from a file. -/
def ManifestIs (arguments : LoadArguments) (library : Library) (read : FileReader) (body : String) : Prop :=
  if arguments.isRemote then library.answer arguments.manifest = .ok body else read arguments.manifest = .ok body

/-- All that a load needs is there and of the right form: the file of corrections, the manifest, the document of each
definition, every schema that these lead to, and a place for each correction. -/
def Ready (arguments : LoadArguments) (library : Library) (read : FileReader) : Prop :=
  ∃ patches body definitions, arguments.corrections read = .ok patches ∧ arguments.ManifestIs library read body ∧
    decodeManifest arguments.manifest body = .ok definitions ∧ library.Loadable patches definitions

theorem ready_of_ok {loaded : Loaded} (h : (arguments.perform library read).1 = .ok loaded) :
    arguments.Ready library read := by
  unfold LoadArguments.perform at h
  cases hcorrections : arguments.corrections read with
  | error e =>
    rw [hcorrections] at h
    cases h
  | ok patches =>
    simp only [hcorrections] at h
    by_cases hremote : arguments.isRemote = true
    · rw [if_pos hremote] at h
      obtain ⟨body, u, hfetch, hload⟩ := Load.bind_ok.1 (Prod.ext (mapError_eq_ok.1 h) rfl)
      rw [Load.perform_fetch, Prod.mk.injEq] at hfetch
      obtain ⟨hanswer, rfl⟩ := hfetch
      obtain ⟨definitions, hdecode, hloadable⟩ := Library.loadable_of_loadManifest rfl hload
      exact ⟨patches, body, definitions, hcorrections, by rwa [ManifestIs, if_pos hremote], hdecode, hloadable⟩
    · rw [if_neg hremote] at h
      cases hread : read arguments.manifest with
      | ok body =>
        simp only [hread] at h
        obtain ⟨definitions, hdecode, hloadable⟩ :=
          Library.loadable_of_loadManifest rfl (Prod.ext (mapError_eq_ok.1 h) rfl)
        exact ⟨patches, body, definitions, hcorrections, by rwa [ManifestIs, if_neg hremote], hdecode, hloadable⟩
      | error fault =>
        simp only [hread] at h
        split at h <;> cases h

/-- Where the file of corrections cannot be used, nothing else is done. -/
theorem perform_of_badPatches (h : arguments.BadPatches read e) : arguments.perform library read = (.error e, {}) := by
  unfold LoadArguments.perform
  rw [corrections_error_iff.2 h]

end LoadArguments

namespace Command

def deliver : Output → Action Unit
  | .printed text => Action.print text
  | .file path text => Action.write path text

/-- A command as the actions that it takes, in their order. -/
def execute (command : Command) (library : Library) : Action Unit := do
  let loaded ← command.arguments.readAll library
  deliver (command.output loaded)

def Outcome.ofWorld (result : Except CommandError Unit) (world : World) : Outcome :=
  { result, printed := world.printed, files := world.files, requests := world.session.requests }

/-- **A command runs** as its actions one after the other. -/
theorem run_eq_execute (command : Command) (library : Library) (files : FileTree) :
    command.run library files =
      Outcome.ofWorld (performed (command.execute library) { files }).1
        (performed (command.execute library) { files }).2 := by
  unfold execute run prepare
  rw [performed_bind, LoadArguments.performed_readAll]
  rcases command.arguments.perform library files.read with ⟨_ | loaded, session⟩
  · rfl
  · simp only [Except.map]
    cases command.output loaded with
    | printed text => simp only [deliver, Action.performed_print, Outcome.ofWorld, String.empty_append]
    | file path text =>
      simp only [deliver, Action.performed_write, Outcome.ofWorld]
      rw [show (FileTree.write path text).run.run files = performed (FileTree.write path text) files from rfl]

/-! ## Commands that fail -/

variable {command : Command} {library : Library} {files : FileTree} {error : CommandError} {session : Session}

/-- A command ends with an error, and leaves the world as it was but for the session of its load. -/
structure LeavesNoTrace (command : Command) (library : Library) (files : FileTree) (printed : String)
    (error : CommandError) (session : Session) : Prop where
  executed : performed (command.execute library) { files, printed } = (.error error, { files, printed, session })
  ran : command.run library files = { result := .error error, printed := "", files, requests := session.requests }

theorem leavesNoTrace_of_error (h : command.arguments.perform library files.read = (.error error, session))
    (printed : String) : command.LeavesNoTrace library files printed error session := by
  have hexecuted (printed : String) : performed (command.execute library) { files, printed } =
      (.error error, { files, printed, session }) := by
    rw [execute, performed_bind, LoadArguments.performed_readAll, h]
  exact ⟨hexecuted printed, by rw [run_eq_execute, hexecuted, Outcome.ofWorld]⟩

/-- **A command that fails before it prints or writes leaves no trace.** Where the corrections cannot be settled or
the load fails, the files and the printed text are as they were. This is so when anything that the load needs is
missing or of the wrong form. A file of corrections that cannot be used is what the command fails of, whatever else is
wrong, and then nothing has been requested. -/
theorem failure_leaves_no_trace (command : Command) (library : Library) (files : FileTree) (printed : String) :
    (∀ error, (command.arguments.perform library files.read).1 = .error error →
      ∃ session, command.LeavesNoTrace library files printed error session) ∧
    (¬command.arguments.Ready library files.read →
      ∃ error session, command.LeavesNoTrace library files printed error session) ∧
    ∀ error, command.arguments.BadPatches files.read error →
      command.LeavesNoTrace library files printed error {} := by
  refine ⟨fun error herror => ?_, fun hready => ?_, fun error hbad => ?_⟩
  · exact ⟨_, leavesNoTrace_of_error (Prod.ext herror rfl) printed⟩
  · cases hresult : (command.arguments.perform library files.read).1 with
    | error error => exact ⟨error, _, leavesNoTrace_of_error (Prod.ext hresult rfl) printed⟩
    | ok loaded => exact absurd (LoadArguments.ready_of_ok hresult) hready
  · exact leavesNoTrace_of_error (LoadArguments.perform_of_badPatches hbad) printed

/-! ## A file of corrections that is cut short, and no manifest -/

/-- A directory with nothing in it but the beginning of a list of corrections. -/
def cutShort : FileTree := ({} : FileTree).put ["p.json"] (.file (.ok "["))

/-- A command for this directory. Its manifest is not there. -/
def dumpCutShort : Command := .dump { manifest := "m.json", patches := some "p.json" } (some "out/dump.txt")

theorem read_cutShort : cutShort.read "p.json" = .ok "[" := by
  have hfind : cutShort.find? ["p.json"] = some (.file (.ok "[")) := by
    simp [cutShort, FileTree.find?, FileTree.put, FileTree.isStanding]
  have hpath : FilePath.ofText "p.json" = .ok { start := [], components := ["p.json"], ending := .plain } := rfl
  have hwalk : cutShort.walk [] ["p.json"] = .ok ["p.json"] := rfl
  rw [FileTree.read_of_walk hpath hwalk, hfind]
  rfl

theorem read_cutShort_missing : cutShort.read "m.json" = .error .notFound := by
  have hfind : cutShort.find? ["m.json"] = none := by
    simp [cutShort, FileTree.find?, FileTree.put, FileTree.isStanding]
  have hpath : FilePath.ofText "m.json" = .ok { start := [], components := ["m.json"], ending := .plain } := rfl
  have hwalk : cutShort.walk [] ["m.json"] = .ok ["m.json"] := rfl
  rw [FileTree.read_of_walk hpath hwalk, hfind]

theorem dumpCutShort_fails :
    let error : CommandError := .load (.decode "p.json" "EOF while parsing a list at line 1 column 1")
    cutShort.read "m.json" = .error .notFound ∧ ¬dumpCutShort.arguments.Ready {} cutShort.read ∧
      dumpCutShort.arguments.BadPatches cutShort.read error ∧
      dumpCutShort.LeavesNoTrace {} cutShort "" error {} := by
  intro error
  have hbad : dumpCutShort.arguments.BadPatches cutShort.read error := .undecodable rfl read_cutShort rfl
  have hready : ¬dumpCutShort.arguments.Ready {} cutShort.read := by
    rintro ⟨patches, body, definitions, hcorrections, -⟩
    rw [LoadArguments.corrections_error_iff.2 hbad] at hcorrections
    cases hcorrections
  exact ⟨read_cutShort_missing, hready, hbad, (failure_leaves_no_trace dumpCutShort {} cutShort "").2.2 error hbad⟩

end Command

end ApiCatalog
