import Emux.Ipc.Atomicity
import Emux.Ipc.Codec
import Emux.Ipc.Persistence
import Emux.Ipc.Server
import Emux.Library.Run
import Emux.Mux.Custody

set_option autoImplicit false

/-!
# Saved sessions

Snapshots are written to a temporary file that is then renamed, and a daemon server writes one when its session is noted as
changed. Whenever the server stops, its file holds a whole snapshot of some moment.
-/

namespace Emux

open Checked WriteBack

/-! ## Paths -/

abbrev Path := List Char

namespace Path

/-- `path.join(part)` -/
def join (path part : Path) : Path :=
  if part.head? = some '/' then part
  else if path = [] ∨ path.getLast? = some '/' then path ++ part
  else path ++ '/' :: part

/-- The part of a file name before its last dot, the whole name if there is none but a first one. -/
def fileStem (name : List Char) : List Char :=
  let before := (name.rdropWhile fun c => c != '.').dropLast
  if before = [] then name else before

/-- `path.with_extension(extension)`, for a path that does not end in a slash. Without a file name it stays. -/
def withExtension (path : Path) (extension : List Char) : Path :=
  let name := path.rtakeWhile fun c => c != '/'
  if name ∈ [[], ['.'], ['.', '.']] then path
  else path.rdropWhile (fun c => c != '/') ++ fileStem name ++ '.' :: extension

theorem join_last (path : Path) {part : Path} (some : part ≠ []) : (path.join part).getLast? = part.getLast? := by
  unfold join
  split
  next => rfl
  next =>
    split
    next => rw [List.getLast?_append_of_ne_nil _ some]
    next => rw [List.getLast?_append_of_ne_nil _ (List.cons_ne_nil _ _), List.getLast?_cons_of_ne_nil some]

theorem withExtension_ne (path : Path) {extension other : Path} (differs : ('.' :: extension).getLast? ≠ other.getLast?)
    (named : ∀ c, other.getLast? = some c -> c ≠ '/' ∧ c ≠ '.') (some : other ≠ []) :
    path.withExtension extension ≠ other := by
  intro same
  rw [withExtension] at same
  split at same
  next improper =>
    -- Without a file name the last character is a slash or a dot.
    subst same
    have suffix := List.rtakeWhile_suffix (fun c => c != '/') path
    simp only [List.mem_cons, List.not_mem_nil, or_false] at improper
    obtain ⟨noSlash, noDot⟩ := named _ (List.getLast?_eq_some_getLast some)
    have ends : ¬ ['.'] <:+ path := fun dot =>
      noDot (Option.some.inj ((List.getLast?_eq_some_getLast some).symm.trans (List.singleton_suffix_iff_getLast?_eq_some.mp dot)))
    rcases improper with empty | dot | dots
    next => exact List.rtakeWhile_eq_nil_iff.mp empty some (by simpa using noSlash)
    next => exact ends (dot ▸ suffix)
    next => exact ends ((List.suffix_cons '.' ['.']).trans (dots ▸ suffix))
  next =>
    rw [← same, List.getLast?_append_of_ne_nil _ (List.cons_ne_nil _ _)] at differs
    exact differs rfl

end Path

def sessionsDir (home : Path) : Path := home.join ".local/share/emux/sessions".toList

def defaultSnapshotPath (home : Option Path) (sessionName : String) : Option Path :=
  home.map fun home => (sessionsDir home).join (sessionName.toList ++ ".json".toList)

/-! ## Files -/

abbrev Files := Path -> Option Bytes

/-- How far the save of a text comes. -/
inductive SaveOutcome where
  | noDirectory
  /-- What the temporary file holds then, if it was opened. -/
  | notWritten (left : Option Bytes)
  | notRenamed
  | saved
  deriving DecidableEq, Repr

variable {R E : Type}

def saveSession (json : SerdeJson SessionSnapshot E) (session : Session R) (path : Path) (outcome : SaveOutcome)
    (files : Files) : Bool × Files :=
  let tmpPath := path.withExtension "json.tmp".toList
  match outcome, json.toVec (snapshotFromSession session) with
  | .noDirectory, _ => (false, files)
  | _, .error _ => (false, files)
  | .notWritten left, .ok _ => (false, if left.isSome then Function.update files tmpPath left else files)
  | .notRenamed, .ok text => (false, Function.update files tmpPath (some text))
  | .saved, .ok text => (true, Function.update (Function.update files tmpPath none) path (some text))

/-- `read_to_string` fails, or the text is no snapshot. -/
inductive LoadError (E : Type) where
  | io
  | json (error : E)
  deriving DecidableEq, Repr

def loadSnapshot (json : SerdeJson SessionSnapshot E) (path : Path) (files : Files) : Except (LoadError E) SessionSnapshot :=
  match files path with
  | none => .error .io
  | some text => (json.fromSlice text).mapError .json

theorem tmpPath_ne {home : Option Path} {sessionName : String} {path : Path}
    (named : defaultSnapshotPath home sessionName = some path) (other : Path) :
    other.withExtension "json.tmp".toList ≠ path := by
  obtain ⟨home, -, rfl⟩ := Option.map_eq_some_iff.mp named
  have ends : ((sessionsDir home).join (sessionName.toList ++ ".json".toList)).getLast? = some 'n' := by
    rw [Path.join_last _ (by simp), List.getLast?_append_of_ne_nil _ (by simp)]
    rfl
  refine Path.withExtension_ne other (by rw [ends]; decide) (fun c last => ?_) fun empty => by rw [empty] at ends; cases ends
  obtain rfl := Option.some.inj (ends.symm.trans last)
  decide

section Saves

variable {json : SerdeJson SessionSnapshot E} {session : Session R} {path : Path} {outcome : SaveOutcome} {files : Files}

theorem saveSession_file {other : Path} (kept : path.withExtension "json.tmp".toList ≠ other) :
    (saveSession json session path outcome files).2 other = files other ∨
      ∃ text, json.toVec (snapshotFromSession session) = .ok text ∧
        (saveSession json session path outcome files).2 other = some text := by
  have away (contents : Option Bytes) : Function.update files (path.withExtension "json.tmp".toList) contents other = files other :=
    Function.update_of_ne kept.symm ..
  unfold saveSession
  split
  next => exact .inl rfl
  next => exact .inl rfl
  next left text written =>
    split
    next => exact .inl (away left)
    next => exact .inl rfl
  next text written => exact .inl (away _)
  next text written =>
    by_cases same : other = path
    next =>
      subst same
      exact .inr ⟨text, written, Function.update_self ..⟩
    next => exact .inl ((Function.update_of_ne same ..).trans (away none))

theorem saveSession_saved (ok : (saveSession json session path outcome files).1 = true) :
    ∃ text, json.toVec (snapshotFromSession session) = .ok text ∧
      (saveSession json session path outcome files).2 path = some text := by
  unfold saveSession at ok ⊢
  split at ok
  next => cases ok
  next => cases ok
  next => cases ok
  next => cases ok
  next text written => exact ⟨text, written, Function.update_self ..⟩

theorem loadSnapshot_written (undoes : json.Undoes) {text : Bytes} (written : json.toVec (snapshotFromSession session) = .ok text)
    (there : files path = some text) : loadSnapshot json path files = .ok (snapshotFromSession session) := by
  simp only [loadSnapshot, there, undoes _ _ written]
  rfl

end Saves

/-! ## What a snapshot records -/

namespace Tab

variable [Ratio R]

omit [Ratio R] in
theorem snapshot_congr {tab other : Tab R} (name : tab.name = other.name) (active : tab.activePane = other.activePane)
    (paneIds : tab.layout.paneIds = other.layout.paneIds) (contents : tab.tiledContents = other.tiledContents) :
    tab.snapshot = other.snapshot := by
  have recorded (tab : Tab R) (id : PaneId) : tab.paneSnapshot id = (tab.tiledContents.lookup id).map fun pane =>
      { id, title := pane.title, scrollback := pane.scrollback, workingDirectory := none, scrollOffset := pane.scrollOffset } := by
    rw [paneSnapshot, tiledContents, Keyed.lookup_mapValues, Option.map_map]
    rfl
  have same : tab.paneSnapshot = other.paneSnapshot := by
    funext id
    rw [recorded, recorded, contents]
  rw [snapshot, snapshot, name, active, paneIds, same]

theorem snapshot_resize (tab : Tab R) (cols rows : Nat) : (tab.resize cols rows).snapshot = tab.snapshot :=
  snapshot_congr rfl rfl rfl (tiledContents_sync _)

omit [Ratio R] in
theorem focusPane_focused {tab : Tab R} {id : PaneId} (focused : (tab.focusPane id).1 = true) :
    (tab.focusPane id).2.activePane = some id ∧ (tab.focusPane id).2.name = tab.name ∧
      (tab.focusPane id).2.layout = tab.layout := by
  unfold focusPane bringFloatingToFront restack at *
  split
  next => exact ⟨rfl, rfl, rfl⟩
  next absent =>
    rw [if_neg absent] at focused
    split
    next => split <;> exact ⟨rfl, rfl, rfl⟩
    next missing => rw [missing] at focused; cases focused

omit [Ratio R] in
theorem snapshot_focusPane {tab : Tab R} {id : PaneId}
    (active : (tab.focusPane id).1 = true -> tab.activePane = some id) :
    (tab.focusPane id).2.name = tab.name ∧ (tab.focusPane id).2.snapshot = tab.snapshot := by
  cases focused : (tab.focusPane id).1 with
  | false => rw [focusPane_refused focused]; exact ⟨rfl, rfl⟩
  | true =>
    obtain ⟨nowActive, name, layout⟩ := focusPane_focused focused
    have contents : (tab.focusPane id).2.tiledContents = tab.tiledContents := by
      rw [tiledContents, focusPane_panes, tiledContents]
    exact ⟨name, snapshot_congr name (nowActive.trans (active focused).symm) (by rw [layout]) contents⟩

end Tab

namespace Session

variable [Ratio R] {session : Session R} {tab : Tab R}

omit [Ratio R] in
theorem snapshot_setCurrent (active : session.tabs[session.activeTab]? = some tab) {next : Tab R} (name : next.name = tab.name)
    (same : next.snapshot = tab.snapshot) : snapshotFromSession (session.setCurrent next) = snapshotFromSession session := by
  obtain ⟨inside, rfl⟩ := List.getElem?_eq_some_iff.mp active
  have names : (session.tabs.set session.activeTab next).map Tab.name = session.tabs.map Tab.name := by
    rw [List.map_set, name, ← List.map_set, List.set_getElem_self]
  have tabs : (session.tabs.set session.activeTab next).map Tab.snapshot = session.tabs.map Tab.snapshot := by
    rw [List.map_set, same, ← List.map_set, List.set_getElem_self]
  simp only [snapshotFromSession, setCurrent, names, tabs, List.length_set]

theorem snapshot_resize (session : Session R) (cols rows : Nat) : snapshotFromSession (session.resize cols rows) =
    { snapshotFromSession session with cols, rows } := by
  have tabs : session.tabs.map (Tab.snapshot ∘ fun tab => tab.resize cols rows) = session.tabs.map Tab.snapshot :=
    List.map_congr_left fun tab _ => tab.snapshot_resize cols rows
  simp only [snapshotFromSession, resize, List.map_map, List.length_map, tabs]
  rfl

end Session

/-! ## The server and its files -/

inductive ServerCall (R : Type) where
  | message (pty : Pty) (msg : ClientMessage)
  /-- Through `session_mut()`. -/
  | onSession (call : SessionCall R)
  | markDirty
  | setSnapshotPath (path : Option Path)
  | saveNow (outcome : SaveOutcome)
  | maybeAutoSave (outcome : SaveOutcome)
  /-- `moved`: the socket file was. -/
  | renameSession (newName : String) (moved : Bool)
  | wait (nanos : Nat)
  | shutdown (outcome : SaveOutcome)

structure SavingServer (R : Type) extends DaemonServer R where
  snapshotPath : Option Path
  /-- Nanoseconds since the last save. -/
  sinceSave : Nat
  files : Files
  running : Bool

namespace SavingServer

section Model

variable [Ratio R] (json : SerdeJson SessionSnapshot E) (home : Option Path)

def autoSaveIntervalSecs : Nat := 30

omit [Ratio R] in
def saveNow (outcome : SaveOutcome) (server : SavingServer R) : SavingServer R :=
  match server.snapshotPath with
  | some path =>
    match saveSession json server.session path outcome server.files with
    | (true, files) => { server with files, sinceSave := 0, dirty := false }
    | (false, files) => { server with files }
  | none => server

omit [Ratio R] in
def maybeAutoSave (outcome : SaveOutcome) (server : SavingServer R) : Bool × SavingServer R :=
  if !server.dirty then (false, server)
  else if server.sinceSave / 1000000000 < autoSaveIntervalSecs then (false, server)
  else (true, server.saveNow json outcome)

omit [Ratio R] in
def renameSession (newName : String) (moved : Bool) (server : SavingServer R) : SavingServer R :=
  if moved then
    { server with
      session := server.session.rename newName, dirty := true, snapshotPath := defaultSnapshotPath home newName }
  else server

/-- `DaemonServer::start`, once the socket is bound. -/
def start (sessionName : String) (files : Files) : Fallible (SavingServer R) := do
  let snapshotPath := defaultSnapshotPath home sessionName
  let session <-
    match snapshotPath.map fun path => loadSnapshot json path files with
    | some (.ok snap) => sessionFromSnapshot snap
    | _ => .ok (Session.new sessionName 80 24)
  .ok { session, dirty := false, paneTerminals := ∅, snapshotPath, sinceSave := 0, files, running := true }

def step (call : ServerCall R) (server : SavingServer R) : Fallible (SavingServer R) :=
  if !server.running then .ok server
  else
    match call with
    | .message pty msg => do
      let (_, next) <- server.handleMessage pty msg
      .ok { server with toDaemonServer := next }
    | .onSession call => do
      let session <- server.session.call call
      .ok { server with session }
    | .markDirty => .ok { server with dirty := true }
    | .setSnapshotPath path => .ok { server with snapshotPath := path }
    | .saveNow outcome => .ok (server.saveNow json outcome)
    | .maybeAutoSave outcome => .ok (server.maybeAutoSave json outcome).2
    | .renameSession newName moved => .ok (server.renameSession home newName moved)
    | .wait nanos => .ok { server with sinceSave := server.sinceSave + nanos }
    | .shutdown outcome => .ok { server.saveNow json outcome with running := false }

end Model

section Runs

variable {json : SerdeJson SessionSnapshot E} {home : Option Path} {server next last : SavingServer R}

/-! ## What is noted -/

/-- The messages that change what is recorded without a note do not change it here. -/
def quiet (session : Session R) : ClientMessage -> Prop
  | .focusPane id => ∀ tab, session.tabs[session.activeTab]? = some tab -> (tab.focusPane id).1 = true -> tab.activePane = some id
  | .attach cols rows => session.size.cols = cols.toNat ∧ session.size.rows = rows.toNat
  | _ => True

theorem handleMessage_noted [Ratio R] (pty : Pty) (server : DaemonServer R) (msg : ClientMessage) :
    Ensures AnyPanic (server.handleMessage pty msg) fun answer => answer.2.dirty = true ∨
      answer.2.dirty = server.dirty ∧
        (quiet server.session msg -> snapshotFromSession answer.2.session = snapshotFromSession server.session) := by
  cases msg with
  | ping | getVersion | keyInput | detach | killSession => exact .inr ⟨rfl, fun _ => rfl⟩
  | resize cols rows => exact .inl rfl
  | attach cols rows =>
    refine .inr ⟨rfl, fun fits => ?_⟩
    show snapshotFromSession (server.session.resize cols.toNat rows.toNat) = _
    rw [Session.snapshot_resize, ← fits.1, ← fits.2]
    rfl
  | focusPane id =>
    refine Session.after_current fun tab active => .inr ⟨rfl, fun still => ?_⟩
    obtain ⟨name, same⟩ := Tab.snapshot_focusPane (still tab active)
    exact Session.snapshot_setCurrent active name same
  | spawnPane | splitPane =>
    -- A refused split shows the tiled panes, which is not recorded.
    refine Session.after_current fun tab active =>
      ((Tab.splitPane_cases tab _).allow fun _ _ => trivial).bind fun result cases => ?_
    obtain ⟨rfl, -⟩ | ⟨target, cols, rows, -, -, rfl, -⟩ := cases
    next => exact .inr ⟨rfl, fun _ => Session.snapshot_setCurrent active rfl rfl⟩
    next => exact .inl rfl
  | killPane id =>
    refine Session.after_current fun tab active => ?_
    cases closed : tab.closePane id with
    | mk ok next =>
      cases ok with
      | true => exact .inl rfl
      | false =>
        obtain ⟨same, -⟩ := Tab.closePane_refused (congrArg Prod.fst closed)
        rw [closed] at same
        obtain rfl : next = tab := same
        refine .inr ⟨rfl, fun _ => ?_⟩
        show snapshotFromSession (server.session.setCurrent next) = _
        rw [Session.setCurrent_self active]
  | listSessions | listPanes => exact Session.after_current fun tab active => .inr ⟨rfl, fun _ => rfl⟩
  | getPaneInfo id =>
    refine Session.after_current fun tab active => ?_
    split <;> exact .inr ⟨rfl, fun _ => rfl⟩
  | capturePane id =>
    refine Session.after_current fun tab active => ?_
    split
    next => exact .inr ⟨rfl, fun _ => rfl⟩
    next =>
      split
      next => exact ensures_after _ fun captured => .inr ⟨rfl, fun _ => rfl⟩
      next => exact .inr ⟨rfl, fun _ => rfl⟩
  | sendKeys id keys =>
    refine Session.after_current fun tab active => ?_
    split
    next => exact .inr ⟨rfl, fun _ => rfl⟩
    next =>
      split
      next => split <;> exact .inr ⟨rfl, fun _ => rfl⟩
      next => exact .inr ⟨rfl, fun _ => rfl⟩
  | resizePane id cols rows =>
    refine Session.after_current fun tab active => ?_
    split
    next => exact .inr ⟨rfl, fun _ => rfl⟩
    next =>
      split
      next => exact ensures_after _ fun resized => .inl rfl
      next => exact .inr ⟨rfl, fun _ => rfl⟩
  | setPaneTitle id title =>
    refine Session.after_current fun tab active => ?_
    split
    next => exact .inl rfl
    next => exact .inr ⟨rfl, fun _ => rfl⟩

/-! ## What is in a file -/

theorem saveNow_cases (outcome : SaveOutcome) :
    (server.snapshotPath = none ∧ server.saveNow json outcome = server) ∨ ∃ path, server.snapshotPath = some path ∧
      ∃ files, ((saveSession json server.session path outcome server.files) = (true, files) ∧
          server.saveNow json outcome = { server with files, sinceSave := 0, dirty := false } ∨
        (saveSession json server.session path outcome server.files) = (false, files) ∧
          server.saveNow json outcome = { server with files }) := by
  unfold saveNow
  cases server.snapshotPath with
  | none => exact .inl ⟨rfl, rfl⟩
  | some path =>
    cases saves : saveSession json server.session path outcome server.files with
    | mk ok files =>
      cases ok with
      | true => exact .inr ⟨path, rfl, files, .inl ⟨saves, by simp only [saves]⟩⟩
      | false => exact .inr ⟨path, rfl, files, .inr ⟨saves, by simp only [saves]⟩⟩

theorem maybeAutoSave_cases (outcome : SaveOutcome) :
    (server.maybeAutoSave json outcome).2 = server ∨ (server.maybeAutoSave json outcome).2 = server.saveNow json outcome := by
  unfold maybeAutoSave
  split
  next => exact .inl rfl
  next => split <;> first | exact .inl rfl | exact .inr rfl

theorem saveNow_session (outcome : SaveOutcome) : (server.saveNow json outcome).session = server.session := by
  rcases @saveNow_cases _ _ json server outcome with ⟨-, kept⟩ | ⟨path, -, files, ⟨-, wrote⟩ | ⟨-, failed⟩⟩
  next => rw [kept]
  next => rw [wrote]
  next => rw [failed]

theorem saveNow_file (outcome : SaveOutcome) {path : Path} (lasting : ∀ other : Path, other.withExtension "json.tmp".toList ≠ path) :
    (server.saveNow json outcome).files path = server.files path ∨
      ∃ text, (server.saveNow json outcome).files path = some text ∧
        json.toVec (snapshotFromSession (server.saveNow json outcome).session) = .ok text := by
  rw [saveNow_session]
  rcases @saveNow_cases _ _ json server outcome with ⟨-, kept⟩ | ⟨own, -, files, saves⟩
  next => exact .inl (by rw [kept])
  next =>
    have file := @saveSession_file _ _ json server.session own outcome server.files path (lasting own)
    rcases saves with ⟨wrote, saved⟩ | ⟨failed, left⟩
    next =>
      rw [wrote] at file
      rw [saved]
      exact file.imp id fun ⟨text, written, there⟩ => ⟨text, there, written⟩
    next =>
      rw [failed] at file
      rw [left]
      exact file.imp id fun ⟨text, written, there⟩ => ⟨text, there, written⟩

variable [Ratio R]

theorem step_file {call : ServerCall R} {path : Path} (lasting : ∀ other : Path, other.withExtension "json.tmp".toList ≠ path)
    (stepped : step json home call server = .ok next) :
    next.files path = server.files path ∨
      ∃ text, next.files path = some text ∧ json.toVec (snapshotFromSession next.session) = .ok text := by
  unfold step at stepped
  split at stepped
  next => cases stepped; exact .inl rfl
  next =>
    cases call with
    | message pty msg =>
      cases answered : server.handleMessage pty msg with
      | error panic => simp only [answered] at stepped; cases stepped
      | ok answer =>
        simp only [answered, ok_bind] at stepped
        cases stepped
        exact .inl rfl
    | onSession call =>
      cases called : server.session.call call with
      | error panic => simp only [called] at stepped; cases stepped
      | ok session =>
        simp only [called, ok_bind] at stepped
        cases stepped
        exact .inl rfl
    | markDirty | setSnapshotPath | wait => cases stepped; exact .inl rfl
    | saveNow outcome => cases stepped; exact saveNow_file outcome lasting
    | maybeAutoSave outcome =>
      cases stepped
      rcases @maybeAutoSave_cases _ _ json server outcome with same | saved
      next => exact .inl (by rw [same])
      next => rw [saved]; exact saveNow_file outcome lasting
    | renameSession newName moved =>
      cases stepped
      unfold renameSession
      split <;> exact .inl rfl
    | shutdown outcome => cases stepped; exact @saveNow_file _ _ json server outcome path lasting

/-- Whenever the server stops, the snapshot file of a session gives what it gave before, or the whole session as it was at
some moment. -/
theorem saved_whole (undoes : json.Undoes) {calls : List (ServerCall R)} (ran : run (step json home) calls server = .ok last)
    {sessionName : String} {path : Path} (named : defaultSnapshotPath home sessionName = some path) :
    loadSnapshot json path last.files = loadSnapshot json path server.files ∨
      ∃ earlier later middle, calls = earlier ++ later ∧ run (step json home) earlier server = .ok middle ∧
        loadSnapshot json path last.files = .ok (snapshotFromSession middle.session) := by
  have each (call : ServerCall R) (s next : SavingServer R) (stepped : step json home call s = .ok next) :
      next.files path = s.files path ∨
        ∃ text, next.files path = some text ∧ json.toVec (snapshotFromSession next.session) = .ok text :=
    step_file (tmpPath_ne named) stepped
  rcases run_copy each ran with same | ⟨earlier, later, middle, text, parts, reached, there, written⟩
  next => exact .inl (by rw [loadSnapshot, loadSnapshot, same])
  next => exact .inr ⟨earlier, later, middle, parts, reached, loadSnapshot_written undoes written there⟩

/-! ## When the file is current -/

omit [Ratio R] in
def Current (json : SerdeJson SessionSnapshot E) (server : SavingServer R) : Prop :=
  ∀ path, server.snapshotPath = some path -> loadSnapshot json path server.files = .ok (snapshotFromSession server.session)

/-- What the server has not noted as changed is in its file. -/
abbrev UpToDate (json : SerdeJson SessionSnapshot E) : SavingServer R -> Prop := Tracked (fun server => server.dirty) (Current json)

def noted (call : ServerCall R) (server : SavingServer R) : Prop :=
  server.running = false ∨ server.dirty = true ∨
    match call with
    | .message _ msg => quiet server.session msg
    | .onSession call =>
      ∀ next, server.session.call call = .ok next -> snapshotFromSession next = snapshotFromSession server.session
    | _ => True

def keepsPath : ServerCall R -> Bool
  | .setSnapshotPath _ => false
  | _ => true

structure Kept (json : SerdeJson SessionSnapshot E) (home : Option Path) (server : SavingServer R) : Prop where
  named : ∃ sessionName path, defaultSnapshotPath home sessionName = some path ∧ server.snapshotPath = some path
  upToDate : UpToDate json server

omit [Ratio R] in
theorem Current.same (current : Current json server) (path : next.snapshotPath = server.snapshotPath)
    (files : next.files = server.files) (same : snapshotFromSession next.session = snapshotFromSession server.session) :
    Current json next := by
  intro own is
  rw [files, same]
  exact current own (path.symm.trans is)

omit [Ratio R] in
theorem Kept.saveNow (undoes : json.Undoes) (kept : Kept json home server) (outcome : SaveOutcome) :
    Kept json home (server.saveNow json outcome) := by
  obtain ⟨sessionName, path, named, own⟩ := kept.named
  rcases @saveNow_cases _ _ json server outcome with ⟨pathless, -⟩ | ⟨used, is, files, saves⟩
  next => cases pathless.symm.trans own
  obtain rfl : path = used := Option.some.inj (own.symm.trans is)
  rcases saves with ⟨wrote, saved⟩ | ⟨failed, left⟩
  next =>
    rw [saved]
    refine ⟨⟨sessionName, path, named, own⟩, fun _ other its => ?_⟩
    obtain rfl : path = other := Option.some.inj (own.symm.trans its)
    obtain ⟨text, written, there⟩ := saveSession_saved (congrArg Prod.fst wrote)
    rw [wrote] at there
    exact loadSnapshot_written undoes written there
  next =>
    rw [left]
    refine ⟨⟨sessionName, path, named, own⟩, kept.upToDate.after (.inr (.inr ⟨rfl, fun current other its => ?_⟩))⟩
    obtain rfl : path = other := Option.some.inj (own.symm.trans its)
    have file := @saveSession_file _ _ json server.session path outcome server.files path (tmpPath_ne named path)
    rw [failed] at file
    rcases file with same | ⟨text, written, there⟩
    next => exact (congrArg (fun contents => loadSnapshot json path fun _ => contents) same).trans (current path own)
    next => exact loadSnapshot_written undoes written there

theorem step_kept (undoes : json.Undoes) {call : ServerCall R} (keeps : keepsPath call = true) (kept : Kept json home server)
    (notes : noted call server) : Ensures AnyPanic (step json home call server) (Kept json home) := by
  unfold step
  split
  next => exact kept
  next running =>
    -- A call notes what it changes, or it saves, or it touches neither.
    cases call with
    | message pty msg =>
      refine (handleMessage_noted pty server.toDaemonServer msg).bind fun answer changes => ⟨kept.named, kept.upToDate.after ?_⟩
      rcases changes with dirty | ⟨same, still⟩
      next => exact .inl dirty
      next =>
        rcases notes with stopped | dirty | quiet
        next => exact absurd (by rw [stopped]; rfl) running
        next => exact .inl (same.trans dirty)
        next => exact .inr (.inr ⟨same, fun current => current.same rfl rfl (still quiet)⟩)
    | onSession call =>
      dsimp only
      cases called : server.session.call call with
      | error panic => trivial
      | ok session =>
        refine ⟨kept.named, kept.upToDate.after ?_⟩
        rcases notes with stopped | dirty | quiet
        next => exact absurd (by rw [stopped]; rfl) running
        next => exact .inl dirty
        next => exact .inr (.inr ⟨rfl, fun current => current.same rfl rfl (quiet session called)⟩)
    | markDirty => exact ⟨kept.named, kept.upToDate.after (.inl rfl)⟩
    | setSnapshotPath path => cases keeps
    | wait nanos => exact ⟨kept.named, kept.upToDate.after (.inr (.inr ⟨rfl, fun current => current.same rfl rfl rfl⟩))⟩
    | saveNow outcome => exact kept.saveNow undoes outcome
    | maybeAutoSave outcome =>
      show Kept json home (server.maybeAutoSave json outcome).2
      rcases @maybeAutoSave_cases _ _ json server outcome with same | saved
      next => rw [same]; exact kept
      next => rw [saved]; exact kept.saveNow undoes outcome
    | renameSession newName moved =>
      show Kept json home (server.renameSession home newName moved)
      unfold renameSession
      split
      next =>
        refine ⟨?_, kept.upToDate.after (.inl rfl)⟩
        obtain ⟨sessionName, path, named, own⟩ := kept.named
        obtain ⟨there, is, -⟩ := Option.map_eq_some_iff.mp named
        exact ⟨newName, _, by rw [is]; rfl, by rw [is]; rfl⟩
      next => exact kept
    | shutdown outcome =>
      have saved := kept.saveNow undoes outcome
      exact ⟨saved.named, saved.upToDate.after (.inr (.inr ⟨rfl, fun current => current.same rfl rfl rfl⟩))⟩

end Runs

/-! ## A new server -/

def firstText : String :=
  "\x7b\n  \"name\": \"main\",\n  \"cols\": 80,\n  \"rows\": 24,\n  \"tab_count\": 1,\n  \"tab_names\": [\n    \"Tab 1\"\n  ],\n" ++
  "  \"tabs\": [\n    \x7b\n      \"name\": \"Tab 1\",\n      \"panes\": [\n        \x7b\n          \"id\": 0,\n" ++
  "          \"title\": \"\",\n          \"scrollback\": [],\n          \"working_directory\": null,\n" ++
  "          \"scroll_offset\": 0\n        \x7d\n      ],\n      \"active_pane_id\": 0\n    \x7d\n  ],\n" ++
  "  \"active_tab_index\": 0\n\x7d"

def firstSession : Session Rat := Session.new "main" 80 24

def firstJson : SerdeJson SessionSnapshot Unit where
  toVec snap := if snap = snapshotFromSession firstSession then .ok firstText.toUTF8.data.toList else .error ()
  fromSlice text := if text = firstText.toUTF8.data.toList then .ok (snapshotFromSession firstSession) else .error ()

theorem firstJson_undoes : firstJson.Undoes := by
  intro snap payload written
  simp only [firstJson] at written ⊢
  split at written
  next first =>
    cases written
    rw [if_pos rfl, first]
  next => cases written

def firstHome : Option Path := some "/home/user".toList

theorem saved_whole_first : ∃ server last : SavingServer Rat, start firstJson firstHome "main" (fun _ => none) = .ok server ∧
    run (step firstJson firstHome) [.saveNow .saved, .saveNow (.notWritten (some []))] server = .ok last ∧
      ∃ path, defaultSnapshotPath firstHome "main" = some path ∧
        (loadSnapshot firstJson path last.files = loadSnapshot firstJson path server.files ∨
          ∃ earlier later middle, [.saveNow .saved, .saveNow (.notWritten (some []))] = earlier ++ later ∧
            run (step firstJson firstHome) earlier server = .ok middle ∧
              loadSnapshot firstJson path last.files = .ok (snapshotFromSession middle.session)) :=
  ⟨_, _, rfl, rfl, _, rfl, saved_whole firstJson_undoes rfl rfl⟩

end SavingServer

end Emux
