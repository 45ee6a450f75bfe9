import DensityGraph.Proofs.Job.Settings
import DensityGraph.Proofs.Storage.Atomic
import DensityGraph.Proofs.Workspace.Retained
import DensityGraph.Proofs.Workspace.Stored

/-!
# What a job does

A job that has been read has settings and numbers of observations that are used
without fault.  What one of its steps brings into the workspace is there at the end,
and nothing is written before all of them have succeeded.
-/

namespace DensityGraph.Job

open DensityGraph.Random (Stream)
open DensityGraph.Sampling (Stop)

variable {job : Job} {w before after last : Workspace} {now : Timestamp} {stream rest : Stream}
  {request : DatasetRequest} {requests : List DatasetRequest} {names : List String} {d : Dataset}

/-- The requested data set is there, with as many rows and the columns that were asked for. -/
def DatasetRequest.Fulfilled (request : DatasetRequest) (w : Workspace) : Prop :=
  ∃ d, w.datasets.get? request.dataset = some d ∧ d.name = request.dataset ∧ d.size = request.count ∧
    request.observables.names w = .ok d.columns

theorem Observables.names_retained {observables : Observables} (retains : before.Retains after)
    (named : observables.names before = .ok names) : observables.names after = .ok names := by
  cases observables with
  | given list => exact named
  | set name =>
      change before.set name = .ok names at named
      change after.set name = .ok names
      unfold Workspace.set at named ⊢
      split at named
      case h_1 members found =>
        rw [retains.sets found]
        exact named
      case h_2 => cases named

theorem DatasetRequest.Fulfilled.retained (retains : before.Retains after) (fulfilled : request.Fulfilled before) :
    request.Fulfilled after := by
  obtain ⟨d, found, named, size, columns⟩ := fulfilled
  exact ⟨d, retains.datasets found, named, size, Observables.names_retained retains columns⟩

/-- A data set is generated from the stream of the seed, or from the one given. -/
theorem exists_of_drawRequest (drawn : drawRequest w stream request = .ok (d, rest)) :
    ∃ names start behind, request.observables.names w = .ok names ∧
      w.generate request.density names request.count start = .ok (d, behind) := by
  unfold drawRequest at drawn
  split at drawn
  case h_1 => cases drawn
  case h_2 names named =>
    split at drawn
    case h_1 seed _ =>
      obtain ⟨other, seeded, same⟩ := map_eq_ok.1 drawn
      obtain ⟨result, generated, isFirst⟩ := map_eq_ok.1 seeded
      obtain ⟨rfl, _⟩ := Prod.mk.inj same
      subst isFirst
      exact ⟨names, Stream.ofSeed seed, result.2, named, generated⟩
    case h_2 => exact ⟨names, stream, rest, named, drawn⟩

theorem sparesToo_drawRequest (reachable : w.Reachable) (configured : w.sampling.check = .ok ())
    (positive : request.count ≠ 0) : SparesToo (drawRequest w stream request) := by
  have spares : ∀ names start, SparesToo (w.generate request.density names request.count start) :=
    fun _ _ => Sampling.spares_generate reachable.valid.coherent positive configured
  unfold drawRequest
  split
  case h_1 e failed =>
    refine .error ?_
    have sparesNames : Spares (request.observables.names w) := by
      cases request.observables with
      | set name => exact Workspace.spares_set
      | given list => exact .ok list
    exact sparesNames e failed
  case h_2 names _ =>
    split
    · exact (spares names _).map.map
    · exact spares names stream

theorem addDatasets_cons_eq_ok :
    addDatasets w stream (request :: requests) = .ok last ↔
      ∃ d rest changed, drawRequest w stream request = .ok (d, rest) ∧
        w.importDataset (d.rename request.dataset) = .ok changed ∧ addDatasets changed rest requests = .ok last := by
  rw [addDatasets]
  cases drawRequest w stream request with
  | error stop => simp
  | ok result =>
      obtain ⟨d, rest⟩ := result
      cases imported : w.importDataset (d.rename request.dataset) with
      | error e => simp [imported]
      | ok changed => simp [imported]

/-- Data sets that have been added stay while others are. -/
theorem retains_addDatasets (added : addDatasets w stream requests = .ok last) :
    w.Retains last ∧ ∀ request ∈ requests, request.Fulfilled last := by
  induction requests generalizing w stream with
  | nil =>
      obtain rfl := Except.ok.inj added
      exact ⟨.refl w, List.forall_mem_nil _⟩
  | cons request others ih =>
      obtain ⟨d, rest, changed, drawn, imported, added⟩ := addDatasets_cons_eq_ok.1 added
      obtain ⟨names, start, behind, named, generated⟩ := exists_of_drawRequest drawn
      obtain ⟨retains, found⟩ := Workspace.retains_importDataset generated imported
      obtain ⟨columns, _, size, _⟩ := Sampling.shape_of_generate generated
      obtain ⟨retainsOthers, fulfilled⟩ := ih added
      have first : request.Fulfilled changed :=
        ⟨_, found, rfl, size, (Observables.names_retained retains named).trans (congrArg _ columns.symm)⟩
      exact ⟨retains.trans retainsOthers, List.forall_mem_cons.mpr ⟨first.retained retainsOthers, fulfilled⟩⟩

theorem sparesToo_addDatasets (reachable : w.Reachable) (configured : w.sampling.check = .ok ())
    (positive : ∀ request ∈ requests, request.count ≠ 0) : SparesToo (addDatasets w stream requests) := by
  induction requests generalizing w stream with
  | nil => exact .ok w
  | cons request others ih =>
      rw [List.forall_mem_cons] at positive
      rw [addDatasets]
      split
      case h_1 stop stopped => exact (sparesToo_drawRequest reachable configured positive.1).passed stopped
      case h_2 d rest drawn =>
        split
        case h_1 e failed => exact .error (Workspace.spares_importDataset e failed)
        case h_2 changed imported =>
          obtain ⟨_, _, _, _, generated⟩ := exists_of_drawRequest drawn
          obtain ⟨retains, _⟩ := Workspace.retains_importDataset generated imported
          exact ih (retains.reachable reachable) (by rwa [retains.sampling]) positive.2

/-- What the check of a job asks for. -/
structure Checked (job : Job) : Prop where
  sampling : job.sampling.check = .ok ()
  storage : job.storage.check = .ok ()
  declares : job.declarations ≠ []
  positive : ∀ request ∈ job.requests, request.count ≠ 0

theorem check_eq_ok : job.check = .ok () ↔ job.Checked := by
  simp only [check, bind_eq_ok, exists_unit, throw_bind, guard_eq_ok, List.isEmpty_iff]
  split
  case h_1 request found =>
    have member := List.mem_of_find?_eq_some found
    have zero : request.count = 0 := by simpa using List.find?_some found
    constructor
    · rintro ⟨_, _, _, impossible⟩
      cases impossible
    · exact fun checked => absurd zero (checked.positive request member)
  case h_2 none =>
    have positive : ∀ request ∈ job.requests, request.count ≠ 0 := by simpa using none
    exact ⟨fun ⟨sampling, storage, declares, _⟩ => ⟨sampling, storage, declares, positive⟩,
      fun checked => ⟨checked.sampling, checked.storage, checked.declares, rfl⟩⟩

theorem checked_of_ofText {text : String} (read : ofText text = .ok job) : job.Checked := by
  unfold ofText at read
  split at read
  case h_1 => cases read
  case h_2 other _ =>
    simp only [bind_eq_ok, exists_unit, pure_eq_ok] at read
    obtain ⟨checked, rfl⟩ := read
    exact check_eq_ok.1 checked

/-- A workspace that can do a job: its settings are those of the job. -/
structure Serves (w : Workspace) (job : Job) : Prop where
  reachable : w.Reachable
  sampling : w.sampling = job.sampling
  storage : w.storage = job.storage

theorem Serves.retained (serves : Serves before job) (retains : before.Retains after) : Serves after job :=
  ⟨retains.reachable serves.reachable, retains.sampling.trans serves.sampling, retains.storage.trans serves.storage⟩

/-- The empty workspace of a checked job gets the settings of the job. -/
theorem exists_start (checked : job.Checked) (now : Timestamp) :
    ∃ w, (Workspace.new job.name now).withConfig job.sampling job.storage = .ok w ∧ Serves w job := by
  have configured : (Workspace.new job.name now).withConfig job.sampling job.storage =
      .ok { Workspace.new job.name now with sampling := job.sampling, storage := job.storage } := by
    rw [Workspace.withConfig, checked.sampling, checked.storage]
    rfl
  exact ⟨_, configured, .withConfig (.new _ _) configured, rfl, rfl⟩

theorem spares_model (checked : job.Checked) : Spares (job.model now) := by
  obtain ⟨w, configured, _⟩ := exists_start checked now
  unfold model
  rw [configured, ok_bind]
  refine FailsWith.bind (.foldlM fun w text => Workspace.spares_declare.map) fun w => ?_
  refine FailsWith.bind (.foldlM fun w entry => Workspace.spares_defineSet) fun w => ?_
  refine FailsWith.bind (.foldlM fun w entry => Workspace.spares_setValue) fun w => ?_
  exact .foldlM fun w request => Workspace.spares_saveSnapshot

/-- The model of a job has its settings, its sets and snapshots of the requested names. -/
theorem serves_of_model (checked : job.Checked) (modelled : job.model now = .ok w) :
    Serves w job ∧
      (∀ entry ∈ job.sets.entries, w.sets.get? entry.1 = some (entry.2.map Text.trim)) ∧
        ∀ request ∈ job.snapshots, w.snapshots.contains request.name = true := by
  obtain ⟨start, configured, serves⟩ := exists_start checked now
  simp only [model, configured, ok_bind, bind_eq_ok] at modelled
  obtain ⟨declared, declaring, defined, defining, valued, setting, saving⟩ := modelled
  have declares : start.Retains declared := by
    refine (Workspace.retains_foldlM (fun _ _ => True) (fun _ => id) ?_ declaring).1
    intro text before after stepped
    obtain ⟨⟨name, changed⟩, done, rfl⟩ := map_eq_ok.1 stepped
    exact ⟨Workspace.retains_declare done, trivial⟩
  obtain ⟨defines, sets⟩ := Workspace.retains_foldlM
    (fun entry w => w.sets.get? entry.1 = some (entry.2.map Text.trim))
    (fun retains => retains.sets) Workspace.retains_defineSet defining
  have sets_values : defined.Retains valued := by
    refine (Workspace.retains_foldlM (fun _ _ => True) (fun _ => id) ?_ setting).1
    exact fun stepped => ⟨Workspace.retains_setValue stepped, trivial⟩
  obtain ⟨saves, snapshots⟩ := Workspace.retains_foldlM
    (fun request w => w.snapshots.contains request.name = true)
    (fun retains => retains.snapshots) Workspace.retains_saveSnapshot saving
  have later : defined.Retains w := sets_values.trans saves
  exact ⟨serves.retained (declares.trans (defines.trans later)), fun entry member => later.sets (sets entry member),
    snapshots⟩

/-- The workspace has all that the job asks for: every set, a snapshot of every name,
and every data set with as many rows and the columns that were asked for. -/
structure Fulfilled (job : Job) (w : Workspace) : Prop where
  sets : ∀ entry ∈ job.sets.entries, w.sets.get? entry.1 = some (entry.2.map Text.trim)
  snapshots : ∀ request ∈ job.snapshots, w.snapshots.contains request.name = true
  datasets : ∀ request ∈ job.requests, request.Fulfilled w

theorem build_eq_ok : job.build now stream = .ok w ↔
    ∃ modelled, job.model now = .ok modelled ∧ addDatasets modelled stream job.requests = .ok w := by
  unfold build
  cases job.model now with
  | error e => simp
  | ok modelled => simp

theorem serves_of_build (checked : job.Checked) (built : job.build now stream = .ok w) :
    Serves w job ∧ job.Fulfilled w := by
  obtain ⟨modelled, model, added⟩ := build_eq_ok.1 built
  obtain ⟨serves, sets, snapshots⟩ := serves_of_model checked model
  obtain ⟨retains, datasets⟩ := retains_addDatasets added
  exact ⟨serves.retained retains, fun entry member => retains.sets (sets entry member),
    fun request member => retains.snapshots (snapshots request member), datasets⟩

theorem sparesToo_build (checked : job.Checked) : SparesToo (job.build now stream) := by
  unfold build
  split
  case h_1 e failed => exact .error (spares_model checked e failed)
  case h_2 modelled model =>
    obtain ⟨serves, _⟩ := serves_of_model checked model
    apply sparesToo_addDatasets serves.reachable _ checked.positive
    rw [serves.sampling]
    exact checked.sampling

variable {attempt : Storage.Attempt} {directory ended : Directory}

theorem run_of_build_eq_error {stop : Stop} (failed : job.build now stream = .error stop) :
    job.run attempt directory now stream = (.error stop, directory) := by
  simp only [run, failed]

/-- A run that fails has not been built, or it cannot be saved. -/
theorem run_eq_error {stop : Stop} (failed : job.run attempt directory now stream = (.error stop, ended)) :
    (job.build now stream = .error stop ∧ ended = directory) ∨
      ∃ w e, job.build now stream = .ok w ∧ w.save attempt directory job.output = (.error e, ended) ∧
        stop = .error e := by
  unfold run at failed
  split at failed
  case h_1 stopped =>
    obtain ⟨same, rfl⟩ := Prod.mk.inj failed
    obtain rfl := Except.error.inj same
    exact .inl ⟨stopped, rfl⟩
  case h_2 w built =>
    split at failed
    case h_1 e after saved =>
      obtain ⟨same, rfl⟩ := Prod.mk.inj failed
      exact .inr ⟨w, e, built, saved, (Except.error.inj same).symm⟩
    case h_2 => cases (Prod.mk.inj failed).1

theorem run_eq_ok : job.run attempt directory now stream = (.ok w, ended) ↔
    job.build now stream = .ok w ∧ ∃ size, w.save attempt directory job.output = (.ok size, ended) := by
  unfold run
  constructor
  · intro ran
    split at ran
    case h_1 => cases (Prod.mk.inj ran).1
    case h_2 other built =>
      split at ran
      case h_1 => cases (Prod.mk.inj ran).1
      case h_2 size after saved =>
        obtain ⟨same, rfl⟩ := Prod.mk.inj ran
        obtain rfl := Except.ok.inj same
        exact ⟨built, size, saved⟩
  · rintro ⟨built, size, saved⟩
    simp only [built, saved]

/-- No run is stopped by the settings or by a number of observations. -/
theorem sparesSettings_of_run_eq_error {stop : Stop} (checked : job.Checked)
    (failed : job.run attempt directory now stream = (.error stop, ended)) : stop.sparesSettings = true := by
  obtain ⟨stopped, _⟩ | ⟨w, e, built, unsaved, rfl⟩ := run_eq_error failed
  · exact sparesToo_build checked stop stopped
  · obtain ⟨serves, _⟩ := serves_of_build checked built
    have configured : w.storage.check = .ok () := by
      rw [serves.storage]
      exact checked.storage
    exact Workspace.sparesSettings_of_save configured unsaved

theorem directory_of_run_eq_error {stop : Stop}
    (failed : job.run attempt directory now stream = (.error stop, ended)) : ended = directory := by
  obtain ⟨_, unchanged⟩ | ⟨_, _, _, unsaved, _⟩ := run_eq_error failed
  · exact unchanged
  · exact Storage.save_eq_error unsaved

/-- Whatever a job that has been read asks for, neither building it nor running it
fails for its settings or for a number of observations.  If a step of building fails,
or if the run fails at all, every file is left as it was; if the run succeeds, the
workspace is the one that is built, it has all that the job asks for, and the output
path leads to its artifact, while every other file is left as it was. -/
theorem run_all_or_nothing {text : String} (read : ofText text = .ok job) (now : Timestamp) (stream : Stream)
    (attempt : Storage.Attempt) (directory : Directory) :
    (∀ stop, job.build now stream = .error stop ∨ (job.run attempt directory now stream).1 = .error stop →
      (∀ fault, stop ≠ .error (.config fault)) ∧ ∀ count, stop ≠ .error (.invalidSampleCount count)) ∧
    (∀ stop, job.build now stream = .error stop →
      job.run attempt directory now stream = (.error stop, directory)) ∧
    (∀ stop ended, job.run attempt directory now stream = (.error stop, ended) → ended = directory) ∧
    ∀ w ended, job.run attempt directory now stream = (.ok w, ended) →
      job.build now stream = .ok w ∧ job.Fulfilled w ∧ Storage.Written directory ended job.output w.toJson := by
  have checked := checked_of_ofText read
  refine ⟨?_, fun _ => run_of_build_eq_error, fun _ _ => directory_of_run_eq_error, ?_⟩
  · rintro stop (stopped | failed)
    · exact Stop.sparesSettings_iff.1 (sparesToo_build checked stop stopped)
    · exact Stop.sparesSettings_iff.1 (sparesSettings_of_run_eq_error checked (Prod.ext failed rfl))
  · intro w ended ran
    obtain ⟨built, size, saved⟩ := run_eq_ok.1 ran
    exact ⟨built, (serves_of_build checked built).2, Storage.written_of_save saved⟩

/-- A job with a set, a snapshot and a data set of one row. -/
def oneObservation : Job where
  name := standardName
  output := "a"
  declarations := ["Uniform::u(x[0,1])"]
  sets := ⟨[("seen", ["x"])]⟩
  values := NameMap.empty
  snapshots := [⟨"start", ["x"]⟩]
  requests := [⟨"u", .set "seen", 1, "d", none⟩]
  sampling := .standard
  storage := .standard

def oneObservationText : String :=
  "output = \"a\"\ndeclarations = [\"Uniform::u(x[0,1])\"]\nsets.seen = [\"x\"]\n" ++
    "[[snapshots]]\nname = \"start\"\nparameters = [\"x\"]\n" ++
    "[[generate]]\npdf = \"u\"\nobservables = \"seen\"\ncount = 1\ndataset = \"d\""

-- The readers of values call one another, so that their equations have to be used to evaluate them.
theorem ofText_oneObservation : ofText oneObservationText = .ok oneObservation := by
  have read : Toml.read? oneObservationText = some
      [("output", .string "a"), ("declarations", .array .value [.string "Uniform::u(x[0,1])"]),
        ("sets", .table .dotted [("seen", .array .value [.string "x"])]),
        ("snapshots", .array .header
          [.table .header [("name", .string "start"), ("parameters", .array .value [.string "x"])]]),
        ("generate", .array .header [.table .header [("pdf", .string "u"), ("observables", .string "seen"),
          ("count", .integer 1), ("dataset", .string "d")]])] := by
    cbv
  rw [ofText, read]
  rfl

/-- The path of the job is taken. -/
theorem exists_run_oneObservation : ∃ w ended,
    oneObservation.run (.smooth "t") Storage.twoFiles ⟨0, 0, 0⟩ (Stream.ofWords [0]) = (.ok w, ended) := by
  obtain ⟨w, built, tested⟩ := @exists_ok_of_any _ _ (oneObservation.build ⟨0, 0, 0⟩ (Stream.ofWords [0]))
    (fun w => decide (w.toJson.compact.utf8ByteSize ≤ w.storage.maxSize ∧
      (Storage.replace (.smooth "t") Storage.twoFiles "a" w.storage.syncOnWrite
        (Artifact.frame (Artifact.payload w.toJson))).1.toBool = true)) (by decide +kernel)
  obtain ⟨short, succeeded⟩ := of_decide_eq_true tested
  have fits : (Artifact.payload w.toJson).length ≤ w.storage.maxSize := by
    rwa [Artifact.payload, Text.length_encode]
  obtain ⟨_, replaced⟩ := exists_ok_of_toBool succeeded
  have configured : w.storage.check = .ok () := by
    rw [(serves_of_build (checked_of_ofText ofText_oneObservation) built).1.storage]
    rfl
  exact ⟨w, _, run_eq_ok.2 ⟨built, _, Storage.save_eq_ok configured fits (Prod.ext replaced rfl)⟩⟩

/-- A job with a declaration that lacks its body. -/
def missingBody : Job :=
  { oneObservation with declarations := ["x"], sets := NameMap.empty, snapshots := [], requests := [] }

theorem ofText_missingBody : ofText "output = \"a\"\ndeclarations = [\"x\"]" = .ok missingBody := by
  have read : Toml.read? "output = \"a\"\ndeclarations = [\"x\"]" =
      some [("output", .string "a"), ("declarations", .array .value [.string "x"])] := by
    cbv
  rw [ofText, read]
  rfl

/-- The one job is done, has what it asks for, and replaces the first of two files; the
other one cannot be built, and leaves both files as they are. -/
theorem run_all_or_nothing_oneObservation :
    ofText oneObservationText = .ok oneObservation ∧
      (∃ w ended, oneObservation.run (.smooth "t") Storage.twoFiles ⟨0, 0, 0⟩ (Stream.ofWords [0]) = (.ok w, ended) ∧
        w.sets.get? "seen" = some ["x"] ∧ w.snapshots.contains "start" = true ∧
        (∃ d, w.datasets.get? "d" = some d ∧ d.size = 1 ∧ d.columns = ["x"]) ∧
        Storage.Written Storage.twoFiles ended "a" w.toJson ∧ ended.get? "b" = some [2]) ∧
      ofText "output = \"a\"\ndeclarations = [\"x\"]" = .ok missingBody ∧
      ∃ stop, missingBody.run (.smooth "t") Storage.twoFiles ⟨0, 0, 0⟩ (Stream.ofWords []) = (.error stop, Storage.twoFiles) ∧
        ∀ fault, stop ≠ .error (.config fault) := by
  refine ⟨ofText_oneObservation, ?_, ofText_missingBody, ?_⟩
  · obtain ⟨w, ended, ran⟩ := exists_run_oneObservation
    obtain ⟨_, _, _, does⟩ :=
      run_all_or_nothing ofText_oneObservation ⟨0, 0, 0⟩ (Stream.ofWords [0]) (.smooth "t") Storage.twoFiles
    obtain ⟨_, fulfilled, written⟩ := does w ended ran
    have held : w.sets.get? "seen" = some ["x"] := fulfilled.sets ("seen", ["x"]) (List.mem_singleton_self _)
    obtain ⟨d, found, _, size, columns⟩ := fulfilled.datasets _ (List.mem_singleton_self _)
    have sameColumns : w.set "seen" = .ok d.columns := columns
    rw [Workspace.set, held] at sameColumns
    have others : ended.get? "b" = some [2] := by
      obtain ⟨name, _, _, named, _, _, unchanged⟩ := written
      have only : Path.fileName? "a" = some "a" := by decide +kernel
      obtain rfl : "a" = name := Option.some.inj (only.symm.trans named)
      exact unchanged "b" (by decide)
    exact ⟨w, ended, ran, held, fulfilled.snapshots _ (List.mem_singleton_self _),
      ⟨d, found, size, (Except.ok.inj sameColumns).symm⟩, written, others⟩
  · obtain ⟨spares, unchanged, _⟩ :=
      run_all_or_nothing ofText_missingBody ⟨0, 0, 0⟩ (Stream.ofWords []) (.smooth "t") Storage.twoFiles
    have refused : (missingBody.build ⟨0, 0, 0⟩ (Stream.ofWords [])).toBool = false := by decide +kernel
    cases built : missingBody.build ⟨0, 0, 0⟩ (Stream.ofWords []) with
    | ok w =>
        rw [built] at refused
        cases refused
    | error stop => exact ⟨stop, unchanged stop built, (spares stop (.inl built)).1⟩

end DensityGraph.Job
