import CsrCensus.Command.Machine
import CsrCensus.Command.Run
import CsrCensus.Proofs.Files.Disk

/-!
# The stages of a command

Each stage of a command, run on a machine: what it gives, and what it leaves
behind. To read the settings and the image, and to log what was found, changes
no file and prints nothing.
-/

namespace CsrCensus.Command.Machine

/-- A machine after more was logged. -/
def withLog (machine : Machine) (logged : Array Log.Record) : Machine :=
  { machine with logged }

@[simp]
theorem withLog_withLog (machine : Machine) (first second : Array Log.Record) :
    (machine.withLog first).withLog second = machine.withLog second := rfl

/-- The second task runs on what the first leaves behind, unless the first
fails. -/
theorem perform_bind
    {first second : Type} (machine : Machine)
    (task : Task (StateM Machine) first)
    (next : first → Task (StateM Machine) second) :
    machine.perform (task >>= next) =
      match machine.perform task with
      | (.ok value, after) => after.perform (next value)
      | (.error failure, after) => (.error failure, after) := by
  unfold perform
  rw [ExceptT.run_bind, StateT.run_bind]
  obtain ⟨outcome, after⟩ : Except Failure first × Machine :=
    task.run.run machine
  cases outcome <;> rfl

theorem perform_lift
    {result : Type} (machine : Machine) (action : StateM Machine result) :
    machine.perform (liftM action) =
      (.ok (action.run machine).1, (action.run machine).2) :=
  rfl

theorem perform_readFile (machine : Machine) (path : String) :
    machine.perform (readFile path) =
      ((machine.disk.read machine.directory path).mapError fun fault =>
        .file path (.access fault),
        machine) := by
  have read :
      (Host.read path : StateM Machine _).run machine =
        (machine.disk.read machine.directory path, machine) := rfl
  unfold readFile
  rw [perform_bind, perform_lift, read]
  cases machine.disk.read machine.directory path <;> rfl

theorem perform_logAll (machine : Machine) (records : List Log.Record) :
    ∃ logged,
      machine.perform (logAll records) = (.ok (), machine.withLog logged) := by
  induction records generalizing machine with
  | nil => exact ⟨machine.logged, rfl⟩
  | cons first rest inductionHypothesis =>
      have logs :
          (Host.log first : StateM Machine Unit).run machine =
            ((), machine.withLog (machine.logged.push first)) := rfl
      obtain ⟨logged, later⟩ :=
        inductionHypothesis (machine.withLog (machine.logged.push first))
      refine ⟨logged, ?_⟩
      change machine.perform (liftM (Host.log first : StateM Machine Unit) >>=
        fun _ => logAll rest) = _
      rw [perform_bind, perform_lift, logs]
      exact later

/-- The settings in a file of a machine, or the standard ones if no file is
named. -/
def HasSettings
    (machine : Machine) (path : Option String) (settings : Settings) : Prop :=
  match path with
  | none => settings = Settings.standard
  | some path =>
      ∃ contents document,
        machine.disk.read machine.directory path = .ok contents ∧
          Text.ofUtf8? contents = some document ∧
          Settings.ofDocument document = .ok settings

/-- The image in a file of a machine, inflated if it is compressed. -/
def HasImage (machine : Machine) (path : String) (image : Bytes) : Prop :=
  ∃ file,
    machine.disk.read machine.directory path = .ok file ∧
      Image.ofFile path file = .ok image

theorem perform_readSettings (machine : Machine) (path : String) :
    ∃ outcome,
      machine.perform (readSettings path) = (outcome, machine) ∧
        ∀ settings, outcome = .ok settings ↔
          machine.HasSettings (some path) settings := by
  unfold readSettings
  simp only [HasSettings]
  rw [perform_bind, perform_readFile]
  cases machine.disk.read machine.directory path with
  | error fault => exact ⟨_, rfl, by simp⟩
  | ok contents =>
      cases decoded : Text.ofUtf8? contents with
      | none =>
          refine ⟨.error (.file path .notUtf8), ?_, by simp [decoded]⟩
          simp only [Except.mapError, decoded]
          rfl
      | some document =>
          cases parsed : Settings.ofDocument document with
          | error fault =>
              refine ⟨.error (.settings document fault), ?_,
                by simp [decoded, parsed]⟩
              simp only [Except.mapError, decoded, parsed]
              rfl
          | ok settings =>
              refine ⟨.ok settings, ?_, by simp [decoded, parsed]⟩
              simp only [Except.mapError, decoded, parsed]
              rfl

theorem perform_chooseSettings (machine : Machine) (path : Option String) :
    ∃ outcome,
      machine.perform (chooseSettings path) = (outcome, machine) ∧
        ∀ settings, outcome = .ok settings ↔
          machine.HasSettings path settings := by
  cases path with
  | none =>
      exact ⟨.ok Settings.standard, rfl,
        fun settings => by simp [HasSettings, eq_comm]⟩
  | some path => exact machine.perform_readSettings path

theorem perform_readImage (machine : Machine) (path : String) :
    ∃ outcome logged,
      machine.perform (readImage path) = (outcome, machine.withLog logged) ∧
        ∀ image, outcome = .ok image ↔ machine.HasImage path image := by
  unfold readImage HasImage
  rw [perform_bind, perform_readFile]
  cases machine.disk.read machine.directory path with
  | error fault => exact ⟨_, machine.logged, rfl, by simp⟩
  | ok file =>
      cases inflated : Image.ofFile path file with
      | error fault =>
          refine ⟨.error (.file path (.gzip fault)), machine.logged, ?_,
            by simp [inflated]⟩
          simp only [Except.mapError, inflated]
          rfl
      | ok image =>
          obtain ⟨logged, logs⟩ :=
            machine.perform_logAll [Image.loadRecord path file image]
          refine ⟨.ok image, logged, ?_, by simp [inflated]⟩
          simp only [Except.mapError, inflated]
          rw [perform_bind, logs]
          rfl

/-- A command goes on with its settings and its image, or it fails if one of
them cannot be read. It has logged at most. -/
theorem perform_inputs
    {result : Type} (machine : Machine) (settingsPath : Option String)
    (imagePath : String)
    (next : Settings → Bytes → Task (StateM Machine) result) :
    (∃ settings image logged,
      machine.HasSettings settingsPath settings ∧
        machine.HasImage imagePath image ∧
        machine.perform
          (do next (← chooseSettings settingsPath) (← readImage imagePath)) =
          (machine.withLog logged).perform (next settings image)) ∨
    ((∀ settings image,
        ¬ (machine.HasSettings settingsPath settings ∧
          machine.HasImage imagePath image)) ∧
      ∃ failure logged,
        machine.perform
          (do next (← chooseSettings settingsPath) (← readImage imagePath)) =
          (.error failure, machine.withLog logged)) := by
  obtain ⟨chosen, chooses, chosen_iff⟩ :=
    machine.perform_chooseSettings settingsPath
  obtain ⟨loaded, logged, loads, loaded_iff⟩ :=
    machine.perform_readImage imagePath
  rw [perform_bind, chooses]
  cases chosen with
  | error failure =>
      refine .inr ⟨fun settings image => ?_, failure, machine.logged, rfl⟩
      rintro ⟨hasSettings, -⟩
      cases (chosen_iff settings).mpr hasSettings
  | ok settings =>
  simp only
  rw [perform_bind, loads]
  cases loaded with
  | error failure =>
      refine .inr ⟨fun settings image => ?_, failure, logged, rfl⟩
      rintro ⟨-, hasImage⟩
      cases (loaded_iff image).mpr hasImage
  | ok image =>
  exact .inl
    ⟨settings, image, logged, (chosen_iff settings).mp rfl,
      (loaded_iff image).mp rfl, rfl⟩

theorem perform_orFail
    {result : Type} (machine : Machine) (outcome : Except Image.Fault result) :
    machine.perform (orFail outcome) = (outcome.mapError .image, machine) := by
  cases outcome <;> rfl

/-- What was found is logged; then a command goes on with it, or fails for its
fault. -/
theorem perform_found
    {value result : Type} (machine : Machine) (records : List Log.Record)
    (outcome : Except Image.Fault value)
    (next : value → Task (StateM Machine) result) :
    ∃ logged,
      machine.perform (do logAll records; next (← orFail outcome)) =
        match outcome with
        | .ok found => (machine.withLog logged).perform (next found)
        | .error fault => (.error (.image fault), machine.withLog logged) := by
  obtain ⟨logged, logs⟩ := machine.perform_logAll records
  refine ⟨logged, ?_⟩
  rw [perform_bind, logs]
  simp only
  rw [perform_bind, perform_orFail]
  cases outcome <;> rfl

/-! ## Output -/

theorem perform_openTarget (machine : Machine) (path : String) :
    machine.perform (openTarget (.file path)) =
      match machine.disk.target machine.directory path with
      | .error fault => (.error (.file path (.access fault)), machine)
      | .ok location =>
          (.ok (.file location),
            { machine with disk := machine.disk.put location (.file []) }) := by
  have created :
      (Host.create path : StateM Machine _).run machine =
        match machine.disk.target machine.directory path with
        | .error fault => (.error fault, machine)
        | .ok location =>
            (.ok location,
              { machine with
                disk := machine.disk.put location (.file []) }) := by
    simp only [Host.create, StateT.run_bind, StateT.run_get, pure_bind]
    cases machine.disk.target machine.directory path <;> rfl
  unfold openTarget
  rw [perform_bind, perform_lift, created]
  cases machine.disk.target machine.directory path <;> rfl

theorem perform_writeOutput_file
    (machine : Machine) (location : Files.Location) (text : String) :
    machine.perform (writeOutput text (.file location)) =
      (.ok (), machine.extendFile location text) :=
  rfl

end CsrCensus.Command.Machine
