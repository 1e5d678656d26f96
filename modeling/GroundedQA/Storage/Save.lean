import GroundedQA.Storage.Disk
import GroundedQA.Uuid
/-!
# Saving a file

A file is saved in steps: the missing directories above it are made one by one, the content goes to
a temporary file beside the target, that is brought to the disk, and it is moved over the target.
Only the last of these touches the target, and it shows all of the content at once. When a step
after the directories fails, the temporary file is taken away.

Any step may be refused by the disk, and a refused write may have written some of the content;
where steps just end, the program was stopped. `Save.run` is the save that meets no refusal.
-/

namespace GroundedQA.Storage

/-- What a save does next. -/
inductive Stage where
  /-- Make the directories that the names lead to from a place on. -/
  | enter (here : Place) (names : List String)
  /-- Create the temporary file. -/
  | create
  /-- Write the content into it. -/
  | write
  /-- Bring it to the disk. -/
  | sync
  /-- Move it over the target. -/
  | rename
  /-- Take it away, after a failure. -/
  | discard (fault : FileFault)
  /-- Nothing more. -/
  | finished (result : Except FileFault Unit)

/-- A save under way. -/
structure Save where
  target : String
  temporary : String
  content : ByteArray
  stage : Stage

/-- What the disk answers to a step. -/
inductive Answer where
  | granted
  /-- A write that is refused has written this many bytes. -/
  | refused (written : Nat)

namespace Save

/-- The path of a temporary file beside the target. -/
def temporaryPath (target : String) (id : Uuid) : String :=
  target ++ "." ++ id.simple ++ ".tmp"

/-- The steps of the directory of a path. -/
def parentSteps (path : String) : List String :=
  (Disk.properSteps path).dropLast

/-- The path of the directory of a path, with whatever stands between its steps. -/
def parentPath (path : String) : String :=
  let stays := fun step : String => step = "" || step = "."
  let steps := ((Disk.steps path).reverse.dropWhile stays).drop 1
  "/".intercalate (steps.dropWhile stays).reverse

def start (target : String) (id : Uuid) (content : ByteArray) : Save where
  target := target
  temporary := temporaryPath target id
  content := content
  stage :=
    if parentSteps target = [] then .create
    else
      match Disk.checkPath (parentPath target) with
      | .ok () => .enter [] (parentSteps target)
      | .error fault => .finished (.error fault)

/-- How many steps are left at most. -/
def remaining : Stage → Nat
  | .enter _ names => names.length + 6
  | .create => 5
  | .write => 4
  | .sync => 3
  | .rename => 2
  | .discard _ => 1
  | .finished _ => 0

/-- The directory that a save makes sure of next. -/
def enterDirectory (disk : Disk) (here : Place) (name : String) : Except FileFault (Place × Disk) := do
  let place ← Disk.step here name
  return (place, ← disk.makeDirectory place)

/-- What the disk has to do in a stage, with the stage that follows. -/
def advance (save : Save) (disk : Disk) : Except FileFault (Stage × Disk) :=
  match save.stage with
  | .enter _ [] => .ok (.create, disk)
  | .enter here (name :: names) => do
    let (place, disk) ← enterDirectory disk here name
    return (.enter place names, disk)
  | .create => do return (.write, ← disk.write save.temporary .empty)
  | .write => do return (.sync, ← disk.write save.temporary save.content)
  | .sync => .ok (.rename, disk)
  | .rename => do return (.finished (.ok ()), ← disk.rename save.temporary save.target)
  | .discard fault => do return (.finished (.error fault), ← disk.remove save.temporary)
  | .finished result => .ok (.finished result, disk)

/-- Where a save goes on after a fault. -/
def recover (fault : FileFault) : Stage → Stage
  | .enter .. => .finished (.error fault)
  | .discard fault => .finished (.error fault)
  | .finished result => .finished result
  | _ => .discard fault

/-- What a refused step leaves behind: of a write, its first bytes. -/
def leavings (save : Save) (written : Nat) (disk : Disk) : Disk :=
  match save.stage with
  | .write =>
    match disk.write save.temporary (save.content.extract 0 written) with
    | .ok disk => disk
    | .error _ => disk
  | _ => disk

def step (save : Save) (answer : Answer) (disk : Disk) : Save × Disk :=
  match answer with
  | .refused written =>
    ({ save with stage := recover .refused save.stage }, save.leavings written disk)
  | .granted =>
    match save.advance disk with
    | .ok (stage, disk) => ({ save with stage }, disk)
    | .error fault => ({ save with stage := recover fault save.stage }, disk)

theorem remaining_recover {stage : Stage} (fault : FileFault) (h : 0 < remaining stage) :
    remaining (recover fault stage) < remaining stage := by
  cases stage <;> simp_all [remaining, recover]

theorem remaining_advance {save : Save} {disk disk' : Disk} {stage : Stage}
    (h : 0 < remaining save.stage) (ha : save.advance disk = .ok (stage, disk')) :
    remaining stage < remaining save.stage := by
  have step {α : Type} {x : Except FileFault α} {f : α → Stage × Disk}
      (hx : (x >>= fun a => pure (f a)) = .ok (stage, disk')) : ∃ a, f a = (stage, disk') := by
    cases x with
    | ok a => exact ⟨a, by simpa [bind, Except.bind, pure, Except.pure] using hx⟩
    | error fault => simp [bind, Except.bind] at hx
  unfold advance at ha
  split at ha <;> rename_i hs <;> rw [hs] at h ⊢
  case h_1 | h_5 | h_8 =>
    simp only [Except.ok.injEq, Prod.mk.injEq] at ha
    simp [← ha.1, remaining] at h ⊢
  all_goals
    obtain ⟨a, ha⟩ := step ha
    simp only [Prod.mk.injEq] at ha
    simp [← ha.1, remaining]

/-- Each step brings a save nearer to its end. -/
theorem remaining_step {save : Save} (h : 0 < remaining save.stage) (answer : Answer) (disk : Disk) :
    remaining (save.step answer disk).1.stage < remaining save.stage := by
  unfold step
  split
  · exact remaining_recover _ h
  · split
    · next ha => exact remaining_advance h ha
    · exact remaining_recover _ h

/-- What a save that has ended came to. -/
def result? : Stage → Option (Except FileFault Unit)
  | .finished result => some result
  | _ => none

theorem remaining_pos {stage : Stage} (h : result? stage = none) : 0 < remaining stage := by
  cases stage <;> simp_all [remaining, result?]

/-- Takes steps that are all granted until nothing is left to do. -/
def run (save : Save) (disk : Disk) : Except FileFault Unit × Disk :=
  match _open : result? save.stage with
  | some result => (result, disk)
  | none => (save.step .granted disk).1.run (save.step .granted disk).2
termination_by remaining save.stage
decreasing_by exact remaining_step (remaining_pos _open) _ _

end Save

/-- Saves content at a path, through a temporary file named after `id`. -/
def Disk.save (disk : Disk) (path : String) (id : Uuid) (content : ByteArray) :
    Except FileFault Unit × Disk :=
  (Save.start path id content).run disk

end GroundedQA.Storage
