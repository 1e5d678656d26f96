import GroundedQA.Error
import GroundedQA.Text.Pieces
/-!
# A disk

A disk holds files and directories, each at the place that the names of the directories above it
and its own name make. Its root is a directory, and the one that every path starts from.

A path names a place step by step: each step has to start in a directory, an empty step and `.` stay
there, and `..` goes up. The last step may name something that is not there yet. Every change of a
disk is one of `insert` and `erase`, and `find?` says what they do.
-/

namespace GroundedQA.Storage

/-- The names that lead from the root to an entry. -/
abbrev Place := List String

/-- What stands at a place. -/
inductive Entry where
  | file (content : ByteArray)
  | directory

/-- Files and directories by their places. -/
structure Disk where
  entries : List (Place × Entry)

namespace Disk

/-- The disk with nothing but its root. -/
def empty : Disk := ⟨[]⟩

/-- What stands at a place. -/
def find? (disk : Disk) (place : Place) : Option Entry :=
  if place = [] then some .directory else disk.entries.lookup place

/-- Takes away what stands at a place. -/
def erase (disk : Disk) (place : Place) : Disk :=
  ⟨disk.entries.filter (·.1 ≠ place)⟩

/-- Puts an entry at a place, over what stood there. -/
def insert (disk : Disk) (place : Place) (entry : Entry) : Disk :=
  ⟨(place, entry) :: (disk.erase place).entries⟩

/-! ## Paths -/

/-- The longest name, in bytes. -/
def maxName : Nat := 255

/-- The longest path, in bytes. -/
def maxPath : Nat := 4095

/-- A path may be followed at all: it is not empty, not too long, and holds no NUL. -/
def checkPath (path : String) : Except FileFault Unit :=
  if maxPath < path.utf8ByteSize ∨ '\x00' ∈ path.toList then .error .invalidName
  else if path.isEmpty then .error .notFound
  else .ok ()

def steps (path : String) : List String :=
  (Text.pieces (· == '/') path.toList).map String.ofList

/-- The steps that lead somewhere else. -/
def properSteps (path : String) : List String :=
  (steps path).filter fun step => step ≠ "" && step ≠ "."

/-- Only a directory can be stepped from. -/
def checkDirectory (disk : Disk) (place : Place) : Except FileFault Unit :=
  match disk.find? place with
  | some .directory => .ok ()
  | some (.file _) => .error .notADirectory
  | none => .error .notFound

/-- The place one step away. -/
def step (here : Place) (name : String) : Except FileFault Place :=
  if name = "" ∨ name = "." then .ok here
  else if name = ".." then .ok here.dropLast
  else if maxName < name.utf8ByteSize then .error .invalidName
  else .ok (here ++ [name])

def walk (disk : Disk) : Place → List String → Except FileFault Place
  | here, [] => .ok here
  | here, name :: names => do
    disk.checkDirectory here
    disk.walk (← step here name) names

def locate (disk : Disk) (path : String) : Except FileFault Place := do
  checkPath path
  disk.walk [] (steps path)

/-! ## What programs do with a disk -/

def read (disk : Disk) (path : String) : Except FileFault ByteArray := do
  match disk.find? (← disk.locate path) with
  | some (.file content) => return content
  | some .directory => throw .isADirectory
  | none => throw .notFound

/-- Something stands at a path. Nothing does where a directory on the way is missing, but it cannot
be told where a file is in the way. -/
def occupied (disk : Disk) (path : String) : Except FileFault Bool :=
  match disk.locate path with
  | .ok place => .ok (disk.find? place).isSome
  | .error .notFound => .ok false
  | .error fault => .error fault

/-- Makes the file at a path have the given content. -/
def write (disk : Disk) (path : String) (content : ByteArray) : Except FileFault Disk := do
  let place ← disk.locate path
  match disk.find? place with
  | some .directory => throw .isADirectory
  | some (.file _) | none => return disk.insert place (.file content)

/-- Moves a file, over one that stands at the target; no other moment shows in between. -/
def rename (disk : Disk) (source target : String) : Except FileFault Disk := do
  let source ← disk.locate source
  let target ← disk.locate target
  match disk.find? source, disk.find? target with
  | some (.file content), none | some (.file content), some (.file _) =>
    return (disk.erase source).insert target (.file content)
  | some (.file _), some .directory | some .directory, _ => throw .isADirectory
  | none, _ => throw .notFound

/-- Takes away the file at a path. -/
def remove (disk : Disk) (path : String) : Except FileFault Disk := do
  let place ← disk.locate path
  match disk.find? place with
  | some (.file _) => return disk.erase place
  | some .directory => throw .isADirectory
  | none => throw .notFound

/-- Makes sure of one directory. -/
def makeDirectory (disk : Disk) (place : Place) : Except FileFault Disk :=
  match disk.find? place with
  | some .directory => .ok disk
  | some (.file _) => .error .notADirectory
  | none => .ok (disk.insert place .directory)

/-- Makes sure of a directory after each step; those made before a failure stay. -/
def makeDirectories (disk : Disk) : Place → List String → Disk × Except FileFault Unit
  | _, [] => (disk, .ok ())
  | here, name :: names =>
    match (do let place ← step here name; return (place, ← disk.makeDirectory place)) with
    | .ok (place, disk) => disk.makeDirectories place names
    | .error fault => (disk, .error fault)

/-- All paths, directories with a slash at their end, in ascending order. -/
def listing (disk : Disk) : List String :=
  let path : Place × Entry → String
    | (place, .file _) => "/".intercalate place
    | (place, .directory) => "/".intercalate place ++ "/"
  (disk.entries.map path).mergeSort fun a b => a ≤ b

/-! ## What stands where -/

@[simp] theorem find?_root (disk : Disk) : disk.find? [] = some .directory := by simp [find?]

theorem lookup_filter_ne {place other : Place} (h : other ≠ place) (entries : List (Place × Entry)) :
    (entries.filter (·.1 ≠ place)).lookup other = entries.lookup other := by
  induction entries with
  | nil => rfl
  | cons e entries ih =>
    obtain ⟨p, e⟩ := e
    by_cases hp : p = place
    · subst hp
      simp only [ne_eq, not_true_eq_false, decide_false, Bool.false_eq_true, not_false_eq_true,
        List.filter_cons_of_neg]
      rw [ih]
      simp [List.lookup_cons, beq_eq_false_iff_ne.2 h]
    · by_cases ho : other = p
      · subst ho; simp [h]
      · simp [hp, List.lookup_cons, beq_eq_false_iff_ne.2 ho] at ih ⊢
        exact ih

theorem lookup_filter_self (place : Place) (entries : List (Place × Entry)) :
    (entries.filter (·.1 ≠ place)).lookup place = none := by
  induction entries with
  | nil => rfl
  | cons e entries ih =>
    obtain ⟨p, e⟩ := e
    by_cases hp : p = place
    · simpa [hp] using ih
    · simpa [hp, List.lookup_cons, beq_eq_false_iff_ne.2 (Ne.symm hp)] using ih

theorem find?_erase (disk : Disk) {place : Place} (h : place ≠ []) (other : Place) :
    (disk.erase place).find? other = if other = place then none else disk.find? other := by
  by_cases ho : other = place
  · subst ho
    simp only [find?, erase, h, if_false, if_true]
    exact lookup_filter_self ..
  · simp only [find?, erase, ho, if_false]
    split
    · rfl
    · exact lookup_filter_ne ho _

theorem find?_insert (disk : Disk) {place : Place} (h : place ≠ []) (entry : Entry) (other : Place) :
    (disk.insert place entry).find? other = if other = place then some entry else disk.find? other := by
  by_cases ho : other = place
  · subst ho; simp [find?, insert, h]
  · simp only [find?, insert, ho, if_false]
    split
    · rfl
    · simp only [List.lookup_cons, beq_eq_false_iff_ne.2 ho]
      exact lookup_filter_ne ho _

end Disk

end GroundedQA.Storage
