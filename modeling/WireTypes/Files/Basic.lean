import WireTypes.Files.Path
import WireTypes.Text.Quoted

/-! Files: the part of a file system that a run can see. It is made of folders and of regular files
that can be read. There are no links and no special files, such as an output stream with a name.
What the device below does with a text that is written is left open (`Device`). -/

namespace WireTypes

open Text

/-- What a file holds. -/
inductive Content where
  | text (t : Text)
  /-- Bytes that are no text. -/
  | binary
deriving DecidableEq, Repr

/-- What a file holds that takes so many bytes of a text. A character that is cut leaves bytes that
are no text. -/
def Content.start : Nat → Text → Content
  | _, [] => .text []
  | size, c :: rest =>
    if size = 0 then .text []
    else if size < c.utf8Size then .binary
    else
      match start (size - c.utf8Size) rest with
      | .text t => .text (c :: t)
      | .binary => .binary

/-- A file or a folder. -/
inductive FileEntry where
  | file (content : Content)
  | folder
deriving DecidableEq, Repr

/-- Where names are looked up. -/
inductive Anchor where
  /-- The working folder, or the folder that many levels above it. -/
  | above (levels : Nat)
  /-- The root. -/
  | root
deriving DecidableEq, Repr

/-- A place in the file system, without steps to parents. -/
structure FilePlace where
  anchor : Anchor
  names : List Text
deriving DecidableEq, Repr

/-- Files and folders by place. -/
abbrev Files := List (FilePlace × FileEntry)

/-- Why a file cannot be used. -/
inductive FileFault where
  | missing
  | isFolder
  /-- A name on the way is a file. -/
  | notFolder
  /-- A name on the way, or the path as a whole, is too long. -/
  | tooLong
  /-- The path holds a character that no name may hold. -/
  | badName
deriving DecidableEq, Repr

namespace FileFault

/-- The words for a fault that the file system reports. -/
def words : FileFault → Text
  | missing => "[Errno 2] No such file or directory".toList
  | isFolder => "[Errno 21] Is a directory".toList
  | notFolder => "[Errno 20] Not a directory".toList
  | tooLong => "[Errno 36] File name too long".toList
  | badName => "embedded null byte".toList

/-- The wording of the fault. -/
def message (f : FileFault) (p : Path) : Text := f.words ++ ": ".toList ++ quoted p.toText

end FileFault

/-- Why a device does not take a text. -/
inductive DeviceFault where
  | broken
  | denied
  /-- The file would be too large. -/
  | tooLarge
  /-- There is no space left. -/
  | full
  | readOnly
  /-- The user has no space left. -/
  | overQuota
deriving DecidableEq, Repr

/-- The words for a fault that the device reports. -/
def DeviceFault.words : DeviceFault → Text
  | broken => "[Errno 5] Input/output error".toList
  | denied => "[Errno 13] Permission denied".toList
  | tooLarge => "[Errno 27] File too large".toList
  | full => "[Errno 28] No space left on device".toList
  | readOnly => "[Errno 30] Read-only file system".toList
  | overQuota => "[Errno 122] Disk quota exceeded".toList

/-- What a device does with a text for a file. -/
inductive Intake where
  /-- It takes all of the text. -/
  | whole
  /-- It does not open the file. -/
  | closed (cause : DeviceFault)
  /-- It opens the file, which leaves it empty, and breaks off behind so many bytes. -/
  | cut (size : Nat) (cause : DeviceFault)
deriving DecidableEq, Repr

/-- A device, by what it does with a text for the file at a place. -/
abbrev Device := FilePlace → Text → Intake

/-- The device that takes every text. -/
def Device.sound : Device := fun _ _ => .whole

/-- Why a text is not written, or not as a whole. -/
inductive WriteFault where
  /-- The path does not lead to a file. -/
  | path (cause : FileFault)
  /-- The device does not open the file. -/
  | closed (cause : DeviceFault)
  /-- The device breaks off. -/
  | cut (cause : DeviceFault)
deriving DecidableEq, Repr

/-- The wording of the fault. A file that was opened is not named. -/
def WriteFault.message (p : Path) : WriteFault → Text
  | path cause => cause.message p
  | closed cause => cause.words ++ ": ".toList ++ quoted p.toText
  | cut cause => cause.words

namespace FilePlace

/-- The place of a name in a folder. -/
def child (place : FilePlace) (name : Text) : FilePlace := ⟨place.anchor, place.names ++ [name]⟩

/-- The folder that holds a place. -/
def parent (place : FilePlace) : FilePlace :=
  match place.anchor, place.names with
  | .above levels, [] => ⟨.above (levels + 1), []⟩
  | anchor, names => ⟨anchor, names.dropLast⟩

/-- The place of a name as seen from a place; two dots stand for the folder that holds it. -/
def step (place : FilePlace) (name : Text) : FilePlace :=
  if name = Path.parentName then place.parent else place.child name

/-- Where the names of a path are looked up. -/
def start (p : Path) : FilePlace := ⟨if p.root.isEmpty then .above 0 else .root, []⟩

end FilePlace

namespace Files

/-- What is at a place. The anchors are folders. -/
def entryAt? (fs : Files) (place : FilePlace) : Option FileEntry :=
  if place.names.isEmpty then some .folder else (fs.find? (·.1 = place)).map (·.2)

/-- The place that names lead to from a place. Each step but the last one needs a folder, and so
does a step to the parent. A name shows that it is too long only when it is looked up. -/
def walk (fs : Files) (start : FilePlace) : List Text → Except FileFault FilePlace
  | [] => .ok start
  | name :: rest =>
    match fs.entryAt? start with
    | none => .error .missing
    | some (.file _) => .error .notFolder
    | some .folder =>
      if Path.maxNameSize < Path.size name then .error .tooLong else walk fs (start.step name) rest

/-- The place of a path. -/
def placeOf (fs : Files) (p : Path) : Except FileFault FilePlace :=
  if p.hasBadName then .error .badName
  else if Path.maxSize < Path.size p.toText then .error .tooLong
  else fs.walk (.start p) p.names

/-- What is at a path. -/
def entry (fs : Files) (p : Path) : Except FileFault FileEntry := do
  match fs.entryAt? (← fs.placeOf p) with
  | some e => return e
  | none => throw .missing

/-- What is found at a path, if anything. That a name is too long is a fault, and anything else that
stands in the way means that nothing is there. -/
def look (fs : Files) (p : Path) : Except FileFault (Option FileEntry) :=
  match fs.entry p with
  | .ok e => .ok (some e)
  | .error .tooLong => .error .tooLong
  | .error _ => .ok none

/-- Whether there is something at a path. -/
def present (fs : Files) (p : Path) : Except FileFault Bool := do return (← fs.look p).isSome

/-- Whether there is a folder at a path. -/
def hasFolder (fs : Files) (p : Path) : Except FileFault Bool := do
  return (← fs.look p) = some .folder

/-- The file at a path; none if no file can be found there for whatever reason. -/
def file? (fs : Files) (p : Path) : Option Content :=
  match fs.entry p with
  | .ok (.file content) => some content
  | _ => none

/-- What the file at a path holds. -/
def read (fs : Files) (p : Path) : Except FileFault Content := do
  match ← fs.entry p with
  | .file content => return content
  | .folder => throw .isFolder

/-- Puts an entry at a place. -/
def put (fs : Files) (place : FilePlace) (e : FileEntry) : Files :=
  if fs.any (·.1 = place) then fs.map fun (p, old) => if p = place then (p, e) else (p, old)
  else fs ++ [(place, e)]

/-- Adds an entry below the working folder, with the folders on the way to it. -/
def create (fs : Files) (names : List Text) (e : FileEntry) : Files :=
  let folders := (List.range names.length).map fun n => (⟨.above 0, names.take n⟩ : FilePlace)
  let fs := (folders.filter fun place => (fs.entryAt? place).isNone).foldl (·.put · .folder) fs
  fs.put ⟨.above 0, names⟩ e

/-- The place of the file that a text for a path goes to. -/
def target (fs : Files) (p : Path) : Except FileFault FilePlace := do
  let place ← fs.placeOf p
  match fs.entryAt? place with
  | some .folder => throw .isFolder
  | _ => return place

/-- Writes a text to a path on a device: the files afterwards, and what went wrong. -/
def writeOn (device : Device) (fs : Files) (p : Path) (t : Text) : Files × Option WriteFault :=
  match fs.target p with
  | .error cause => (fs, some (.path cause))
  | .ok place =>
    match device place t with
    | .whole => (fs.put place (.file (.text t)), none)
    | .closed cause => (fs, some (.closed cause))
    | .cut size cause => (fs.put place (.file (.start size t)), some (.cut cause))

/-- The files after a text was written to a path on a device that takes every text. -/
def write (fs : Files) (p : Path) (t : Text) : Except FileFault Files := do
  return fs.put (← fs.target p) (.file (.text t))

end Files

end WireTypes
