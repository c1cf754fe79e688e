/-
Workspace.Disk — a file system as far as looking files up is concerned.

A `Disk` lists its regular files with their bytes, its directories, and the
paths at which the operating system refuses to look. `Disk.look` answers for
a path taken literally: it passes every stem of the path that ends before a
slash, shortest first, and stops at the first refusal or at something that is
no directory. A path text that cannot be handed to the operating system is not
looked at in the first place (`Disk.spellingFault?`).

What a listing does not tell is a matter of the machine that the disk belongs
to (`Machine`): what else there is to read, what may be looked at and yet not
opened, how path texts are handed over, and how far a file is read before a
defect of its bytes shows.
-/
import Workspace.ContentFault
import Workspace.Decimal.Float

namespace Workspace

/-- A refusal by the operating system: its number and its description. -/
structure OsFault where
  number : Nat
  reason : String
  deriving DecidableEq, Repr

namespace OsFault

def notPermitted : OsFault := ⟨1, "Operation not permitted"⟩
def notFound : OsFault := ⟨2, "No such file or directory"⟩
def inputOutput : OsFault := ⟨5, "Input/output error"⟩
def denied : OsFault := ⟨13, "Permission denied"⟩
def notDirectory : OsFault := ⟨20, "Not a directory"⟩
def isDirectory : OsFault := ⟨21, "Is a directory"⟩
def nameTooLong : OsFault := ⟨36, "File name too long"⟩
def tooManyLinks : OsFault := ⟨40, "Too many levels of symbolic links"⟩

/-- A refusal that comes without a description. -/
def unexplained : OsFault := ⟨5, ""⟩

/-- The file is merely not there. -/
def isAbsence (f : OsFault) : Bool :=
  f.number = 2 || f.number = 20

/-- The full text of a refusal to look at `path`. -/
def describe (f : OsFault) (path : Text) : String :=
  "[Errno " ++ String.ofList (Decimal.natDigits f.number) ++ "] " ++ f.reason ++ ": "
    ++ Text.quote path

end OsFault

/-- What a path leads to. -/
inductive Entry where
  | file (content : ByteArray)
  | directory
  /-- A pipe, a device or a descriptor: no regular file, but it can be read. -/
  | stream (content : ByteArray)

/-- Why a text is no path. -/
inductive SpellingFault where
  /-- It holds the character that ends path texts. -/
  | nul
  /-- It holds surrogates that stand for no bytes. -/
  | surrogate (fault : EncodeFault)
  deriving DecidableEq, Repr

/-- Why a path leads to nothing. -/
inductive LookFault where
  | misspelled (fault : SpellingFault)
  | refused (fault : OsFault)
  deriving DecidableEq, Repr

/-- What the machine adds to the listing of a disk. The plain machine adds
nothing: all that there is to read is in regular files, and every text without
U+0000 is a path. -/
class Machine where
  /-- Path texts are handed over as UTF-8, where a surrogate from U+DC80 to
  U+DCFF stands for a byte and every other one for nothing. -/
  encodesPaths : Bool := false
  /-- Things that can be read without being regular files. -/
  streams : List (Text × ByteArray) := []
  /-- Things that may be looked at, and what refuses to open or to read them. -/
  locks : List (Text × OsFault) := []
  /-- How many characters of a file that is not UTF-8 are handed to a reader
  of YAML before the defect shows: a file is decoded in blocks. -/
  decodedBefore : ByteArray → Nat := fun _ => 0
  /-- How many characters of a file such a reader sees before it notices one
  that may not stand in YAML: characters are checked in blocks, too. -/
  checkedBefore : ByteArray → Nat := fun _ => 0

instance : Machine := {}

/-- Regular files, directories and refusals, each under its path text, on a
machine; without further notice that is the plain one. -/
structure Disk where
  files : List (Text × ByteArray)
  directories : List Text
  faults : List (Text × OsFault)
  [machine : Machine]

namespace Disk

def empty : Disk := ⟨[], [], []⟩

/-- The empty disk of a machine that hands over path texts as UTF-8. -/
def encoding : Disk := { empty with machine := { encodesPaths := true } }

/-! ## Path texts -/

/-- The code point cannot be handed over: it is a surrogate that stands for no
byte, and path texts are encoded. -/
def isStray (disk : Disk) : CodePoint → Bool
  | .char _ => false
  | .surrogate i => disk.machine.encodesPaths && !(0x480 ≤ i.val && i.val ≤ 0x4ff)

/-- The first surrogates that cannot be handed over; `position` code points
come before. Those that follow at once are counted in. -/
def encodeFault? (disk : Disk) (position : Nat) : Text → Option EncodeFault
  | [] => none
  | p :: rest =>
    if disk.isStray p then
      some ⟨p.toNat, position, (rest.takeWhile CodePoint.isSurrogate).length + 1⟩
    else encodeFault? disk (position + 1) rest

/-- Why a text is no path, if it is none. A text is encoded before its end is
looked for. -/
def spellingFault? (disk : Disk) (path : Text) : Option SpellingFault :=
  match disk.encodeFault? 0 path with
  | some fault => some (.surrogate fault)
  | none => if path.contains (.char '\x00') then some .nul else none

/-! ## Looking -/

/-- The stems of a path text that end before a slash, the empty one left out,
shortest first; `seen` is what precedes, last character first. -/
def stems (seen : Text) : Text → List Text
  | [] => []
  | c :: cs =>
    if c = .char '/' ∧ seen ≠ [] then seen.reverse :: stems (c :: seen) cs
    else stems (c :: seen) cs

/-- Several slashes at the start of a path count as one. -/
def collapseStart (path : Text) : Text :=
  match path with
  | .char '/' :: _ => .char '/' :: path.dropWhile (· = .char '/')
  | _ => path

/-- Some listed path lies below the path `p`. -/
def hasBelow (disk : Disk) (p : Text) : Bool :=
  let start := p ++ [.char '/']
  disk.files.any (fun f => start.isPrefixOf f.1) || disk.directories.any start.isPrefixOf
    || (disk.faults.any fun f => start.isPrefixOf f.1)
    || disk.machine.streams.any fun f => start.isPrefixOf f.1

/-- What lies at a path and is no directory. -/
def content? (disk : Disk) (p : Text) : Option Entry :=
  match disk.files.lookup p with
  | some content => some (.file content)
  | none => (disk.machine.streams.lookup p).map .stream

/-- The first refusal on the way down the stems, or the first thing that is no
directory, if any. -/
def obstacle? (disk : Disk) : List Text → Option OsFault
  | [] => none
  | stem :: rest =>
    match disk.faults.lookup stem with
    | some fault => some fault
    | none =>
      match disk.content? stem with
      | some _ => some .notDirectory
      | none => disk.obstacle? rest

/-- What lies at a path, taken literally. -/
def look (disk : Disk) (path : Text) : Except LookFault Entry :=
  match disk.spellingFault? path with
  | some fault => .error (.misspelled fault)
  | none =>
    let p := collapseStart path
    match disk.obstacle? (stems [] p) with
    | some fault => .error (.refused fault)
    | none =>
      match disk.faults.lookup p with
      | some fault => .error (.refused fault)
      | none =>
        match disk.content? p with
        | some entry => .ok entry
        | none =>
          if p = [.char '/'] ∨ disk.directories.contains p ∨ disk.hasBelow p then .ok .directory
          else .error (.refused .notFound)

/-- The bytes that can be read at a path: those of a regular file or of a
stream. Opening them can be refused although looking is not. -/
def read (disk : Disk) (path : Text) : Except LookFault ByteArray :=
  match disk.look path with
  | .error fault => .error fault
  | .ok entry =>
    match disk.machine.locks.lookup (collapseStart path) with
    | some fault => .error (.refused fault)
    | none =>
      match entry with
      | .file content | .stream content => .ok content
      | .directory => .error (.refused .isDirectory)

/-! ## Changes -/

def write (disk : Disk) (path : Text) (content : ByteArray) : Disk :=
  { disk with files := (path, content) :: disk.files.filter (·.1 ≠ path) }

def makeDirectory (disk : Disk) (path : Text) : Disk :=
  { disk with directories := path :: disk.directories.filter (· ≠ path) }

def breakAt (disk : Disk) (path : Text) (fault : OsFault) : Disk :=
  { disk with faults := (path, fault) :: disk.faults.filter (·.1 ≠ path) }

/-- The disk with something at the path that can be read and is no regular
file. -/
def streamAt (disk : Disk) (path : Text) (content : ByteArray) : Disk :=
  let streams := (path, content) :: disk.machine.streams.filter (·.1 ≠ path)
  { disk with machine := { disk.machine with streams } }

/-- The disk with a refusal to open what lies at the path. -/
def lockAt (disk : Disk) (path : Text) (fault : OsFault) : Disk :=
  let locks := (path, fault) :: disk.machine.locks.filter (·.1 ≠ path)
  { disk with machine := { disk.machine with locks } }

/-- The disk without anything listed under exactly this path. -/
def remove (disk : Disk) (path : Text) : Disk :=
  { disk with
    files := disk.files.filter (·.1 ≠ path)
    directories := disk.directories.filter (· ≠ path)
    faults := disk.faults.filter (·.1 ≠ path) }

end Disk

end Workspace
