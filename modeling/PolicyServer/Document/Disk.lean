import PolicyServer.Document.Path

/-! What lies on disk, and what reading it comes to. -/

namespace PolicyServer

/-- What lies at a path: a file with its contents, or a directory. -/
inductive DiskEntry where
  | file (contents : Bytes)
  | directory
  deriving DecidableEq, Repr

/-- The files and directories there are, by their components; directories on the way to them and
the root are there as well. -/
structure Disk where
  entries : List (List Bytes × DiskEntry) := []

inductive DiskError where
  | notFound
  | isDirectory
  | notDirectory
  | nameTooLong
  | nulByte
  deriving DecidableEq, Repr

def DiskError.message : DiskError → String
  | .notFound => "No such file or directory (os error 2)"
  | .isDirectory => "Is a directory (os error 21)"
  | .notDirectory => "Not a directory (os error 20)"
  | .nameTooLong => "File name too long (os error 36)"
  | .nulByte => "file name contained an unexpected NUL byte"

namespace Disk

def entry? (disk : Disk) (place : List Bytes) : Option DiskEntry :=
  match disk.entries.lookup place with
  | some entry => some entry
  | none =>
    if place.isEmpty || disk.entries.any (fun (other, _) => place.isPrefixOf other) then
      some .directory
    else none

def maxName : Nat := 255

def maxPath : Nat := 4095

/-- Goes along a path; `place` holds the components so far. -/
def walk (disk : Disk) (place : List Bytes) : List Bytes → Except DiskError (List Bytes)
  | [] => .ok place
  | part :: rest =>
    match disk.entry? place with
    | none => .error .notFound
    | some (.file _) => .error .notDirectory
    | some .directory =>
      if part = [] ∨ part = [0x2E] then walk disk place rest
      else if part = [0x2E, 0x2E] then walk disk place.dropLast rest
      else if part.length > maxName then .error .nameTooLong
      else
        match disk.entry? (place ++ [part]) with
        | none => .error .notFound
        | some _ => walk disk (place ++ [part]) rest

def read (disk : Disk) (path : Bytes) : Except DiskError Bytes :=
  if 0 ∈ path then .error .nulByte
  else if path.length > maxPath then .error .nameTooLong
  else
    match disk.walk [] (Path.split path) with
    | .error error => .error error
    | .ok place =>
      match disk.entry? place with
      | some (.file contents) => .ok contents
      | some .directory => .error .isDirectory
      | none => .error .notFound

def isThere (disk : Disk) (path : Bytes) : Bool :=
  match disk.read path with
  | .ok _ | .error .isDirectory => true
  | .error _ => false

/-- The place of a directory and the disk with it, made along with those on the way to it that are
missing; none if a file is in the way. -/
def makeWay (disk : Disk) (place : List Bytes) : List Bytes → Option (List Bytes × Disk)
  | [] => some (place, disk)
  | part :: rest =>
    if part = [0x2E, 0x2E] then makeWay disk place.dropLast rest
    else if part.length > maxName ∨ 0 ∈ part then none
    else
      let place := place ++ [part]
      match disk.entry? place with
      | some .directory => makeWay disk place rest
      | some (.file _) => none
      | none => makeWay ⟨disk.entries ++ [(place, .directory)]⟩ place rest

/-- The disk with a file in a directory, both made if they are missing. -/
def touch (disk : Disk) (directory : List Bytes) (name : Bytes) : Option Disk :=
  match disk.makeWay [] directory with
  | none => none
  | some (place, disk) =>
    match disk.entry? (place ++ [name]) with
    | some .directory => none
    | some (.file _) => some disk
    | none => some ⟨disk.entries ++ [(place ++ [name], .file [])]⟩

def write (disk : Disk) (path : Bytes) (entry : DiskEntry) : Disk :=
  let place := Path.components path
  ⟨disk.entries.filter (·.1 ≠ place) ++ [(place, entry)]⟩

/-- Takes what lies at a path away; the directory it lay in stays. -/
def remove (disk : Disk) (path : Bytes) : Disk :=
  let place := Path.components path
  let parent := place.dropLast
  let entries := disk.entries.filter fun (other, _) => !place.isPrefixOf other
  ⟨if (entries.lookup parent).isSome then entries else entries ++ [(parent, .directory)]⟩

end Disk

end PolicyServer
