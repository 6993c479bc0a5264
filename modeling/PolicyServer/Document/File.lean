import PolicyServer.Document.Disk

/-! Documents as they are at one version, and the changes that make new versions of them. -/

namespace PolicyServer

inductive FileAction where
  | opened
  | changed
  | closed
  | saved
  deriving DecidableEq, Repr

structure Modification where
  uri : DocumentUri
  action : FileAction
  version : Option Int32 := none
  text : Option String := none
  deriving DecidableEq, Repr

inductive FileError where
  | closed
  | unreadable (reason : String)
  deriving DecidableEq, Repr

def FileError.message (uri : DocumentUri) : FileError → String
  | .closed => s!"{uri.text} is not open"
  | .unreadable reason => s!"failed to read {uri.text}: {reason}"

structure FileHandle where
  uri : DocumentUri
  version : Int32
  content : Except FileError Bytes

namespace FileHandle

def overlay (uri : DocumentUri) (version : Int32) (text : String) : FileHandle :=
  ⟨uri, version, .ok (Bytes.ofText text)⟩

def onDisk (uri : DocumentUri) (version : Int32) (contents : Bytes) : FileHandle :=
  ⟨uri, version, .ok contents⟩

def closed (uri : DocumentUri) : FileHandle := ⟨uri, 0, .error .closed⟩

def broken (uri : DocumentUri) (reason : String) : FileHandle := ⟨uri, 0, .error (.unreadable reason)⟩

def isPresent (handle : FileHandle) : Bool := handle.content.isOk

/-- A document read from disk; one that is not there is closed. -/
def read (disk : Disk) (uri : DocumentUri) (version : Int32) : FileHandle :=
  match uri.toPath with
  | .error error => broken uri error.message
  | .ok path =>
    match disk.read path with
    | .ok contents => onDisk uri version contents
    | .error .notFound => closed uri
    | .error error => broken uri error.message

/-- What a change makes of a document. The text sent counts, else what lies on disk; the version
sent counts, else the one before. -/
def resolve (disk : Disk) (modification : Modification) (previous : Option FileHandle) :
    FileHandle :=
  let version := (modification.version <|> previous.map (·.version)).getD 0
  match modification.text with
  | some text => overlay modification.uri version text
  | none =>
    if modification.action = .closed then closed modification.uri
    else read disk modification.uri version

end FileHandle

abbrev FileMap := Table FileHandle

/-- Takes in one new version; a document without content is left out. -/
def FileMap.apply (files : FileMap) (handle : FileHandle) : FileMap :=
  if handle.isPresent then Table.put handle.uri.text handle files else files.erase handle.uri.text

end PolicyServer
