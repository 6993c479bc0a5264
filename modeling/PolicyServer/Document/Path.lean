import PolicyServer.Document.Uri
import PolicyServer.Host.Name
import PolicyServer.Text.Blank

/-! The files that documents lie in: names of files as paths, and paths as names. -/

namespace PolicyServer

namespace Path

def split : Bytes → List Bytes
  | [] => [[]]
  | b :: rest =>
    if b = 0x2F then [] :: split rest
    else
      match split rest with
      | part :: parts => (b :: part) :: parts
      | [] => [[b]]

/-- The components of a path: what stands between slashes, save nothing and a single dot. -/
def components (path : Bytes) : List Bytes :=
  (split path).filter fun part => part ≠ [] ∧ part ≠ [0x2E]

def isAbsolute (path : Bytes) : Bool := path.head? = some 0x2F

def within (directory path : Bytes) : Bytes :=
  if isAbsolute path then path else directory ++ 0x2F :: path

/-- The bytes that stand for themselves in a component of a name. -/
def isPlain (b : UInt8) : Bool :=
  0x20 < b && b < 0x7F && !("\"<>`#?\x7b\x7d/%\\".toList.contains (Char.ofNat b.toNat))

end Path

inductive UriError where
  | fromPath (path : Bytes)
  | notAFile (uri : DocumentUri)

def UriError.message : UriError → String
  | .fromPath path => s!"cannot convert path to file URI: {Utf8.decodeLossy path}"
  | .notAFile uri => s!"not a file URI: {uri.text}"

namespace DocumentUri

def ofPath (path : Bytes) : Except UriError DocumentUri :=
  if Path.isAbsolute path then
    let parts := (Path.components path).flatMap fun part => '/' :: Percent.encode Path.isPlain part
    .ok ⟨String.ofList ("file://".toList ++ if parts.isEmpty then ['/'] else parts)⟩
  else .error (.fromPath path)

/-- Control characters and blanks, which count for nothing at either end of a name. -/
def isMargin (c : Char) : Bool := c.toNat ≤ 0x20

/-- Tabs and line ends, which count for nothing anywhere in a name. -/
def isBreak (c : Char) : Bool := c = '\t' || c = '\n' || c = '\r'

def joined (text : List Char) : List Char := text.filter (!isBreak ·)

/-- A name without what counts for nothing at its ends. -/
def bare (text : List Char) : List Char :=
  ((text.dropWhile isMargin).reverse.dropWhile isMargin).reverse

/-- What follows a word, in whatever case it is written. -/
def afterWord? : List Char → List Char → Option (List Char)
  | [], text => some text
  | w :: word, text =>
    match text.dropWhile isBreak with
    | c :: rest => if Text.lowerAscii c = w then afterWord? word rest else none
    | [] => none

/-- What follows the scheme `file` and its colon. -/
def afterScheme? (text : List Char) : Option (List Char) := afterWord? "file:".toList text

def isSlash (c : Char) : Bool := c = '/' || c = '\\'

/-- What the path of a name ends before. -/
def isPathEnd (c : Char) : Bool := c = '?' || c = '#'

/-- A letter and a colon or bar, which name a drive. -/
def isDrive : List Char → Bool
  | [letter, mark] => letter.isAlpha && (mark = ':' || mark = '|')
  | _ => false

def segments : List Char → List (List Char)
  | [] => [[]]
  | c :: rest =>
    if isSlash c then [] :: segments rest
    else
      match segments rest with
      | part :: parts => (c :: part) :: parts
      | [] => [[c]]

def isHere (segment : List Char) : Bool :=
  segment.map Text.lowerAscii ∈ [".".toList, "%2e".toList]

def isAbove (segment : List Char) : Bool :=
  segment.map Text.lowerAscii ∈
    ["..".toList, ".%2e".toList, "%2e.".toList, "%2e%2e".toList]

/-- Leaves the last directory, unless it is a drive. -/
def leave : List (List Char) → List (List Char)
  | [] => []
  | segment :: rest => if isDrive segment then segment :: rest else rest

/-- Whether a segment goes on after a drive and a break. -/
def isBrokenDrive (segment : List Char) : Bool :=
  match joined segment with
  | letter :: ':' :: _ :: _ =>
    letter.isAlpha && ((segment.dropWhile (· ≠ ':')).drop 1).head?.any isBreak
  | _ => false

/-- Follows the segments of a path from the root; `place` holds the directories so far, last first.
A drive comes first, and has a colon if more follows it; that one was met is told as well. A break
after a drive divides as a slash does, and what follows it stands for itself. -/
def follow (place : List (List Char)) (drive : Bool) :
    List (List Char) → List (List Char) × Bool
  | [] => (place, drive)
  | written :: rest =>
    let segment := joined written
    let atEnd := rest.isEmpty
    if place.isEmpty && isBrokenDrive written then
      follow [segment.drop 2, segment.take 2] drive rest
    else if isAbove segment then
      let place := leave place
      follow (if atEnd then [] :: place else place) drive rest
    else if isHere segment then follow (if atEnd then [] :: place else place) drive rest
    else if place.isEmpty && isDrive segment then
      follow [if atEnd then segment else [segment.headD ':', ':']] true rest
    else follow (segment :: place) drive rest

def afterSlash? (text : List Char) : Option (List Char) :=
  match text.dropWhile isBreak with
  | c :: rest => if isSlash c then some rest else none
  | [] => none

def authority (text : List Char) : List Char × List Char :=
  match (afterSlash? text).bind afterSlash? with
  | none => ([], text)
  | some rest =>
    let host := rest.takeWhile fun c => !isSlash c && !isPathEnd c
    if isDrive (joined host) then ([], rest) else (joined host, rest.drop host.length)

/-- The path of the file that a name stands for. Only files of this machine have one; a host in
front of a drive counts for nothing. -/
def toPath (uri : DocumentUri) : Except UriError Bytes :=
  match afterScheme? (bare uri.text.toList) with
  | none => .error (.notAFile uri)
  | some text =>
    let (hostText, text) := authority text
    let text := text.takeWhile (!isPathEnd ·)
    let text := (afterSlash? text).getD text
    let (place, drive) := follow [] false (segments text)
    match Host.parse? hostText with
    | none => .error (.notAFile uri)
    | some host =>
      if host = .elsewhere && !drive then .error (.notAFile uri)
      else
        let parts := (place.reverse.dropWhile (·.isEmpty)).map fun part =>
          0x2F :: Percent.decode (Utf8.encode part)
        let path := if parts.isEmpty then [0x2F] else parts.flatten
        -- A drive that ends a path is a directory.
        let endsInDrive := match path.reverse with
          | mark :: letter :: _ :: _ =>
            (mark = 0x3A || mark = 0x7C) && (Char.ofNat letter.toNat).isAlpha && letter < 0x80
          | _ => false
        .ok (if endsInDrive then path ++ [0x2F] else path)

end DocumentUri

end PolicyServer
