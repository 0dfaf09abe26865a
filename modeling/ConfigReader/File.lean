import ConfigReader.Failure
import ConfigReader.Text.Utf8
import ConfigReader.Text.Lines
import ConfigReader.Text.Case

/-!
# Files

Files, and paths to them.  A path is written in one normal form: single slashes, no
part that is a dot, and a dot for the empty path.  Parts that are two dots stay,
since what they mean depends on the files.
-/

namespace ConfigReader

/-! ## Paths -/

/-- A path in normal form. -/
structure FilePath where
  /-- The slashes in front: none, one or two. -/
  root : Text
  /-- The parts. -/
  parts : List Text

namespace FilePath

/-- The slashes in front of a path: three and more count as one. -/
def rootOf (t : Text) : Text :=
  match (t.takeWhile (· = .scalar '/')).length with
  | 0 => ""
  | 2 => "//"
  | _ => "/"

/-- The path that a text writes. -/
def parse (t : Text) : FilePath :=
  ⟨rootOf t, (t.splitOn '/').filter fun part => !part.isEmpty && part ≠ Text.ofString "."⟩

/-- The text of a path. -/
def text (p : FilePath) : Text :=
  let body := p.root ++ Text.join "/" p.parts
  if body.isEmpty then "." else body

/-- The suffix of the last part, with its dot.  A dot in front or at the end makes
no suffix. -/
def suffix (p : FilePath) : Text :=
  match p.parts.getLast? with
  | none => []
  | some name =>
      let tail := (name.reverse.takeWhile (· ≠ .scalar '.')).reverse
      if tail.isEmpty || tail.length + 1 ≥ name.length then [] else .scalar '.' :: tail

/-- The path with a tilde in front replaced by the home directory.  There is none
for the names of strangers. -/
def expandHome (home : Text) (p : FilePath) : Except Failure FilePath :=
  match p.root, p.parts with
  | [], (.scalar '~' :: user) :: rest =>
      if user.isEmpty || user = Text.ofString "root" then
        let base := parse home
        .ok ⟨base.root, base.parts ++ rest⟩
      else .error (.builtin "RuntimeError" "Could not determine home directory.")
  | _, _ => .ok p

/-- The format that the suffix of a path stands for. -/
def format? (p : FilePath) : Option Format := Format.suffixes.lookup p.suffix.lower

end FilePath

/-! ## Files -/

/-- What stands at a path. -/
inductive FileEntry where
  /-- A directory. -/
  | directory
  /-- A file with its bytes. -/
  | file (bytes : List Nat)

/-- The files that are known.  A *place* is a path from the root on, by its parts,
without any two dots. -/
structure Files where
  /-- What stands at each place. -/
  entries : List (List Text × FileEntry)
  /-- The place of the working directory. -/
  here : List Text
  /-- The home directory. -/
  home : Text

/-- What comes of opening a path. -/
inductive Opened where
  /-- The bytes of a file. -/
  | content (bytes : List Nat)
  /-- A directory. -/
  | directory
  /-- Nothing. -/
  | missing
  /-- A file stands where a directory is needed. -/
  | blocked
  /-- The path holds the code point zero. -/
  | zero
  /-- The path has a part that is too long, or too many parts. -/
  | tooLong
  /-- The path holds a surrogate that stands for no byte. -/
  | unwritable (reason : Text)

namespace Files

/-- The two dots that lead to the directory above. -/
def above : Text := ".."

/-- Where paths without a slash in front start, in reverse. -/
def origin (files : Files) (p : FilePath) : List Text :=
  if p.root.isEmpty then files.here.reverse else []

/-- One part further from a place, in reverse.  The root is above itself. -/
def descend (place : List Text) (part : Text) : List Text :=
  if part = above then place.drop 1 else part :: place

/-- The place of a path. -/
def place (files : Files) (p : FilePath) : List Text :=
  (p.parts.foldl descend (files.origin p)).reverse

/-- The files with one more, and with the directories on the way to it. -/
def insert (files : Files) (p : FilePath) (entry : FileEntry) : Files :=
  let ways := (List.range p.parts.length).map fun n => files.place ⟨p.root, p.parts.take n⟩
  { files with
    entries := (files.place p, entry) :: ways.map (·, .directory) ++ files.entries }

/-- What stands at a place.  The way to the working directory is there. -/
def entry? (files : Files) (place : List Text) : Option FileEntry :=
  match files.entries.lookup place with
  | some found => some found
  | none => if place.isPrefixOf files.here then some .directory else none

/-- The most bytes of a part. -/
def longestName : Nat := 255

/-- The most bytes of a path. -/
def longestPath : Nat := 4095

/-- Follows parts from a directory, given in reverse. -/
def follow (files : Files) : List Text → List Text → Opened
  | [], _ => .directory
  | part :: rest, here =>
      let next := descend here part
      if Utf8.length part > longestName then .tooLong
      else match files.entry? next.reverse, rest with
      | none, _ => .missing
      | some .directory, rest => follow files rest next
      | some (.file bytes), [] => .content bytes
      | some (.file _), _ => .blocked

/-- What comes of opening a path. -/
def opened (files : Files) (p : FilePath) : Opened :=
  match Utf8.encodingFault? Utf8.isEscape 0 p.text with
  | some reason => .unwritable reason
  | none =>
      if p.parts.any (·.contains (.scalar (Char.ofNat 0))) then .zero
      else if Utf8.length p.text > longestPath then .tooLong
      else files.follow p.parts (files.origin p)

/-- The reason that a path is too long. -/
def lengthReason (p : FilePath) : Text := "[Errno 36] File name too long: " ++ p.text.quoted

/-- Something stands at a path.  Too long a path cannot be asked for. -/
def has (files : Files) (p : FilePath) : Except Failure Bool :=
  match files.opened p with
  | .content _ => .ok true
  | .directory => .ok true
  | .tooLong => .error (.builtin "OSError" (lengthReason p))
  | _ => .ok false

/-- The bytes of the file at a path, or the reason why a format cannot have them. -/
def bytes (files : Files) (format : Format) (p : FilePath) : Except Failure (List Nat) :=
  let refuse (reason : Text) : Except Failure (List Nat) :=
    .error (.source (.unreadable format p.text reason))
  match files.opened p with
  | .content bytes => .ok bytes
  | .directory => refuse ("[Errno 21] Is a directory: " ++ p.text.quoted)
  | .missing => refuse ("[Errno 2] No such file or directory: " ++ p.text.quoted)
  | .blocked => refuse ("[Errno 20] Not a directory: " ++ p.text.quoted)
  | .tooLong => refuse (lengthReason p)
  | .zero => .error (.builtin "ValueError" "embedded null byte")
  | .unwritable reason => .error (.builtin "UnicodeEncodeError" reason)

/-- The number of bytes that YAML files are read by. -/
def pieceSize : Nat := 8192

/-- The failure of bytes that are no text.  All formats but YAML are read in one piece. -/
def undecodable (format : Format) (bytes : List Nat) (fault : Utf8.Fault) : Failure :=
  match format with
  | .yaml => .undecodable (fault.inPieces pieceSize bytes).message
  | _ => .undecodable fault.message

end Files

end ConfigReader
