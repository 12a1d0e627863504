namespace LS8

/-!
# Files

The files that a path can name: a tree of directories and files below the
current directory. `Files.read` follows a path and yields the content at its
end, or the reason why there is none.

A path is followed name by name, and every name but the last must lead to a
directory. Of the directories outside the tree only the way up and the root
are known; nothing is found in them. `Files.create` follows a path in the same
way and makes the directories that it lacks.
-/

/-- Why a file cannot be read. -/
inductive ReadError where
  | missing
  | isDirectory
  | notDirectory
  | nameTooLong
  | containsNul
  | notText
  deriving Repr, DecidableEq

/-- The wording of a reading error. -/
def ReadError.message : ReadError → String
  | .missing => "No such file or directory (os error 2)"
  | .isDirectory => "Is a directory (os error 21)"
  | .notDirectory => "Not a directory (os error 20)"
  | .nameTooLong => "File name too long (os error 36)"
  | .containsNul => "file name contained an unexpected NUL byte"
  | .notText => "stream did not contain valid UTF-8"

/-- What a name in a directory stands for. -/
inductive FileEntry where
  | directory
  | file (content : ByteArray)

/-- The way from the current directory down to an entry, name by name. -/
abbrev Location : Type :=
  List String

/-- Where following a path has led. -/
inductive Place where
  /-- An entry below the current directory, or the current directory itself. -/
  | within (location : Location)
  /-- A directory outside the tree. -/
  | outside
  deriving Repr, DecidableEq

namespace Place

/-- The place where a path starts: outside, if it starts with a slash. -/
def ofPath (path : String) : Place :=
  if path.toList.head? = some '/' then .outside else .within []

/--
The place that a name leads to from a directory. The empty name and one dot
stay, and two dots lead up. Every other name leads down, inside the tree only.
-/
def next? (place : Place) (name : String) : Option Place :=
  if name = "" ∨ name = "." then
    some place
  else if name = ".." then
    match place with
    | .outside => some .outside
    | .within [] => some .outside
    | .within location => some (.within location.dropLast)
  else
    match place with
    | .outside => none
    | .within location => some (.within (location ++ [name]))

end Place

/-- The entries below the current directory, the latest first. -/
structure Files where
  entries : List (Location × FileEntry)

namespace Files

/-- An empty current directory. -/
def empty : Files :=
  { entries := [] }

/-- The names of a path: its parts between slashes, empty ones included. -/
def pathNames (path : String) : List String :=
  (path.toList.splitOn '/').map String.ofList

/-- The entry at a location; the current directory is always there. -/
def get? (files : Files) (location : Location) : Option FileEntry :=
  if location = [] then some .directory else files.entries.lookup location

/-- Whether there is anything at a place. -/
def contains (files : Files) : Place → Bool
  | .outside => true
  | .within location => (files.get? location).isSome

/-- Whether a place is a directory. -/
def isDirectory (files : Files) : Place → Bool
  | .outside => true
  | .within location =>
      match files.get? location with
      | some .directory => true
      | _ => false

/--
The files with an entry at a place, which replaces a file that is there. A
directory stays what it is.
-/
def put (files : Files) (place : Place) (entry : FileEntry) : Files :=
  match place with
  | .outside => files
  | .within location =>
      if files.isDirectory (.within location) then
        files
      else
        { entries := (location, entry) :: files.entries }

/-- An entry is found where it was put, unless a directory was there. -/
theorem get?_put
    {files : Files}
    {location : Location}
    (entry : FileEntry)
    (free : files.isDirectory (.within location) = false) :
    (files.put (.within location) entry).get? location = some entry := by
  have inside : location ≠ [] := by
    intro same
    simp [same, isDirectory, get?] at free
  simp [put, free, get?, inside]

/-- Putting an entry changes nothing at the other locations. -/
theorem get?_put_of_ne
    {files : Files}
    {location other : Location}
    (entry : FileEntry)
    (apart : other ≠ location) :
    (files.put (.within location) entry).get? other = files.get? other := by
  have differs : (other == location) = false := beq_eq_false_iff_ne.mpr apart
  by_cases taken : files.isDirectory (.within location)
  · simp [put, taken]
  · simp [put, taken, get?, List.lookup_cons, differs]

/-- Put an entry at the end of some names; every place on the way is made a directory. -/
def createFrom
    (files : Files)
    (place : Place)
    (entry : FileEntry) :
    List String → Files
  | [] => files.put place entry
  | name :: rest =>
      let passed := files.put place .directory
      match place.next? name with
      | none => passed
      | some next => passed.createFrom next entry rest

/-- The files with an entry at the place that a path names. -/
def create (files : Files) (path : String) (entry : FileEntry) : Files :=
  files.createFrom (Place.ofPath path) entry (pathNames path)

/-- The greatest length of a name in bytes. -/
def nameLimit : Nat :=
  255

/-- The greatest length of a path in bytes. -/
def pathLimit : Nat :=
  4095

/-- Go to the place that a name leads to from a directory, if it is there. -/
def enter
    (files : Files)
    (place : Place)
    (name : String) :
    Except ReadError Place :=
  if nameLimit < name.utf8ByteSize then
    .error .nameTooLong
  else
    match (place.next? name).filter files.contains with
    | none => .error .missing
    | some next => .ok next

/-- Follow names from a place; only a directory can be left by a name. -/
def follow
    (files : Files)
    (place : Place) :
    List String → Except ReadError Place
  | [] => .ok place
  | name :: rest => do
      if files.isDirectory place then
        let next ← files.enter place name
        files.follow next rest
      else
        throw .notDirectory

/-- The place that a path names. -/
def find (files : Files) (path : String) : Except ReadError Place :=
  if path.toList.contains '\x00' then
    .error .containsNul
  else if path = "" then
    .error .missing
  else if pathLimit < path.utf8ByteSize then
    .error .nameTooLong
  else
    files.follow (Place.ofPath path) (pathNames path)

/-- The content of the file that a path names. -/
def read (files : Files) (path : String) : Except ReadError ByteArray := do
  match ← files.find path with
  | .outside => throw .isDirectory
  | .within location =>
      match files.get? location with
      | some (.file content) => return content
      | some .directory => throw .isDirectory
      | none => throw .missing

end Files

end LS8
