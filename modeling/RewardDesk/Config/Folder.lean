/-!
# Folders

The files below a folder, each with its path from there. `Folder.read?` finds a file by any path
that leads to it, through `.` and `..` too.
-/

namespace RewardDesk

/-- The files below a folder, with their paths and contents. -/
structure Folder where
  files : List (String × String) := []
  deriving Repr

namespace Folder

/-- The segments of a path. -/
def segments (path : String) : List (List Char) :=
  path.toList.foldr
    (fun c segments =>
      match c, segments with
      | '/', _ => [] :: segments
      | c, [] => [[c]]
      | c, segment :: rest => (c :: segment) :: rest)
    [[]]

/-- Is there a folder at the end of these segments? -/
def holds (f : Folder) (place : List (List Char)) : Bool :=
  f.files.any fun file =>
    let path := segments file.1
    place.length < path.length && place.isPrefixOf path

/-- Follow a path, segment by segment, from a place below the folder. A path must not leave the
folder, and only a folder has anything inside. -/
def follow (f : Folder) : (place : List (List Char)) → List (List Char) → Option (List (List Char))
  | place, [] => some place
  | place, segment :: rest =>
    if place ≠ [] ∧ !f.holds place then none
    else if segment = [] ∨ segment = ['.'] then follow f place rest
    else if segment = ['.', '.'] then
      if place = [] then none else follow f place.dropLast rest
    else follow f (place ++ [segment]) rest

/-- The contents of the file that a path leads to. -/
def read? (f : Folder) (path : String) : Option String := do
  if path.startsWith "/" then none
  else
    let place ← f.follow [] (segments path)
    let (_, text) ← f.files.find? fun file => segments file.1 == place
    return text

/-- The path of a file in a folder. An absolute path stays as it is. -/
def joined (folder file : String) : String :=
  if file.startsWith "/" ∨ folder.isEmpty then file
  else if folder.endsWith "/" then folder ++ file
  else folder ++ "/" ++ file

end Folder
end RewardDesk
