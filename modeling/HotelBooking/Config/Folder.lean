import HotelBooking.Text.Mark
import HotelBooking.Text.Percent

/-!
# The folder of settings

Files with settings lie in a folder of the working directory, and all have one ending. A
file is asked for by a path from that folder, with or without the ending. The path is
followed from directory to directory: two dots lead back, one dot and an empty name
nowhere. It finds nothing where it leaves the working directory or passes through what is
no directory.
-/

namespace HotelBooking.Config

/-- The files of the folder, each by its path from there without the ending. -/
structure Folder where
  files : List (String × String)
  deriving Inhabited

namespace Folder

/-- A path from the folder as a path from the working directory. -/
def within (path : String) : String :=
  "config/" ++ path

def ending : String := ".toml"

/-- The names in a path, without those that lead nowhere. -/
def names (path : String) : List String :=
  ((Text.splitOn '/' path.toList).map String.ofList).filter fun n => n ≠ "" ∧ n ≠ "."

/-- The text of the file at a place, which is given by the names that lead to it. -/
def fileAt? (f : Folder) (place : List String) : Option String :=
  (f.files.find? fun file => names (within (file.1 ++ ending)) = place).map Prod.snd

/-- Whether a place is the folder or lies on the way to one of its files. -/
def isDirectory (f : Folder) (place : List String) : Bool :=
  place = names (within "") ||
    f.files.any fun file => place.isPrefixOf (names (within file.1)).dropLast

/-- Go on from a directory. -/
def follow (f : Folder) (place : List String) (name : String) : Option (List String) :=
  if name = ".." then if place.isEmpty then none else some place.dropLast
  else if f.isDirectory (place ++ [name]) then some (place ++ [name])
  else none

/--
The text of the file that a path asks for. A file that is named in full is taken before
one whose ending is left out, unless it has no name but the ending: that is no file of
settings, and then there is none.
-/
def find? (f : Folder) (path : String) : Option String := do
  let path := within path
  let last ← (names path).getLast?
  let place ← (names path).dropLast.foldlM f.follow []
  if last = ".." then none
  else
    match if path.endsWith last then f.fileAt? (place ++ [last]) else none with
    | some text => if last = ending then none else some text
    | none => f.fileAt? (place ++ [last ++ ending])

end Folder

end HotelBooking.Config
