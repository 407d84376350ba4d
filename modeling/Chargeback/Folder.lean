import Chargeback.Text.Split

/-!
# Folders

A folder holds texts under paths. A file is looked up by a path from the folder: its parts are
followed one after another, a part that is empty or a point stays where it is, and two points go up.
Wherever a path goes on there has to be a directory, and no path leaves the folder.
-/

namespace Chargeback

/-- Texts in a folder, under the parts of their paths. -/
structure Folder where
  files : List (List String × String)
  deriving Repr

namespace Folder

/-- The parts of a path. -/
def parts (path : String) : List String := pieces '/' path

/-- Whether a part of a path stays in its directory. -/
def isIdle (part : String) : Bool := part == "" || part == "."

/-- The folder of texts under paths. -/
def ofFiles (files : List (String × String)) : Folder where
  files := files.map fun e => ((parts e.1).filter fun part => !isIdle part, e.2)

/-- Whether there is a directory: the folder itself, or one that holds something. -/
def isDirectory (folder : Folder) (directory : List String) : Bool :=
  directory.isEmpty ||
    folder.files.any fun e => directory.isPrefixOf e.1 && directory.length < e.1.length

/-- Where the parts of a path lead from a place in the folder. -/
def follow? (folder : Folder) (place : List String) : List String → Option (List String)
  | [] => some place
  | part :: rest =>
    if !folder.isDirectory place then none
    else if isIdle part then folder.follow? place rest
    else if part = ".." then
      if place.isEmpty then none else folder.follow? place.dropLast rest
    else folder.follow? (place ++ [part]) rest

/-- The text at a path from the folder. -/
def read? (folder : Folder) (path : String) : Option String :=
  if path.startsWith "/" then none
  else (folder.follow? [] (parts path)).bind fun place => folder.files.lookup place

/-- Whether a part of a path is the name of a file or a directory. -/
def isName (part : String) : Bool := !isIdle part && part != ".."

@[simp] theorem follow?_nil (folder : Folder) (place : List String) :
    folder.follow? place [] = some place := rfl

/-- A path can be followed in two steps. -/
theorem follow?_append (folder : Folder) (place front back : List String) :
    folder.follow? place (front ++ back) =
      (folder.follow? place front).bind fun p => folder.follow? p back := by
  induction front generalizing place with
  | nil => rfl
  | cons part rest ih =>
    simp only [List.cons_append, follow?]
    split
    · rfl
    · split
      · exact ih place
      · split
        · split
          · rfl
          · exact ih place.dropLast
        · exact ih (place ++ [part])

/-- Where a path leads is told by names alone. -/
theorem isName_of_follow? {folder : Folder} {place path target : List String}
    (h : folder.follow? place path = some target) (hplace : ∀ part ∈ place, isName part) :
    ∀ part ∈ target, isName part := by
  induction path generalizing place with
  | nil =>
    cases h
    exact hplace
  | cons part rest ih =>
    simp only [follow?] at h
    split at h
    · simp at h
    · split at h
      · exact ih h hplace
      · split at h
        · split at h
          · simp at h
          · exact ih h fun p hp => hplace p (List.dropLast_subset place hp)
        · next hidle hup =>
          refine ih h fun p hp => ?_
          rcases List.mem_append.mp hp with hp | hp
          · exact hplace p hp
          · rw [List.mem_singleton.mp hp]
            simp [isName, hidle, hup]

end Folder

end Chargeback
