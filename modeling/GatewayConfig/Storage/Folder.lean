import GatewayConfig.Storage.Basic

/-! # A folder in memory

A working directory that holds plain files. Paths are walked part by part as the operating system
does; of directories elsewhere nothing is known but that they are directories.
-/

namespace GatewayConfig

structure File where
  name : Text
  contents : Contents
  deriving DecidableEq, Repr

abbrev Folder := List File

namespace Folder

inductive Target
  | directory
  | file (name : Text) (contents : Contents)
  /-- Nothing yet, but a file with this name can be made. -/
  | vacant (name : Text)
  deriving DecidableEq, Repr

def byteCount (t : Text) : Nat := t.foldl (fun n c => n + c.utf8Size) 0

/-- Walk the parts of a path. `inside` tells the folder itself from a directory elsewhere. -/
def walk (f : Folder) (inside : Bool) : List Text → Except FileError Target
  | [] => .ok .directory
  | part :: rest =>
    if part.isEmpty || part == ".".toList then walk f inside rest
    else if part == "..".toList then walk f false rest
    else if 255 < byteCount part then .error .nameTooLong
    else if !inside then .error .notFound
    else match f.find? (·.name == part) with
      | some file => if rest.isEmpty then .ok (.file part file.contents) else .error .notDirectory
      | none => if rest.isEmpty then .ok (.vacant part) else .error .notFound

def resolve (f : Folder) (path : Text) : Except FileError Target :=
  if List.elem '\x00' path then .error .nulInName
  else if path.isEmpty then .error .notFound
  else if 4096 ≤ byteCount path then .error .nameTooLong
  else f.walk (!"/".toList.isPrefixOf path) (path.splitOn '/')

def read (f : Folder) (path : Text) : Except FileError Contents :=
  match f.resolve path with
  | .ok .directory => .error .isDirectory
  | .ok (.file _ contents) => .ok contents
  | .ok (.vacant _) => .error .notFound
  | .error e => .error e

/-- Put a file in place of the one with its name, or else add it. -/
def put (name : Text) (contents : Contents) : Folder → Folder
  | [] => [⟨name, contents⟩]
  | file :: rest =>
    if file.name = name then ⟨name, contents⟩ :: rest else file :: put name contents rest

/-- The folder after a text was written to a path. A path that ends like a directory's names
no file. -/
def write (f : Folder) (path t : Text) : Except FileError Folder :=
  let trailing := "/".toList.isSuffixOf path
  let target := (path.reverse.dropWhile (· == '/')).reverse
  match f.resolve (if target.isEmpty then path else target) with
  | .ok .directory => .error .isDirectory
  | .ok (.file name _) | .ok (.vacant name) =>
    if trailing then .error .isDirectory else .ok (put name (some t) f)
  | .error e => .error e

def storage : Storage (StateM Folder) where
  read path := fun f => (f.read path, f)
  write path t := fun f =>
    match f.write path t with
    | .ok g => (.ok (), g)
    | .error e => (.error e, f)

end Folder

end GatewayConfig
