import GatewayConfig.Document.Format
import GatewayConfig.Json.Decode
import GatewayConfig.Text.Basic

/-! # Storage

Where files are kept, reduced to what the program asks of it: the contents of a file, and
putting a text in place of them. Programs are written over any storage, so that one and the same
program runs on a real disk and in a theorem. Documents and runtime reports are kept in files.
-/

namespace GatewayConfig

inductive FileError
  | notFound
  | notDirectory
  | isDirectory
  | nameTooLong
  | nulInName
  | notUtf8
  | other (reason : Text)
  deriving DecidableEq, Repr

namespace FileError

def message : FileError → Text
  | notFound => "No such file or directory (os error 2)".toList
  | notDirectory => "Not a directory (os error 20)".toList
  | isDirectory => "Is a directory (os error 21)".toList
  | nameTooLong => "File name too long (os error 36)".toList
  | nulInName => "file name contained an unexpected NUL byte".toList
  | notUtf8 => "stream did not contain valid UTF-8".toList
  | other reason => reason

/-- Whether the error says that nothing is there under the path. -/
def isAbsence : FileError → Bool
  | notFound | notDirectory | nameTooLong | nulInName => true
  | isDirectory | notUtf8 | other _ => false

end FileError

/-- The contents of a file: its text, or nothing if its bytes are not UTF-8. -/
abbrev Contents := Option Text

structure Storage (m : Type → Type) where
  read : Text → m (Except FileError Contents)
  write : Text → Text → m (Except FileError Unit)

def Storage.readText [Monad m] (s : Storage m) (path : Text) : m (Except FileError Text) := do
  match ← s.read path with
  | .ok (some t) => return .ok t
  | .ok none => return .error .notUtf8
  | .error e => return .error e

/-- Why a file of the program cannot be loaded or saved, or a JSON text not be used. -/
inductive FileFailure
  | io (e : FileError)
  | json
  | unreadableDocument (path : Text) (e : FileError)
  | unopened (path : Text) (e : FileError)
  | unparsed (path : Text)
  deriving DecidableEq, Repr

def FileFailure.message : FileFailure → Text
  | io e => "IO error: ".toList ++ e.message
  | json => "JSON parsing error".toList
  | unreadableDocument path e =>
    "Internal error: Failed to read config file ".toList ++ path ++ ": ".toList ++ e.message
  | unopened path e =>
    "Internal error: Failed to open ".toList ++ path ++ ": ".toList ++ e.message
  | unparsed path => "Internal error: Failed to parse ".toList ++ path

def Document.load [Monad m] (storage : Storage m) (path : Text) :
    m (Except FileFailure Document) := do
  match ← storage.readText path with
  | .ok t => return .ok (Document.read t 0)
  | .error e => return .error (.unreadableDocument path e)

def Document.save [Monad m] (storage : Storage m) (path : Text) (d : Document) :
    m (Except FileFailure Unit) := do
  match ← storage.write path d.write with
  | .ok () => return .ok ()
  | .error e => return .error (.io e)

/-- Load the runtime's report in a file. A directory can be opened but holds no report. -/
def Capabilities.load [Monad m] (storage : Storage m) (path : Text) :
    m (Except FileFailure Capabilities) := do
  match ← storage.read path with
  | .ok contents =>
    match contents.bind Capabilities.read? with
    | some caps => return .ok caps
    | none => return .error (.unparsed path)
  | .error .isDirectory => return .error (.unparsed path)
  | .error e => return .error (.unopened path e)

end GatewayConfig
