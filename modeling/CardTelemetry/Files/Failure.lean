import CardTelemetry.Files.SystemError

/-!
# Why a file could not be used

A refusal by the system carries its error number, which decides its text. Two
failures have no number: bytes that were to be text and are not, and a path with a
NUL byte, which never reaches the system.
-/

namespace CardTelemetry.Files

inductive Failure where
  | system (number : Int)
  | invalidText
  | nulInPath
  | other (text : String)
deriving DecidableEq

namespace Failure

def noEntry : Failure := .system 2
def notDirectory : Failure := .system 20
def isDirectory : Failure := .system 21
def invalidArgument : Failure := .system 22
def nameTooLong : Failure := .system 36
def tooManyLinks : Failure := .system 40

def text : Failure → String
  | .system n => SystemError.text n ++ " (os error " ++ Text.signed n ++ ")"
  | .invalidText => "stream did not contain valid UTF-8"
  | .nulInPath => "file name contained an unexpected NUL byte"
  | .other t => t

def isNoEntry (f : Failure) : Bool := f == noEntry

/-- The request makes no sense for this path, as reading the target of something that
is not a link. -/
def isInvalidInput (f : Failure) : Bool := f == invalidArgument || f == nulInPath

end Failure

end CardTelemetry.Files
