import Stencil.Inspection

set_option autoImplicit false

namespace Stencil

inductive ErrorKind where
  | templateNotFound
  | compileError
  | unknownBlock
  | noSuperBlock
  | unknownFilter
  | invalidOperation
  | invalidArguments
  | badSerialization
  | writeFailure
  deriving DecidableEq, Repr

namespace ErrorKind

def all : List ErrorKind := [
  templateNotFound, compileError, unknownBlock, noSuperBlock, unknownFilter, invalidOperation,
  invalidArguments, badSerialization, writeFailure]

def name : ErrorKind → String
  | templateNotFound => "TemplateNotFound"
  | compileError => "CompileError"
  | unknownBlock => "UnknownBlock"
  | noSuperBlock => "NoSuperBlock"
  | unknownFilter => "UnknownFilter"
  | invalidOperation => "InvalidOperation"
  | invalidArguments => "InvalidArguments"
  | badSerialization => "BadSerialization"
  | writeFailure => "WriteFailure"

/-- What a kind is called in messages. -/
def text : ErrorKind → String
  | templateNotFound => "template not found"
  | compileError => "compile error"
  | unknownBlock => "unknown block"
  | noSuperBlock => "no super block"
  | unknownFilter => "unknown filter"
  | invalidOperation => "invalid operation"
  | invalidArguments => "invalid arguments"
  | badSerialization => "could not serialize to value"
  | writeFailure => "failed to write output"

end ErrorKind

/-- What went wrong, without what caused it. -/
structure Fault where
  kind : ErrorKind
  detail : Option String
  name : Option String
  deriving DecidableEq, Repr

/-- A link in the chain of causes. -/
inductive Cause where
  /-- An error of this library. -/
  | fault (fault : Fault)
  /-- An error of another kind, by its type and its text. -/
  | foreign (type text : String)
  /-- The file system could not read a file. -/
  | unreadable
  deriving DecidableEq, Repr

/-- An error with the chain of its causes, the nearest first. -/
structure Error extends Fault where
  causes : List Cause
  deriving DecidableEq, Repr

/-- The message: the kind, the detail behind a colon, and the template in parentheses. -/
def Fault.message (fault : Fault) : String :=
  fault.kind.text ++ (fault.detail.map fun detail => ": " ++ detail).getD "" ++
    (fault.name.map fun name => " (in " ++ name ++ ")").getD ""

def Cause.message : Cause → String
  | .fault f => f.message
  | .foreign _ text => text
  | .unreadable => "<io>"

def Fault.fields (fault : Fault) : List (String × Inspection) :=
  [("kind", Inspection.atom fault.kind.name)] ++
    (fault.detail.map fun detail => ("detail", Inspection.text detail)).toList ++
    (fault.name.map fun name => ("name", Inspection.text name)).toList

def inspectCauses : List Cause → Option Inspection
  | [] => none
  | .fault f :: rest =>
    some (.record "Error"
      (f.fields ++ ((inspectCauses rest).map fun cause => ("source", cause)).toList))
  | .foreign type text :: _ => some (.tuple type [.text text])
  | .unreadable :: _ => some (.atom "<io>")

namespace Error

def ofKind (kind : ErrorKind) : Error := ⟨⟨kind, none, none⟩, []⟩

def new (kind : ErrorKind) (detail : String) : Error := ⟨⟨kind, some detail, none⟩, []⟩

/-- Puts another error, with all its causes, behind this one. -/
def causedBy (error cause : Error) : Error :=
  { error with causes := .fault cause.toFault :: cause.causes }

/-- Puts an error of another kind behind this one. -/
def causedByForeign (error : Error) (type text : String) : Error :=
  { error with causes := [.foreign type text] }

/-- Blames a template, unless one is blamed already. -/
def inTemplate (error : Error) (name : String) : Error :=
  { error with name := some (error.name.getD name) }

def message (error : Error) : String := error.toFault.message

/-- The message followed by the message of each cause on a line of its own. -/
def fullMessage (error : Error) : String :=
  error.message ++ String.join (error.causes.map fun cause => "\n  caused by: " ++ cause.message)

/-- Errors count as equal when their kinds are. -/
def alike (error other : Error) : Bool := error.kind == other.kind

def inspect (error : Error) : Inspection :=
  .record "Error" (error.toFault.fields ++
    ((inspectCauses error.causes).map fun cause => ("source", cause)).toList)

def templateNotFound (name : String) : Error :=
  new .templateNotFound ("template " ++ Text.quote name ++ " does not exist")

def unknownBlock (name : String) : Error :=
  new .unknownBlock ("block " ++ Text.quote name ++ " is not defined")

def noSuperBlock (name : String) : Error :=
  new .noSuperBlock ("block " ++ Text.quote name ++ " has no parent body")

def superOutsideBlock : Error := new .invalidOperation "cannot super outside of block"

def unknownFilter (name : String) : Error :=
  new .unknownFilter ("filter " ++ name ++ " is unknown")

def stackUnderflow : Error := new .invalidOperation "stack underflow"

def noCompiler : Error := new .compileError "no template compiler configured"

/-- What a failed compilation is reported as: an error of the right kind as it is, and any other as
the cause of one. -/
def asCompileError (error : Error) : Error :=
  if error.kind = .compileError then error
  else (new .compileError "template failed to compile").causedBy error

def secondRoot : Error := new .compileError "module has more than one root export"

def unnamedBlock : Error := new .compileError "block export without a block name"

def missingRoot : Error := new .compileError "module has no root export"

/-- Data that cannot be turned into a value, for the given reason. -/
def notConvertible (reason : String) : Error :=
  (new .badSerialization "could not convert value").causedByForeign "Error" reason

def dataNotMap (kind : String) : Error :=
  new .badSerialization ("render data must be a map, got " ++ kind)

def localsNotMap (key kind : String) : Error :=
  new .invalidArguments (key ++ " must be a map, got " ++ kind)

def unreadableTemplate : Error :=
  { new .invalidOperation "could not read template" with causes := [.unreadable] }

def writerFailed : Error := new .writeFailure "formatting failed"

end Error

end Stencil
