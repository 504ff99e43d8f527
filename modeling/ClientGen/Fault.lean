import ClientGen.Text.Numeral
import ClientGen.Text.Quoted

namespace ClientGen

open Text

inductive Diagnostic
  | unresolvedReference (text : String)
  | ambiguousPaging (method message : String) (count : Nat)
  | missingPageElement (method message : String)
  | unsupported (text : String)
  | annotationMissing (text : String)
  | invalidParameter (text : String)
  | general (text : String)
deriving DecidableEq, Repr

def Diagnostic.message : Diagnostic → String
  | .unresolvedReference text => s!"unresolved reference: {text}"
  | .ambiguousPaging method message count =>
    s!"{method} looks like a paging method, but too many repeated fields in {message} ({count})"
  | .missingPageElement method message =>
    s!"{method} looks like a paging method, but can't find repeated field in {message}"
  | .unsupported text => s!"not yet supported: {text}"
  | .annotationMissing text => s!"missing annotation: {text}"
  | .invalidParameter text => s!"invalid parameter: {text}"
  | .general text => s!"General Error: {text}"

inductive Fault
  | unknownFile (name : String)
  | unknownType (name : String)
  | wrongNode (name label : String)
  | undeclared (name : String)
  | outsidePackage (name package : String)
  | noPackageHint (file : String)
  | emptyImportPath (file : String)
  | noPackageName (path file : String)
  | untypedField (field : String)
  | ambiguousPaging (method message : String) (count : Nat)
  | missingPageElement (method message : String)
  | enumPaging (field : String)
  | noDefaultHost (service : String)
  | notKeyValue (part : String)
  | badPackage (value : String)
  | badYear (value : String) (fault : NumeralFault)
  | unknownParameter (key : String)
  | noPackageParameter
deriving DecidableEq, Repr

namespace Fault

def diagnostic : Fault → Diagnostic
  | .unknownFile name => .unresolvedReference s!"file {name} is not part of the request"
  | .unknownType name => .unresolvedReference s!"type {name} not found in descriptor set"
  | .wrongNode name label => .unresolvedReference s!"{name} is a {label}, expected a message"
  | .undeclared name => .unresolvedReference s!"no file declares {name}"
  | .outsidePackage name package =>
    .unresolvedReference s!"{name} is not declared in package {package}"
  | .noPackageHint file => .unresolvedReference s!"{file} has no go_package option"
  | .emptyImportPath file => .unresolvedReference s!"{file} has an empty go_package import path"
  | .noPackageName path file =>
    .unresolvedReference s!"cannot derive a package name from go_package {quoted path} in {file}"
  | .untypedField field => .unresolvedReference s!"message field {field} has no type name"
  | .ambiguousPaging method message count => .ambiguousPaging method message count
  | .missingPageElement method message => .missingPageElement method message
  | .enumPaging field => .unsupported s!"paging over enum field {field}"
  | .noDefaultHost service =>
    .annotationMissing s!"service {service} has no google.api.default_host"
  | .notKeyValue part => .invalidParameter s!"expected key=value, got {quoted part}"
  | .badPackage value => .invalidParameter s!"bad go-gapic-package {quoted value}, expected path;name"
  | .badYear value fault => .invalidParameter s!"copyright-year {quoted value}: {fault.message}"
  | .unknownParameter key => .invalidParameter s!"unknown parameter {quoted key}"
  | .noPackageParameter =>
    .invalidParameter "need go-gapic-package parameter, e.g. go-gapic-package=path/to/pkg;name"

def message (fault : Fault) : String :=
  fault.diagnostic.message

end Fault

end ClientGen
