namespace ClientGen.Proto

inductive Form
  | request
  | file
  | message
  | field
  | oneof
  | enum
  | value
  | service
  | method
  | extensionRange
  | numberRange
  | sourceInfo
  | location
  | fileOptions
  | messageOptions
  | fieldOptions
  | oneofOptions
  | enumOptions
  | valueOptions
  | serviceOptions
  | methodOptions
  | rangeOptions
  | uninterpretedOption
  | namePart
deriving DecidableEq, Repr

/-- How a known field is encoded. `options` are records that are also read as they are declared. -/
inductive Encoding
  | int
  | ints
  | fixed64
  | text
  | blob
  | record (form : Form)
  | options (form : Form)
deriving DecidableEq, Repr

def Form.encoding? : Form → Nat → Option Encoding
  | .request, n => match n with
    | 1 | 2 => some .text
    | 15 => some .blob
    | _ => none
  | .file, n => match n with
    | 1 | 2 | 3 | 12 => some .text
    | 4 => some (.record .message)
    | 5 => some (.record .enum)
    | 6 => some (.record .service)
    | 7 => some (.record .field)
    | 8 => some (.options .fileOptions)
    | 9 => some (.record .sourceInfo)
    | 10 | 11 => some .ints
    | _ => none
  | .message, n => match n with
    | 1 | 10 => some .text
    | 2 | 6 => some (.record .field)
    | 3 => some (.record .message)
    | 4 => some (.record .enum)
    | 5 => some (.record .extensionRange)
    | 7 => some (.options .messageOptions)
    | 8 => some (.record .oneof)
    | 9 => some (.record .numberRange)
    | _ => none
  | .field, n => match n with
    | 1 | 2 | 6 | 7 | 10 => some .text
    | 3 | 4 | 5 | 9 | 17 => some .int
    | 8 => some (.options .fieldOptions)
    | _ => none
  | .oneof, n => match n with
    | 1 => some .text
    | 2 => some (.options .oneofOptions)
    | _ => none
  | .enum, n => match n with
    | 1 | 5 => some .text
    | 2 => some (.record .value)
    | 3 => some (.options .enumOptions)
    | 4 => some (.record .numberRange)
    | _ => none
  | .value, n => match n with
    | 1 => some .text
    | 2 => some .int
    | 3 => some (.options .valueOptions)
    | _ => none
  | .service, n => match n with
    | 1 => some .text
    | 2 => some (.record .method)
    | 3 => some (.options .serviceOptions)
    | _ => none
  | .method, n => match n with
    | 1 | 2 | 3 => some .text
    | 4 => some (.options .methodOptions)
    | 5 | 6 => some .int
    | _ => none
  | .extensionRange, n => match n with
    | 1 | 2 => some .int
    | 3 => some (.options .rangeOptions)
    | _ => none
  | .numberRange, n => match n with
    | 1 | 2 => some .int
    | _ => none
  | .sourceInfo, n => match n with
    | 1 => some (.record .location)
    | _ => none
  | .location, n => match n with
    | 1 | 2 => some .ints
    | 3 | 4 | 6 => some .text
    | _ => none
  | .fileOptions, n => match n with
    | 1 | 8 | 11 | 36 | 37 | 39 | 40 | 41 | 44 | 45 => some .text
    | 9 | 10 | 16 | 17 | 18 | 20 | 23 | 27 | 31 | 42 => some .int
    | 999 => some (.record .uninterpretedOption)
    | _ => none
  | .messageOptions, n => match n with
    | 1 | 2 | 3 | 7 => some .int
    | 999 => some (.record .uninterpretedOption)
    | _ => none
  | .fieldOptions, n => match n with
    | 1 | 2 | 3 | 5 | 6 | 10 => some .int
    | 999 => some (.record .uninterpretedOption)
    | _ => none
  | .oneofOptions, n => match n with
    | 999 => some (.record .uninterpretedOption)
    | _ => none
  | .enumOptions, n => match n with
    | 2 | 3 => some .int
    | 999 => some (.record .uninterpretedOption)
    | _ => none
  | .valueOptions, n => match n with
    | 1 => some .int
    | 999 => some (.record .uninterpretedOption)
    | _ => none
  | .serviceOptions, n => match n with
    | 33 => some .int
    | 999 => some (.record .uninterpretedOption)
    | _ => none
  | .methodOptions, n => match n with
    | 33 | 34 => some .int
    | 999 => some (.record .uninterpretedOption)
    | _ => none
  | .rangeOptions, n => match n with
    | 999 => some (.record .uninterpretedOption)
    | _ => none
  | .uninterpretedOption, n => match n with
    | 2 => some (.record .namePart)
    | 3 | 8 => some .text
    | 4 | 5 => some .int
    | 6 => some .fixed64
    | 7 => some .blob
    | _ => none
  | .namePart, n => match n with
    | 1 => some .text
    | 2 => some .int
    | _ => none

def Form.declaredName? : Form → Option String
  | .fileOptions => some "google.protobuf.FileOptions"
  | .messageOptions => some "google.protobuf.MessageOptions"
  | .fieldOptions => some "google.protobuf.FieldOptions"
  | .oneofOptions => some "google.protobuf.OneofOptions"
  | .enumOptions => some "google.protobuf.EnumOptions"
  | .valueOptions => some "google.protobuf.EnumValueOptions"
  | .serviceOptions => some "google.protobuf.ServiceOptions"
  | .methodOptions => some "google.protobuf.MethodOptions"
  | .rangeOptions => some "google.protobuf.ExtensionRangeOptions"
  | _ => none

end ClientGen.Proto
