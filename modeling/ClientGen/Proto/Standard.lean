import ClientGen.Proto.Form
import ClientGen.Proto.Linked

namespace ClientGen.Proto.Standard

open Schema (FieldKind)

/-! The option messages as the format itself declares them. They hold where a schema declares none. -/

def scalars (kind : FieldKind) (fields : List (Nat × String)) : List Slot :=
  fields.map fun (number, name) => { name, number, type := .scalar kind }

def choice (number : Nat) (name typeName : String) (values : List (String × Int32)) : Slot :=
  { name, number, type := .enum typeName values }

def partName : String := "google.protobuf.UninterpretedOption.NamePart"

def settingName : String := "google.protobuf.UninterpretedOption"

def settings : Slot :=
  { name := "uninterpreted_option", number := 999, type := .message settingName, repeated := true }

def fileOptions : List Slot :=
  scalars .string [(1, "java_package"), (8, "java_outer_classname"), (11, "go_package"),
    (36, "objc_class_prefix"), (37, "csharp_namespace"), (39, "swift_prefix"),
    (40, "php_class_prefix"), (41, "php_namespace"), (44, "php_metadata_namespace"),
    (45, "ruby_package")] ++
  scalars .bool [(10, "java_multiple_files"), (20, "java_generate_equals_and_hash"),
    (27, "java_string_check_utf8"), (16, "cc_generic_services"), (17, "java_generic_services"),
    (18, "py_generic_services"), (42, "php_generic_services"), (23, "deprecated"),
    (31, "cc_enable_arenas")] ++
  [choice 9 "optimize_for" "google.protobuf.FileOptions.OptimizeMode"
    [("SPEED", 1), ("CODE_SIZE", 2), ("LITE_RUNTIME", 3)]]

def messageOptions : List Slot :=
  scalars .bool [(1, "message_set_wire_format"), (2, "no_standard_descriptor_accessor"),
    (3, "deprecated"), (7, "map_entry")]

def fieldOptions : List Slot :=
  scalars .bool [(2, "packed"), (5, "lazy"), (15, "unverified_lazy"), (3, "deprecated"),
    (10, "weak")] ++
  [choice 1 "ctype" "google.protobuf.FieldOptions.CType"
    [("STRING", 0), ("CORD", 1), ("STRING_PIECE", 2)],
   choice 6 "jstype" "google.protobuf.FieldOptions.JSType"
    [("JS_NORMAL", 0), ("JS_STRING", 1), ("JS_NUMBER", 2)]]

def methodOptions : List Slot :=
  scalars .bool [(33, "deprecated")] ++
  [choice 34 "idempotency_level" "google.protobuf.MethodOptions.IdempotencyLevel"
    [("IDEMPOTENCY_UNKNOWN", 0), ("NO_SIDE_EFFECTS", 1), ("IDEMPOTENT", 2)]]

def options : Form → List Slot
  | .fileOptions => fileOptions
  | .messageOptions => messageOptions
  | .fieldOptions => fieldOptions
  | .enumOptions => scalars .bool [(2, "allow_alias"), (3, "deprecated")]
  | .valueOptions => scalars .bool [(1, "deprecated")]
  | .serviceOptions => scalars .bool [(33, "deprecated")]
  | .methodOptions => methodOptions
  | _ => []

def setting : MessageType where
  name := settingName
  fields :=
    [{ name := "name", number := 2, type := .message partName, repeated := true }] ++
    scalars .string [(3, "identifier_value"), (8, "aggregate_value")] ++
    scalars .uint64 [(4, "positive_int_value")] ++ scalars .int64 [(5, "negative_int_value")] ++
    scalars .double [(6, "double_value")] ++ scalars .bytes [(7, "string_value")]

def part : MessageType where
  name := partName
  fields := scalars .string [(1, "name_part")] ++ scalars .bool [(2, "is_extension")]

def types (form : Form) (name : String) : List MessageType :=
  [{ name, fields := options form ++ [settings] }, setting, part]

end ClientGen.Proto.Standard
