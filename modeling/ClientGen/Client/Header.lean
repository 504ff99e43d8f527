import ClientGen.Code
import ClientGen.Import.Block
import ClientGen.Options

namespace ClientGen.Header

open Code

def license : Code :=
  lines [
    "// Licensed under the Apache License, Version 2.0 (the \"License\");",
    "// you may not use this file except in compliance with the License.",
    "// You may obtain a copy of the License at",
    "//",
    "//     https://www.apache.org/licenses/LICENSE-2.0",
    "//",
    "// Unless required by applicable law or agreed to in writing, software",
    "// distributed under the License is distributed on an \"AS IS\" BASIS,",
    "// WITHOUT WARRANTIES OR CONDITIONS OF ANY KIND, either express or implied.",
    "// See the License for the specific language governing permissions and",
    "// limitations under the License."]

def copyright : Option Int32 → String
  | some year => s!"// Copyright {year.toInt} Google LLC"
  | none => "// Copyright Google LLC"

/-- Standard packages and the others are set apart by a blank line. -/
def importBlock (imports : ImportSet) : Code :=
  let std := (imports.sorted.take imports.boundary).map ImportSpec.render
  let others := (imports.sorted.drop imports.boundary).map ImportSpec.render
  when (!imports.isEmpty) [
    parens "import " [
      lines std,
      when (!std.isEmpty && !others.isEmpty) [blank],
      lines others],
    blank]

def code (options : Options) (imports : ImportSet) (doc : Option String) : Code :=
  seq [
    line (copyright options.copyrightYear),
    line "//",
    license,
    blank,
    line "// Code generated by protoc-gen-go_gapic. DO NOT EDIT.",
    blank,
    doc.elim [] comment,
    line s!"package {options.pkgName}",
    blank,
    importBlock imports]

end ClientGen.Header
